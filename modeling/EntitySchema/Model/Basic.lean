/-
Models: entities, enumerations, relationships and directives, resolved and ready for generators.

Entities, enumerations, fields and rules are looked up by name or kind; their order is that of first declaration.
Values are made by `new` and the `with` operations, which keep each table keyed by what its rows say themselves.
-/
import EntitySchema.Document.Basic
import EntitySchema.Keyed
import EntitySchema.Vocabulary.Cardinality
import EntitySchema.Vocabulary.Directive
import EntitySchema.Vocabulary.FieldType

namespace EntitySchema

/-- a constraint on a field, with its argument -/
structure Rule where
  constraint : Constraint
  argument : Option Argument := none
deriving DecidableEq, Repr

structure Field where
  name : String
  type : FieldType
  rules : Keyed Rule.constraint := .empty
  comment : Option String := none
deriving DecidableEq

namespace Field

/-- a field without rules and comment -/
def new (name : String) (type : FieldType) : Field := { name, type }

/-- add a rule; it takes the place of one of the same kind -/
def withRule (f : Field) (r : Rule) : Field := { f with rules := f.rules.insert r }

def withComment (f : Field) (comment : String) : Field := { f with comment := some comment }

def rule? (f : Field) (k : Constraint) : Option Rule := f.rules.find? k

end Field

structure Entity where
  name : String
  table : String
  fields : Keyed Field.name := .empty
  comment : Option String := none
deriving DecidableEq

namespace Entity

/-- an entity without fields and comment; its table has its name -/
def new (name : String) : Entity := { name, table := name }

def withTable (e : Entity) (table : String) : Entity := { e with table }

def withComment (e : Entity) (comment : String) : Entity := { e with comment := some comment }

/-- add a field; it takes the place of one of the same name. The reserved field is not added. -/
def withField (e : Entity) (f : Field) : Entity :=
  if f.name = reservedField then e else { e with fields := e.fields.insert f }

def field? (e : Entity) (name : String) : Option Field := e.fields.find? name

end Entity

structure Enumeration where
  name : String
  values : List String
deriving DecidableEq, Repr

def Enumeration.contains (e : Enumeration) (value : String) : Bool := value ∈ e.values

/-- one end of a relationship: an entity, and what the relationship adds to it -/
structure End where
  entity : String
  injected : Option String := none
  comment : Option String := none
  required : Bool := false
deriving DecidableEq, Repr

structure Relationship where
  cardinality : Cardinality
  source : End
  target : End
deriving DecidableEq, Repr

/-- one of the ends is at this entity -/
def Relationship.involves (r : Relationship) (entity : String) : Bool :=
  r.source.entity == entity || r.target.entity == entity

/-- a topic with the value that it calls for -/
inductive Subject where
  | flag (f : Flag)
  | setting (o : Setting) (value : String)
deriving DecidableEq, Repr

namespace Subject

def topic : Subject → Topic
  | flag f => .flag f
  | setting o _ => .setting o

def value? : Subject → Option String
  | flag _ => none
  | setting _ v => some v

end Subject

/-- a directive to generators: what it says, the entities it is about, and those it leaves out -/
structure Directive where
  subject : Subject
  targets : NameSet
  excluded : NameSet := .empty
deriving DecidableEq

namespace Directive

/-- a directive that leaves out nothing -/
def new (subject : Subject) (targets : List String) : Directive := { subject, targets := .ofList targets }

def withExcluded (d : Directive) (excluded : List String) : Directive := { d with excluded := .ofList excluded }

def appliesTo (d : Directive) (entity : String) : Bool := d.targets.contains entity

end Directive

structure Model where
  entities : Keyed Entity.name := .empty
  enumerations : Keyed Enumeration.name := .empty
  relationships : List Relationship := []
  directives : List Directive := []
deriving DecidableEq

namespace Model

def empty : Model := {}

def entity? (m : Model) (name : String) : Option Entity := m.entities.find? name

def containsEntity (m : Model) (name : String) : Bool := m.entities.contains name

/-- the names of the entities in order of first declaration -/
def entityNames (m : Model) : List String := m.entities.keys

def enumeration? (m : Model) (name : String) : Option Enumeration := m.enumerations.find? name

end Model

end EntitySchema
