/-
Documents: declarations as written, in order and unchecked. Names may be empty, types unknown, references dangling.

- `Document.append`: one document after another, which is how several are joined.
- `Document.agrees`: two documents say the same; numbers count as equal when their values are, so the zeros are.
-/
import EntitySchema.Vocabulary.Argument

namespace EntitySchema

/-- a constraint on a field, with its argument -/
structure Clause where
  key : String
  argument : Option Argument := none
deriving DecidableEq, Repr

structure FieldDecl where
  name : String
  type : String
  clauses : List Clause := []
  comment : Option String := none
deriving DecidableEq, Repr

structure EntityDecl where
  name : String := ""
  table : Option String := none
  fields : List FieldDecl := []
  comment : Option String := none
deriving DecidableEq, Repr

/-- the name of the field that every entity has by itself -/
def reservedField : String := "id"

/-- the fields other than the reserved one -/
def EntityDecl.ownFields (e : EntityDecl) : List FieldDecl := e.fields.filter fun f => f.name != reservedField

structure EnumDecl where
  name : String := ""
  values : List String := []
deriving DecidableEq, Repr

/-- one end of a relationship: an entity, and what the relationship adds to it -/
structure EndDecl where
  entity : String
  injected : Option String := none
  comment : Option String := none
  required : Bool := false
deriving DecidableEq, Repr

structure RelationshipDecl where
  cardinality : String
  source : EndDecl
  target : EndDecl
deriving DecidableEq, Repr

/-- a directive to generators about some entities -/
structure DirectiveDecl where
  name : String
  value : Option String := none
  targets : List String := []
  excluded : List String := []
deriving DecidableEq, Repr

/-- the declarations of one or more texts -/
structure Document where
  entities : List EntityDecl := []
  enumerations : List EnumDecl := []
  relationships : List RelationshipDecl := []
  directives : List DirectiveDecl := []
deriving DecidableEq, Repr

namespace Document

def empty : Document := {}

/-- the declarations of `d` and after them those of `e` -/
def append (d e : Document) : Document where
  entities := d.entities ++ e.entities
  enumerations := d.enumerations ++ e.enumerations
  relationships := d.relationships ++ e.relationships
  directives := d.directives ++ e.directives

instance : Append Document := ⟨append⟩

def join (ds : List Document) : Document := ds.foldl append empty

def isEmpty (d : Document) : Bool :=
  d.entities.isEmpty && d.enumerations.isEmpty && d.relationships.isEmpty && d.directives.isEmpty

/-- the names of the entities as declared, repetitions included -/
def entityNames (d : Document) : List String := d.entities.map EntityDecl.name

/-- the names of the enumerations as declared, repetitions included -/
def enumerationNames (d : Document) : List String := d.enumerations.map EnumDecl.name

end Document

def FieldDecl.unsignedZeros (f : FieldDecl) : FieldDecl :=
  { f with clauses := f.clauses.map fun c => { c with argument := c.argument.map Argument.unsignedZero } }

def Document.unsignedZeros (d : Document) : Document :=
  { d with entities := d.entities.map fun e => { e with fields := e.fields.map FieldDecl.unsignedZeros } }

/-- the documents hold the same declarations in the same order -/
def Document.agrees (d e : Document) : Bool := d.unsignedZeros == e.unsignedZeros

end EntitySchema
