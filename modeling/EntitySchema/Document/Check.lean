/-
Checking a document against a storage technology. The first violation in this order is the outcome: names of entities,
enumerations, the fields of each entity, relationships, directives. References may go to any declaration, earlier or
later, and every declaration is checked, also one that a later one replaces.

The field `id` is reserved: whatever a document says of it is dropped, so it is not checked as part of its entity.
-/
import EntitySchema.Document.Names
import EntitySchema.Outcome
import EntitySchema.Pattern.Basic
import EntitySchema.Problem
import EntitySchema.Vocabulary.Cardinality

namespace EntitySchema

open Outcome

namespace Document

/-! ## Names -/

def checkEntityName (e : EntityDecl) : Except Problem Unit := require (!e.name.isEmpty) .namelessEntity

/-- the value is not empty and not among the earlier ones -/
def checkValue (enumeration : String) (earlier : List String) (value : String) : Except Problem Unit :=
  (require (!value.isEmpty) (.emptyValue enumeration)).bind fun _ =>
    require (value ∉ earlier) (.repeatedValue enumeration value)

/-- the enumeration has a name, and values that differ -/
def checkEnumeration (e : EnumDecl) : Except Problem Unit :=
  (require (!e.name.isEmpty) .namelessEnumeration).bind fun _ =>
    (require (!e.values.isEmpty) (.noValues e.name)).bind fun _ => eachAfter (checkValue e.name) [] e.values

/-- check names and enumerations -/
def checkNames (d : Document) : Except Problem Unit :=
  (each checkEntityName d.entities).bind fun _ => each checkEnumeration d.enumerations

/-! ## Fields -/

/-- a text that a constraint has as its pattern is one -/
def checkPattern : Constraint → Option Argument → Except ClauseProblem Unit
  | .pattern, some (.text pattern) =>
    match Pattern.fault? pattern.toList with
    | some fault => .error (.badPattern pattern fault)
    | none => .ok ()
  | _, _ => .ok ()

/-- the constraint is known, fits the type and has an argument that fits it -/
def checkConstraint (type : FieldType) (c : Clause) : Except ClauseProblem Constraint :=
  match Constraint.ofName? c.key with
  | none => .error (.unknown c.key)
  | some k =>
    (require (type.supports k) (.unsupported k type)).bind fun _ =>
      (require (k.shape.accepts c.argument) (.wrongShape k c.argument)).bind fun _ =>
        (checkPattern k c.argument).map fun _ => k

/-- the clause is in order, and no earlier one is about the same constraint -/
def checkClause (type : FieldType) (earlier : List Clause) (c : Clause) : Except ClauseProblem Unit :=
  (checkConstraint type c).bind fun k => require (c.key ∉ earlier.map Clause.key) (.repeated k)

/-- the field has a type, and clauses that fit it -/
def checkField (storage : Storage) (names : Names) (entity : String) (f : FieldDecl) : Except Problem Unit :=
  match names.fieldType? storage f.type with
  | none => .error (.unknownType storage entity f.name f.type)
  | some type => (eachAfter (checkClause type) [] f.clauses).mapError (.clause entity f.name)

/-- the field has a name that no earlier one has, and is in order -/
def checkNamedField (storage : Storage) (names : Names) (entity : String) (earlier : List FieldDecl)
    (f : FieldDecl) : Except Problem Unit :=
  (require (!f.name.isEmpty) (.namelessField entity)).bind fun _ =>
    (require (f.name ∉ earlier.map FieldDecl.name) (.repeatedField entity f.name)).bind fun _ =>
      checkField storage names entity f

/-- the fields of the entity are in order -/
def checkEntity (storage : Storage) (names : Names) (e : EntityDecl) : Except Problem Unit :=
  eachAfter (checkNamedField storage names e.name) [] e.ownFields

/-! ## Relationships -/

def checkEnd (names : Names) (r : RelationshipDecl) (entity : String) : Except Problem Unit :=
  (require (!entity.isEmpty) .namelessEnd).bind fun _ =>
    require (names.isEntity entity) (.undeclaredEnd r.source.entity r.target.entity entity)

/-- the cardinality is known, and both ends are declared -/
def checkRelationship (names : Names) (r : RelationshipDecl) : Except Problem Unit :=
  (require (Cardinality.ofName? r.cardinality).isSome (.unknownCardinality r.cardinality)).bind fun _ =>
    (checkEnd names r r.source.entity).bind fun _ => checkEnd names r r.target.entity

/-! ## Directives -/

/-- the value, or its absence, fits the topic -/
def checkDirectiveValue (topic : Topic) (value : Option String) : Except Problem Unit :=
  match topic, value with
  | .flag _, none => .ok ()
  | .flag _, some v => .error (.superfluousValue topic v)
  | .setting _, none => .error (.noValue topic)
  | .setting o, some v => require (o.accepts v) (.wrongValue o v)

/-- the topic is known, the value fits it, and all targets and exceptions are declared -/
def checkDirective (names : Names) (d : DirectiveDecl) : Except Problem Unit :=
  match Topic.ofName? d.name with
  | none => .error (.unknownDirective d.name)
  | some topic =>
    (checkDirectiveValue topic d.value).bind fun _ =>
      (require (!d.targets.isEmpty) (.noTarget topic)).bind fun _ =>
        (each (fun t => require (t == wildcard || names.isEntity t) (.undeclaredTarget topic t)) d.targets).bind
          fun _ => each (fun t => require (names.isEntity t) (.undeclaredExclusion topic t)) d.excluded

/-! ## The whole document -/

/-- check everything but names and enumerations -/
def checkUses (storage : Storage) (names : Names) (d : Document) : Except Problem Unit :=
  (each (checkEntity storage names) d.entities).bind fun _ =>
    (each (checkRelationship names) d.relationships).bind fun _ => each (checkDirective names) d.directives

def check (storage : Storage) (d : Document) : Except Problem Unit :=
  d.checkNames.bind fun _ => d.checkUses storage d.names

/-- the names that the document declares, if they are in order -/
def names? (d : Document) : Except Problem Names := d.checkNames.map fun _ => d.names

/-- the names that the document declares, if everything is in order -/
def validate (storage : Storage) (d : Document) : Except Problem Names := (d.check storage).map fun _ => d.names

end Document

end EntitySchema
