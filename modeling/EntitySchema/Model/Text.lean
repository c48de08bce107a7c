/-
The text of a model, for generators. Comments, injected fields, arguments and exceptions are left off where there are
none.
-/
import EntitySchema.Document.Codec
import EntitySchema.Model.Basic

namespace EntitySchema

open EntitySchema.Json

/-- a member that is left off where there is no value -/
def memberIf {α : Type} (name : String) (write : α → Value) : Option α → List (String × Value)
  | none => []
  | some a => [(name, write a)]

def Rule.toValue (r : Rule) : Value :=
  .object (("name", .text r.constraint.name) :: memberIf "value" Argument.codec.write r.argument)

def Field.toValue (f : Field) : Value :=
  .object ([("name", .text f.name), ("type", .text f.type.name),
    ("validations", .object (f.rules.rows.map fun r => (r.constraint.name, r.toValue)))] ++
      memberIf "comment" .text f.comment)

def Entity.toValue (e : Entity) : Value :=
  .object ([("name", .text e.name), ("tableName", .text e.table),
    ("fields", .object (e.fields.rows.map fun f => (f.name, f.toValue)))] ++ memberIf "comment" .text e.comment)

def namesValue (names : List String) : Value := .list (names.map .text)

def Enumeration.toValue (e : Enumeration) : Value :=
  .object [("name", .text e.name), ("values", namesValue e.values)]

def End.toValue (e : End) : Value :=
  .object (("entity", .text e.entity) ::
    (memberIf "injectedField" .text e.injected ++ memberIf "comment" .text e.comment ++
      [("required", .bool e.required)]))

def Relationship.toValue (r : Relationship) : Value :=
  .object [("kind", .text r.cardinality.name), ("from", r.source.toValue), ("to", r.target.toValue)]

def Directive.toValue (d : Directive) : Value :=
  .object ([("kind", .text (if d.subject.topic.isSetting then "binary" else "unary")),
    ("name", .text d.subject.topic.name)] ++ memberIf "value" .text d.subject.value? ++
      [("entityNames", namesValue d.targets.rows)] ++
        (if d.excluded.rows.isEmpty then [] else [("excludedNames", namesValue d.excluded.rows)]))

def Model.toValue (m : Model) : Value :=
  .object [
    ("entities", .object (m.entities.rows.map fun e => (e.name, e.toValue))),
    ("enums", .object (m.enumerations.rows.map fun e => (e.name, e.toValue))),
    ("relationships", .list (m.relationships.map Relationship.toValue)),
    ("options", .list (m.directives.map Directive.toValue))]

/-- the compact text of a model -/
def Model.render (m : Model) : String := m.toValue.render

end EntitySchema
