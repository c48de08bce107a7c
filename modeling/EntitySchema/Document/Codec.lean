/-
The text of a document: records within lists, as a grammar of the modelling language emits them.

Each kind of declaration is a record; `Members` describes it once for reading and writing.
-/
import EntitySchema.Document.Basic
import EntitySchema.Json.Record

namespace EntitySchema

open EntitySchema.Json

/-- a member that must be there -/
def needed {α : Type} (name : String) (c : Codec α) : Member α := ⟨name, c, none⟩

/-- a member that may be left off -/
def spare {α : Type} (name : String) (c : Codec α) (absent : α) : Member α := ⟨name, c, some absent⟩

/-- arguments: any number, truth value or text. A list or an object is read to its end before it is refused. -/
def Argument.codec : Codec Argument where
  read levels t :=
    (t.check levels).bind fun _ => match t with
      | .plain ⟨.ok (.number n), _⟩ => .ok (.number n)
      | .plain ⟨.ok (.bool b), _⟩ => .ok (.boolean b)
      | .text t => t.strict.map .text
      | _ => .error (.noVariant "ValidationValue")
  write a := match a with
    | .number n => .scalar (.number n)
    | .boolean b => .bool b
    | .text s => .text s

def Clause.members : Members [String, Option Argument] :=
  .cons (needed "key" .text) (.cons (spare "value" (.optional Argument.codec) none) .nil)

def Clause.codec : Codec Clause :=
  (Clause.members.codec "struct RawValidation").imap
    (fun (key, argument, _) => ⟨key, argument⟩) (fun c => (c.key, c.argument, ()))

def FieldDecl.members : Members [String, String, List Clause, Option String] :=
  .cons (needed "name" .text) (.cons (needed "type" .text) (.cons (spare "validations" (.list Clause.codec) [])
    (.cons (spare "javadoc" (.optional .text) none) .nil)))

def FieldDecl.codec : Codec FieldDecl :=
  (FieldDecl.members.codec "struct RawField").imap
    (fun (name, type, clauses, comment, _) => ⟨name, type, clauses, comment⟩)
    (fun f => (f.name, f.type, f.clauses, f.comment, ()))

def EntityDecl.members : Members [String, Option String, List FieldDecl, Option String] :=
  .cons (spare "name" .text "") (.cons (spare "tableName" (.optional .text) none)
    (.cons (spare "body" (.list FieldDecl.codec) []) (.cons (spare "javadoc" (.optional .text) none) .nil)))

def EntityDecl.codec : Codec EntityDecl :=
  (EntityDecl.members.codec "struct RawEntity").imap
    (fun (name, table, fields, comment, _) => ⟨name, table, fields, comment⟩)
    (fun e => (e.name, e.table, e.fields, e.comment, ()))

def EnumDecl.members : Members [String, List String] :=
  .cons (spare "name" .text "") (.cons (spare "values" (.list .text) []) .nil)

def EnumDecl.codec : Codec EnumDecl :=
  (EnumDecl.members.codec "struct RawEnum").imap
    (fun (name, values, _) => ⟨name, values⟩) (fun e => (e.name, e.values, ()))

def EndDecl.members : Members [String, Option String, Option String, Bool] :=
  .cons (needed "name" .text) (.cons (spare "injectedField" (.optional .text) none)
    (.cons (spare "javadoc" (.optional .text) none) (.cons (spare "required" .bool false) .nil)))

def EndDecl.codec : Codec EndDecl :=
  (EndDecl.members.codec "struct RawRelationshipSide").imap
    (fun (entity, injected, comment, required, _) => ⟨entity, injected, comment, required⟩)
    (fun e => (e.entity, e.injected, e.comment, e.required, ()))

def RelationshipDecl.members : Members [String, EndDecl, EndDecl] :=
  .cons (needed "cardinality" .text) (.cons (needed "from" EndDecl.codec) (.cons (needed "to" EndDecl.codec) .nil))

def RelationshipDecl.codec : Codec RelationshipDecl :=
  (RelationshipDecl.members.codec "struct RawRelationship").imap
    (fun (cardinality, source, target, _) => ⟨cardinality, source, target⟩)
    (fun r => (r.cardinality, r.source, r.target, ()))

def DirectiveDecl.members : Members [String, Option String, List String, List String] :=
  .cons (needed "name" .text) (.cons (spare "value" (.optional .text) none)
    (.cons (spare "list" (.list .text) []) (.cons (spare "excluded" (.list .text) []) .nil)))

def DirectiveDecl.codec : Codec DirectiveDecl :=
  (DirectiveDecl.members.codec "struct RawOption").imap
    (fun (name, value, targets, excluded, _) => ⟨name, value, targets, excluded⟩)
    (fun d => (d.name, d.value, d.targets, d.excluded, ()))

def Document.members :
    Members [List EntityDecl, List EnumDecl, List RelationshipDecl, List DirectiveDecl] :=
  .cons (spare "entities" (.list EntityDecl.codec) []) (.cons (spare "enums" (.list EnumDecl.codec) [])
    (.cons (spare "relationships" (.list RelationshipDecl.codec) [])
      (.cons (spare "options" (.list DirectiveDecl.codec) []) .nil)))

def Document.codec : Codec Document :=
  (Document.members.codec "struct RawDocument").imap
    (fun (entities, enumerations, relationships, directives, _) =>
      ⟨entities, enumerations, relationships, directives⟩)
    (fun d => (d.entities, d.enumerations, d.relationships, d.directives, ()))

/-- the document that a text holds; `null` holds none -/
def Document.ofText (text : String) : Except Fault (Option Document) := (Codec.optional Document.codec).ofText text

def Document.render (d : Document) : String := Document.codec.render d

end EntitySchema
