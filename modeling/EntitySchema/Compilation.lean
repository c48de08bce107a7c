/-
From a document to its model: choose a storage technology, validate, build.

Validation is complete before anything is built, so a document that is refused yields no part of a model. What is given
is looked at in this order: the document, the technology, the declarations.
-/
import EntitySchema.Document.Check
import EntitySchema.Document.Codec
import EntitySchema.Model.Build

namespace EntitySchema

def Storage.select (name : String) : Except Problem Storage :=
  if name.isEmpty then .error .noStorage
  else
    match Storage.ofName? name with
    | some t => .ok t
    | none => .error (.unknownStorage name)

/-- a document that passes its check -/
structure Validated where
  document : Document
  storage : Storage
  names : Names
  valid : document.validate storage = .ok names

def Validated.build (v : Validated) : Model := v.document.build v.storage

/-- a document and the technology it is for, which is `sql` unless another is chosen -/
structure Compilation where
  document : Document
  storage : Storage := .sql

namespace Compilation

def withStorage (c : Compilation) (t : Storage) : Compilation := { c with storage := t }

def withStorageName (c : Compilation) (name : String) : Except Problem Compilation :=
  (Storage.select name).map c.withStorage

def validate (c : Compilation) : Except Problem Validated :=
  match h : c.document.validate c.storage with
  | .ok names => .ok ⟨c.document, c.storage, names, h⟩
  | .error p => .error p

end Compilation

/-- the model of a document for the technology of this name; both must be given -/
def compile (document : Option Document) (storage : Option String) : Except Problem Model :=
  match document, storage with
  | none, _ => .error .noDocument
  | some _, none => .error .noStorage
  | some d, some name =>
    ((Compilation.mk d .sql).withStorageName name).bind fun c => c.validate.map Validated.build

/-- the model of the document that a text holds -/
def compileText (text : String) (storage : Option String) : Except Problem Model :=
  match Document.ofText text with
  | .error f => .error (.unreadable f)
  | .ok d => compile d storage

end EntitySchema
