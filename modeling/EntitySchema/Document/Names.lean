/-
The names that a document declares, each once and in order of first declaration. Where in the document a name is
declared does not matter to references.
-/
import EntitySchema.Document.Basic
import EntitySchema.Keyed
import EntitySchema.Vocabulary.Storage

namespace EntitySchema

structure Names where
  entities : NameSet := .empty
  enumerations : NameSet := .empty
deriving DecidableEq

namespace Names

def isEntity (names : Names) (name : String) : Bool := names.entities.contains name

def isEnumeration (names : Names) (name : String) : Bool := names.enumerations.contains name

/-- the type of this name: a builtin type of the storage, or else a declared enumeration -/
def fieldType? (names : Names) (storage : Storage) (name : String) : Option FieldType :=
  match storage.builtin? name with
  | some b => some (.builtin b)
  | none => if names.isEnumeration name then some (.enumeration name) else none

end Names

def Document.names (d : Document) : Names where
  entities := .ofList d.entityNames
  enumerations := .ofList d.enumerationNames

end EntitySchema
