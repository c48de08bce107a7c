/-
Storage technologies and the builtin types that each of them can hold.
-/
import EntitySchema.Vocabulary.FieldType

namespace EntitySchema

/-- where the entities are kept -/
inductive Storage where
  | sql
  | mongodb
  | cassandra
deriving DecidableEq, Repr

namespace Storage

def all : List Storage := [sql, mongodb, cassandra]

def name : Storage → String
  | sql => "sql"
  | mongodb => "mongodb"
  | cassandra => "cassandra"

def ofName? (s : String) : Option Storage := all.find? fun t => t.name == s

/-- the types of the technologies that hold documents and blobs -/
def commonTypes : List Builtin :=
  [.string, .integer, .long, .bigDecimal, .float, .double, .boolean, .localDate, .zonedDateTime, .instant, .blob,
   .anyBlob, .imageBlob, .textBlob]

/-- the builtin types that the technology can hold -/
def types : Storage → List Builtin
  | sql => commonTypes
  | mongodb => commonTypes
  | cassandra => [.string, .integer, .long, .bigDecimal, .float, .double, .boolean, .date, .uuid, .instant]

/-- the builtin type of this name, if the technology can hold it -/
def builtin? (t : Storage) (s : String) : Option Builtin := t.types.find? fun b => b.name == s

def isBuiltin (t : Storage) (s : String) : Bool := (t.builtin? s).isSome

def constraints? (t : Storage) (s : String) : Option (List Constraint) := (t.builtin? s).map Builtin.constraints

def supports (t : Storage) (s : String) (k : Constraint) : Bool := (t.constraints? s).any fun ks => k ∈ ks

end Storage

end EntitySchema
