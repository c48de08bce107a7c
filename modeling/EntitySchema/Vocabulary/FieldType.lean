/-
Constraints, the builtin types of fields, and which constraints a type supports.

Whether a builtin type may be used at all depends on the storage; which constraints it supports does not.
-/
import EntitySchema.Vocabulary.Argument

namespace EntitySchema

/-- a constraint on the values of a field -/
inductive Constraint where
  | required
  | minLength
  | maxLength
  | pattern
  | min
  | max
  | minBytes
  | maxBytes
deriving DecidableEq, Repr

namespace Constraint

def all : List Constraint := [required, minLength, maxLength, pattern, min, max, minBytes, maxBytes]

def name : Constraint → String
  | required => "required"
  | minLength => "minlength"
  | maxLength => "maxlength"
  | pattern => "pattern"
  | min => "min"
  | max => "max"
  | minBytes => "minbytes"
  | maxBytes => "maxbytes"

def ofName? (s : String) : Option Constraint := all.find? fun k => k.name == s

def shape : Constraint → Shape
  | required => .absent
  | min | max => .integer
  | minLength | maxLength | minBytes | maxBytes => .length
  | pattern => .pattern

end Constraint

/-- a type that needs no declaration -/
inductive Builtin where
  | string
  | integer
  | long
  | bigDecimal
  | float
  | double
  | boolean
  | localDate
  | zonedDateTime
  | instant
  | date
  | uuid
  | blob
  | anyBlob
  | imageBlob
  | textBlob
deriving DecidableEq, Repr

namespace Builtin

def all : List Builtin :=
  [string, integer, long, bigDecimal, float, double, boolean, localDate, zonedDateTime, instant, date, uuid, blob,
   anyBlob, imageBlob, textBlob]

def name : Builtin → String
  | string => "String"
  | integer => "Integer"
  | long => "Long"
  | bigDecimal => "BigDecimal"
  | float => "Float"
  | double => "Double"
  | boolean => "Boolean"
  | localDate => "LocalDate"
  | zonedDateTime => "ZonedDateTime"
  | instant => "Instant"
  | date => "Date"
  | uuid => "UUID"
  | blob => "Blob"
  | anyBlob => "AnyBlob"
  | imageBlob => "ImageBlob"
  | textBlob => "TextBlob"

def ofName? (s : String) : Option Builtin := all.find? fun b => b.name == s

/-- the constraints that a field of this type may carry -/
def constraints : Builtin → List Constraint
  | string => [.required, .minLength, .maxLength, .pattern]
  | integer | long | bigDecimal | float | double => [.required, .min, .max]
  | blob | anyBlob | imageBlob => [.required, .minBytes, .maxBytes]
  | boolean | localDate | zonedDateTime | instant | date | uuid | textBlob => [.required]

/-- a field of this type may carry the constraint -/
def supports (b : Builtin) (k : Constraint) : Bool := k ∈ b.constraints

end Builtin

/-- the constraints that a field with an enumeration as its type may carry -/
def enumerationConstraints : List Constraint := [.required]

/-- the type of a field: a builtin type or a declared enumeration -/
inductive FieldType where
  | builtin (b : Builtin)
  | enumeration (name : String)
deriving DecidableEq, Repr

namespace FieldType

def name : FieldType → String
  | builtin b => b.name
  | enumeration n => n

def supports : FieldType → Constraint → Bool
  | builtin b, k => b.supports k
  | enumeration _, k => k ∈ enumerationConstraints

end FieldType

end EntitySchema
