/-
Arguments of constraints and the shapes they may have.

- `Shape.accepts`: a shape asks for a kind of argument and nothing more; whether a pattern is well formed is asked
  elsewhere.
-/
import EntitySchema.Decimal.Number

namespace EntitySchema

open EntitySchema.Decimal

/-- the argument of a constraint, as written -/
inductive Argument where
  | number (n : Number)
  | boolean (b : Bool)
  | text (s : String)
deriving DecidableEq, Repr

/-- the argument in a message: texts stand between single quotes -/
def Argument.display : Argument → String
  | .number n => n.text
  | .boolean b => if b then "true" else "false"
  | .text s => "'" ++ s ++ "'"

def Argument.unsignedZero : Argument → Argument
  | .number n => .number n.unsignedZero
  | a => a

/-- what a constraint asks of its argument -/
inductive Shape where
  /-- there must be none -/
  | absent
  /-- a whole number of 64 bits with sign -/
  | integer
  /-- such a number that is not negative -/
  | length
  /-- a text that is not empty -/
  | pattern
deriving DecidableEq, Repr

def Shape.all : List Shape := [.absent, .integer, .length, .pattern]

def Shape.describe : Shape → String
  | .absent => "no value"
  | .integer => "an integer"
  | .length => "a non-negative integer"
  | .pattern => "a non-empty pattern"

def Shape.accepts : Shape → Option Argument → Bool
  | .absent, none => true
  | .integer, some (.number (.integer _)) => true
  | .length, some (.number (.integer n)) => 0 ≤ n.toInt
  | .pattern, some (.text s) => !s.isEmpty
  | _, _ => false

end EntitySchema
