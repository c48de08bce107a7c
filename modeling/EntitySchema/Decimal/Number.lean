/-
Numbers as a structured text holds them. A literal without fraction and exponent is a whole number as long as it fits 64
bits, with or without sign; every other literal, minus zero among them, is the binary number nearest to it.

- `Literal.number?`: the number of a literal; none where it is past every binary number.
- `Number.text`: a whole number in digits; a binary number by its shortest decimal, written out while its leading digit
  stands between the fifth place after the point and the sixteenth before it, with a power of ten otherwise.
-/
import EntitySchema.Decimal.Shortest

namespace EntitySchema.Decimal

/-- a number of a structured text -/
inductive Number where
  /-- a whole number of 64 bits with sign -/
  | integer (n : Int64)
  /-- a whole number past those, but within 64 bits without sign -/
  | large (n : Nat) (fits : 1 <<< 63 ≤ n ∧ n < 1 <<< 64)
  /-- any other number -/
  | real (x : Binary64)
deriving DecidableEq, Repr

/-- a number as written: sign, digits, digits after the point, power of ten with its sign -/
structure Literal where
  negative : Bool
  whole : List Char
  fraction : Option (List Char)
  exponent : Option (Bool × List Char)
deriving DecidableEq, Repr

def digitsValue (ds : List Char) : Nat := ds.foldl (fun n d => 10 * n + (d.toNat - '0'.toNat)) 0

namespace Literal

/-- no fraction and no exponent -/
def isWhole (w : Literal) : Bool := w.fraction.isNone && w.exponent.isNone

/-- the digits before and after the point, as one number -/
def digits (w : Literal) : Nat := digitsValue (w.whole ++ w.fraction.getD [])

/-- the power of ten that the digits are multiplied by -/
def power (w : Literal) : Int :=
  let e := match w.exponent with
    | none => 0
    | some (negative, ds) => if negative then -(digitsValue ds : Int) else digitsValue ds
  e - (w.fraction.getD []).length

/-- the binary number nearest to the literal. A reader that rounds more than once on its way may come out one unit in the
last place beside it, which shows in the text of the number and at the edge of the range; here it is always the nearest. -/
def real? (w : Literal) : Option Number := (Binary64.ofDecimal w.negative w.digits w.power).map .real

def number? (w : Literal) : Option Number :=
  if w.isWhole then
    let n := w.digits
    if w.negative then
      if 0 < n && n ≤ 1 <<< 63 then some (.integer (Int64.ofInt (-n))) else w.real?
    else if n < 1 <<< 63 then some (.integer (Int64.ofInt n))
    else if h : 1 <<< 63 ≤ n ∧ n < 1 <<< 64 then some (.large n h)
    else w.real?
  else w.real?

end Literal

structure Layout where
  /-- the least and greatest place of the leading digit that is still written out -/
  leastPlain : Int
  greatestPlain : Int
deriving DecidableEq, Repr

/-- binary numbers are written out from `0.00001` up to below `10 ^ 16` -/
def numberLayout : Layout := ⟨-5, 15⟩

/-- the decimal `digits · 10 ^ power` in a layout; written out it always has a point -/
def Layout.write (layout : Layout) (digits : Nat) (power : Int) : String :=
  let ds := Nat.toDigits 10 digits
  let place := power + ds.length - 1
  if layout.leastPlain ≤ place && place ≤ layout.greatestPlain then
    if 0 ≤ power then String.ofList (ds ++ List.replicate power.toNat '0') ++ ".0"
    else if 0 ≤ place then
      String.ofList (ds.take (place.toNat + 1)) ++ "." ++ String.ofList (ds.drop (place.toNat + 1))
    else "0." ++ String.ofList (List.replicate (-place - 1).toNat '0' ++ ds)
  else
    let rest := ds.drop 1
    String.ofList (ds.take 1) ++ (if rest.isEmpty then "" else "." ++ String.ofList rest) ++
      "e" ++ (if place < 0 then "-" else "+") ++ toString place.natAbs

/-- a binary number in decimal: the fewest digits that round to it -/
def Binary64.text (x : Binary64) : String :=
  (if x.negative then "-" else "") ++
    if x.isZero then "0.0"
    else
      let (digits, power) := shortest x.mantissa x.exponent
      numberLayout.write digits power

def Number.text : Number → String
  | .integer n => toString n.toInt
  | .large n _ => toString n
  | .real x => x.text

def Number.unsignedZero : Number → Number
  | .real x => .real (if x.isZero then .zero false else x)
  | n => n

end EntitySchema.Decimal
