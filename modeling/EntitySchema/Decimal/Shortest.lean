/-
The shortest decimal of a binary number: of the decimals that round to it the one with the fewest digits, and of those
the nearest.

A binary number `m · 2 ^ e` is reached from all reals up to halfway to its neighbours, ends included when `m` is even.
On the grid of decimals with `n` digits only the two neighbours of the number need a look, and 17 digits always do.
-/
import EntitySchema.Decimal.Binary64

namespace EntitySchema.Decimal

def powerRatio (base : Nat) (power : Int) : Nat × Nat :=
  if power < 0 then (1, base.pow (-power).toNat) else (base.pow power.toNat, 1)

/-- the power of ten of the leading digit of `num / den` -/
def leadingPower (num den : Nat) : Int :=
  if den ≤ num then ((Nat.toDigits 10 (num / den)).length : Int) - 1
  else -((Nat.toDigits 10 ((den - 1) / num)).length : Int)

/-- drop zeros from the end of the digits and move them to the power -/
def dropZeros (digits : Nat) (power : Int) : Nat × Int :=
  if 0 < digits ∧ digits % 10 = 0 then dropZeros (digits / 10) (power + 1) else (digits, power)
termination_by digits
decreasing_by omega

/-- the multiple of `10 ^ power` that rounds to `m · 2 ^ e`, if one does: `x · a` is compared with quarters `t · b` -/
def hit (m : Nat) (e power : Int) : Option Nat :=
  let (tenNum, tenDen) := powerRatio 10 power
  let (quarterNum, quarterDen) := powerRatio 2 (e - 2)
  let a := tenNum * quarterDen
  let b := quarterNum * tenDen
  let low := if m = 1 <<< 52 && Binary64.leastExponent < e then 4 * m - 1 else 4 * m - 2
  let high := 4 * m + 2
  let x := 4 * m * b / a
  let below := if m % 2 = 0 then low * b ≤ x * a else low * b < x * a
  let above := if m % 2 = 0 then (x + 1) * a ≤ high * b else (x + 1) * a < high * b
  if below then
    if above then
      let down := 4 * m * b - x * a
      let up := (x + 1) * a - 4 * m * b
      some (if up < down || (up == down && x % 2 == 1) then x + 1 else x)
    else some x
  else if above then some (x + 1)
  else none

/-- digits and power of ten of the shortest decimal of `m · 2 ^ e`, for `m` not zero -/
def shortest (m : Nat) (e : Int) : Nat × Int :=
  let (num, den) := powerRatio 2 e
  let lead := leadingPower (m * num) den
  let found := (List.range 17).findSome? fun (n : Nat) => (hit m e (lead - n)).map fun x => (x, lead - n)
  let (digits, power) := found.getD (m, e)
  dropZeros digits power

end EntitySchema.Decimal
