/-
Double-precision binary numbers, exactly: a sign, a whole mantissa of at most 53 bits and a power of two. Rounding a
ratio goes to the nearest of them, a tie to the even mantissa.
-/

namespace EntitySchema.Decimal

/-- the number `± mantissa · 2 ^ exponent`; the mantissa has 53 bits unless the exponent is the least one -/
structure Binary64 where
  negative : Bool
  mantissa : Nat
  exponent : Int
deriving DecidableEq, Repr

namespace Binary64

/-- the least exponent, that of the numbers nearest to zero -/
def leastExponent : Int := -1074

def greatestExponent : Int := 971

/-- zero, which keeps its sign -/
def zero (negative : Bool) : Binary64 := ⟨negative, 0, leastExponent⟩

def isZero (x : Binary64) : Bool := x.mantissa == 0

/-- the whole number nearest to `num / den`, a tie to the even one -/
def roundedQuotient (num den : Nat) : Nat :=
  let q := num / den
  let r := num % den
  if den < 2 * r || (2 * r == den && q % 2 == 1) then q + 1 else q

/-- the ratio `num / den` divided by `2 ^ e`, as a ratio -/
def scaled (num den : Nat) (e : Int) : Nat × Nat :=
  if e < 0 then (num <<< (-e).toNat, den) else (num, den <<< e.toNat)

/-- the exponent at which `num / den` has a mantissa of 53 bits, or the least one -/
def exponentOf (num den : Nat) : Int :=
  let e := (num.log2 : Int) - den.log2 - 52
  let (n, d) := scaled num den e
  max (if n < d <<< 52 then e - 1 else e) leastExponent

/-- the number nearest to `± num / den`; none where that is past the greatest one -/
def ofRatio (negative : Bool) (num den : Nat) : Option Binary64 :=
  if num = 0 then some (zero negative)
  else
    let e := exponentOf num den
    let (n, d) := scaled num den e
    let m := roundedQuotient n d
    let (m, e) := if m = 1 <<< 53 then (1 <<< 52, e + 1) else (m, e)
    if greatestExponent < e then none else some ⟨negative, m, e⟩

/-- the number nearest to `± digits · 10 ^ power`; far past either end of the range no power is taken -/
def ofDecimal (negative : Bool) (digits : Nat) (power : Int) : Option Binary64 :=
  let places := (Nat.toDigits 10 digits).length + power
  if digits = 0 || places < -400 then some (zero negative)
  else if 400 < places then none
  else if power < 0 then ofRatio negative digits (Nat.pow 10 (-power).toNat)
  else ofRatio negative (digits * Nat.pow 10 power.toNat) 1

end Binary64

end EntitySchema.Decimal
