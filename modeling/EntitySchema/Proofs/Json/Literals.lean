/-
Numbers as written, in every way that the rules of digits allow. A literal before anything that no number goes on with is
one lexeme, and it is a whole number of 64 bits just when it is written as one: without fraction and exponent, not as a
zero with a sign, and with a value in the range.

- `Literal.SpelledBy`: the ways to write a literal.
- `Literal.Denotes`, `Literal.number?_eq_integer_iff`: which literals are whole numbers of 64 bits, and which numbers they
  are.
- `scanNumber_spelled`, `lexemes_spelled`: a literal is scanned as it is written, whatever follows it.
-/
import EntitySchema.Json.Lexeme

namespace EntitySchema

/-! ## Literals as written -/

namespace Decimal

structure SomeDigits (ds : List Char) : Prop where
  nonempty : ds ≠ []
  digits : ∀ d ∈ ds, d.isDigit

/-- the digits of a whole number as they are written: a zero comes first only alone -/
structure WholeDigits (ds : List Char) : Prop extends SomeDigits ds where
  zero : ds.head? = some '0' → ds = ['0']

namespace Literal

/-- the ways to write the digits after the point -/
inductive SpelledFraction : Option (List Char) → List Char → Prop
  | none : SpelledFraction none []
  | some {ds : List Char} (hds : SomeDigits ds) : SpelledFraction (some ds) ('.' :: ds)

/-- the ways to write the sign of a power of ten -/
inductive SpelledSign : Bool → List Char → Prop
  | none : SpelledSign false []
  | plus : SpelledSign false ['+']
  | minus : SpelledSign true ['-']

/-- the ways to write a power of ten -/
inductive SpelledExponent : Option (Bool × List Char) → List Char → Prop
  | none : SpelledExponent none []
  | some {negative : Bool} {mark : Char} {sign ds : List Char} (hmark : mark = 'e' ∨ mark = 'E')
    (hsign : SpelledSign negative sign) (hds : SomeDigits ds) :
    SpelledExponent (some (negative, ds)) (mark :: (sign ++ ds))

/-- the ways to write a literal after its sign -/
inductive UnsignedBy (w : Literal) : List Char → Prop
  | intro {fraction exponent : List Char} (hwhole : WholeDigits w.whole) (hfraction : SpelledFraction w.fraction fraction)
    (hexponent : SpelledExponent w.exponent exponent) : UnsignedBy w (w.whole ++ (fraction ++ exponent))

theorem UnsignedBy.of_whole {w : Literal} (hwhole : WholeDigits w.whole) (hfraction : w.fraction = none)
    (hexponent : w.exponent = none) : UnsignedBy w w.whole := by
  obtain ⟨negative, whole, fraction, exponent⟩ := w
  subst hfraction hexponent
  have h : UnsignedBy ⟨negative, whole, Option.none, Option.none⟩ (whole ++ ([] ++ [])) := .intro hwhole .none .none
  rwa [List.append_nil, List.append_nil] at h

theorem UnsignedBy.exists_digit {w : Literal} {cs : List Char} (h : UnsignedBy w cs) :
    ∃ d ds, cs = d :: ds ∧ d.isDigit := by
  cases h with
  | @intro fraction exponent hwhole =>
    cases hds : w.whole with
    | nil => exact absurd hds hwhole.nonempty
    | cons d ds => exact ⟨d, ds ++ (fraction ++ exponent), rfl, hwhole.digits d (by simp [hds])⟩

/-- the ways to write a literal -/
inductive SpelledBy (w : Literal) : List Char → Prop
  | positive {cs : List Char} (hpositive : w.negative = false) (h : UnsignedBy w cs) : SpelledBy w cs
  | negative {cs : List Char} (hnegative : w.negative = true) (h : UnsignedBy w cs) : SpelledBy w ('-' :: cs)

/-! ## Literals that are whole numbers -/

/-- the literal is the number as a whole number is written: no fraction, no power of ten, and no sign before a zero -/
structure Denotes (w : Literal) (z : Int) : Prop where
  fraction : w.fraction = none
  exponent : w.exponent = none
  unsigned : w.negative = true → digitsValue w.whole ≠ 0
  value : z = if w.negative then -(digitsValue w.whole : Int) else digitsValue w.whole

theorem Denotes.unique {w : Literal} {y z : Int} (hy : w.Denotes y) (hz : w.Denotes z) : y = z := by
  rw [hy.value, hz.value]

theorem real?_ne_integer (w : Literal) (n : Int64) : w.real? ≠ some (.integer n) := by
  rw [real?]
  cases Binary64.ofDecimal w.negative w.digits w.power <;> simp

theorem number?_of_part {w : Literal} (h : ¬ (w.fraction = none ∧ w.exponent = none)) : w.number? = w.real? := by
  have hpart : w.isWhole = false := by
    rw [Bool.eq_false_iff]
    intro hwhole
    rw [isWhole, Bool.and_eq_true, Option.isNone_iff_eq_none, Option.isNone_iff_eq_none] at hwhole
    exact h hwhole
  rw [number?, hpart, if_neg Bool.false_ne_true]

/-- without fraction and power of ten, the digits and the sign decide -/
theorem number?_of_whole {w : Literal} (hfraction : w.fraction = none) (hexponent : w.exponent = none) {n : Int64} :
    w.number? = some (.integer n) ↔
      if w.negative then
        (0 < digitsValue w.whole ∧ digitsValue w.whole ≤ 1 <<< 63) ∧ Int64.ofInt (-(digitsValue w.whole : Int)) = n
      else digitsValue w.whole < 1 <<< 63 ∧ Int64.ofInt (digitsValue w.whole) = n := by
  have hwhole : w.isWhole = true := by rw [isWhole, hfraction, hexponent]; rfl
  have hdigits : w.digits = digitsValue w.whole := by rw [digits, hfraction, Option.getD_none, List.append_nil]
  have hreal := w.real?_ne_integer n
  simp only [number?, hwhole, hdigits, if_true, Bool.and_eq_true, decide_eq_true_eq]
  cases w.negative with
  | true =>
    simp only [if_true]
    by_cases hrange : 0 < digitsValue w.whole ∧ digitsValue w.whole ≤ 1 <<< 63
    · rw [if_pos hrange, Option.some.injEq, Number.integer.injEq]
      exact (and_iff_right hrange).symm
    · rw [if_neg hrange]
      constructor
      · intro h
        exact absurd h hreal
      · intro h
        exact absurd h.1 hrange
  | false =>
    simp only [Bool.false_eq_true, if_false]
    by_cases hsmall : digitsValue w.whole < 1 <<< 63
    · rw [if_pos hsmall, Option.some.injEq, Number.integer.injEq]
      exact (and_iff_right hsmall).symm
    · rw [if_neg hsmall]
      constructor
      · intro h
        split at h
        · cases h
        · exact absurd h hreal
      · intro h
        exact absurd h.1 hsmall

/-- **Whole numbers.** A literal is a whole number of 64 bits with sign just when it is written as this number. -/
theorem number?_eq_integer_iff {w : Literal} {n : Int64} : w.number? = some (.integer n) ↔ w.Denotes n.toInt := by
  by_cases hwhole : w.fraction = none ∧ w.exponent = none
  · obtain ⟨hfraction, hexponent⟩ := hwhole
    have hlow : -2 ^ 63 ≤ n.toInt := n.le_toInt
    have hhigh : n.toInt < 2 ^ 63 := n.toInt_lt
    rw [number?_of_whole hfraction hexponent]
    cases hsign : w.negative with
    | true =>
      constructor
      · intro h
        obtain ⟨⟨hpos, hle⟩, rfl⟩ := h
        refine ⟨hfraction, hexponent, fun _ => by omega, ?_⟩
        rw [hsign, if_pos rfl, Int64.toInt_ofInt_of_le (by omega) (by omega)]
      · intro h
        have hne := h.unsigned hsign
        have hvalue := h.value
        rw [hsign, if_pos rfl] at hvalue
        exact ⟨by omega, by rw [← hvalue, Int64.ofInt_toInt]⟩
    | false =>
      constructor
      · intro h
        obtain ⟨hlt, rfl⟩ := h
        refine ⟨hfraction, hexponent, fun hneg => absurd (hsign.symm.trans hneg) Bool.false_ne_true, ?_⟩
        rw [hsign, if_neg Bool.false_ne_true, Int64.toInt_ofInt_of_le (by omega) (by omega)]
      · intro h
        have hvalue := h.value
        rw [hsign, if_neg Bool.false_ne_true] at hvalue
        exact ⟨by omega, by rw [← hvalue, Int64.ofInt_toInt]⟩
  · rw [number?_of_part hwhole]
    constructor
    · intro h
      exact absurd h (w.real?_ne_integer n)
    · intro h
      exact absurd ⟨h.fraction, h.exponent⟩ hwhole

end Literal

end Decimal

namespace Json

open EntitySchema.Decimal

/-! ## Scanning -/

def NoDigit (cs : List Char) : Prop := ∀ c ∈ cs.head?, c.isDigit = false

/-- no number goes on with these characters -/
def Delimited (cs : List Char) : Prop := ∀ c ∈ cs.head?, c.isDigit = false ∧ c ∉ ['.', 'e', 'E']

theorem delimited_nil : Delimited [] := by simp [Delimited]

theorem delimited_cons {c : Char} {cs : List Char} (h : c.isDigit = false) (hc : c ∉ ['.', 'e', 'E']) :
    Delimited (c :: cs) := by
  simpa [Delimited] using ⟨h, by simpa using hc⟩

theorem Delimited.noDigit {cs : List Char} (h : Delimited cs) : NoDigit cs := fun c hc => (h c hc).1

theorem scanDigits_append {ds rest : List Char} (h : SomeDigits ds) (hr : NoDigit rest) :
    scanDigits (ds ++ rest) = .ok (ds, rest) := by
  have hstop : rest.takeWhile Char.isDigit = [] ∧ rest.dropWhile Char.isDigit = rest := by
    cases rest with
    | nil => simp
    | cons c cs => simp [hr c rfl]
  cases ds with
  | nil => exact absurd rfl h.nonempty
  | cons d ds =>
    rw [List.cons_append, scanDigits, if_pos (h.digits d List.mem_cons_self), ← List.cons_append,
      List.takeWhile_append_of_pos h.digits, List.dropWhile_append_of_pos h.digits, hstop.1, hstop.2, List.append_nil]

theorem scanWhole_append {ds rest : List Char} (h : WholeDigits ds) (hr : NoDigit rest) :
    scanWhole (ds ++ rest) = .ok (ds, rest) := by
  by_cases hzero : ds.head? = some '0'
  · have hnext : rest.head?.any Char.isDigit = false := by
      rw [Option.any_eq_false]
      intro c hc
      simp [hr c hc]
    rw [h.zero hzero, List.cons_append, List.nil_append, scanWhole, if_neg (by simp [hnext])]
  · rw [scanWhole]
    · exact scanDigits_append h.toSomeDigits hr
    · intro cs hcs
      cases ds with
      | nil => exact h.nonempty rfl
      | cons d ds => simp_all

section

variable {rest : List Char}

theorem scanFraction_spelled {fraction : Option (List Char)} {cs : List Char} (h : Literal.SpelledFraction fraction cs)
    (hr : NoDigit rest) (hpoint : rest.head? ≠ some '.') : scanFraction (cs ++ rest) = .ok (fraction, rest) := by
  cases h with
  | none =>
    rw [List.nil_append, scanFraction]
    rintro cs rfl
    exact hpoint rfl
  | some hds =>
    rw [List.cons_append, scanFraction, scanDigits_append hds hr]
    rfl

theorem noDigit_fraction {fraction : Option (List Char)} {cs : List Char} (h : Literal.SpelledFraction fraction cs)
    (hr : NoDigit rest) : NoDigit (cs ++ rest) := by
  cases h with
  | none => exact hr
  | some => simp [NoDigit]

theorem scanPower_spelled {negative : Bool} {sign ds : List Char} (hsign : Literal.SpelledSign negative sign)
    (hds : SomeDigits ds) (hr : NoDigit rest) : scanPower (sign ++ ds ++ rest) = .ok ((negative, ds), rest) := by
  have hscan := scanDigits_append hds hr
  cases hsign with
  | none =>
    -- a digit comes first, so no sign does
    have hfirst : ∀ c, (ds ++ rest).head? = some c → c.isDigit = true := by
      intro c hc
      cases ds with
      | nil => exact absurd rfl hds.nonempty
      | cons d ds =>
        obtain rfl := Option.some.inj hc
        exact hds.digits _ List.mem_cons_self
    rw [List.nil_append, scanPower, hscan]
    · rfl
    · intro cs hcs
      exact absurd (hfirst '-' (by rw [hcs]; rfl)) (by decide)
    · intro cs hcs
      exact absurd (hfirst '+' (by rw [hcs]; rfl)) (by decide)
  | plus =>
    rw [List.cons_append, List.cons_append, List.nil_append, scanPower, hscan]
    rfl
  | minus =>
    rw [List.cons_append, List.cons_append, List.nil_append, scanPower, hscan]
    rfl

variable (hr : Delimited rest)
include hr

theorem scanExponent_spelled {exponent : Option (Bool × List Char)} {cs : List Char}
    (h : Literal.SpelledExponent exponent cs) : scanExponent (cs ++ rest) = .ok (exponent, rest) := by
  cases h with
  | none =>
    rw [List.nil_append, scanExponent]
    all_goals
      rintro cs rfl
      simp [Delimited] at hr
  | some hmark hsign hds =>
    have hscan := scanPower_spelled hsign hds hr.noDigit
    rcases hmark with rfl | rfl
    · rw [List.cons_append, scanExponent, hscan]
      rfl
    · rw [List.cons_append, scanExponent, hscan]
      rfl

/-- a power of ten does not go on with what stands before it -/
theorem head?_exponent {exponent : Option (Bool × List Char)} {cs : List Char} (h : Literal.SpelledExponent exponent cs) :
    NoDigit (cs ++ rest) ∧ (cs ++ rest).head? ≠ some '.' := by
  cases h with
  | none =>
    refine ⟨hr.noDigit, ?_⟩
    intro hpoint
    exact absurd (hr '.' hpoint).2 (by decide)
  | some hmark =>
    have hhead : ∀ {c : Char} {ds : List Char}, c.isDigit = false → c ≠ '.' →
        NoDigit (c :: ds) ∧ (c :: ds).head? ≠ some '.' := by
      intro c ds hdigit hpoint
      exact ⟨by simpa [NoDigit] using hdigit, by simpa using hpoint⟩
    rcases hmark with rfl | rfl
    · exact hhead (by decide) (by decide)
    · exact hhead (by decide) (by decide)

theorem scanNumber_spelled {w : Literal} {cs : List Char} (h : w.UnsignedBy cs) :
    scanNumber w.negative (cs ++ rest) = .ok (w, rest) := by
  cases h with
  | intro hwhole hfraction hexponent =>
    obtain ⟨hdigit, hpoint⟩ := head?_exponent hr hexponent
    rw [List.append_assoc, List.append_assoc]
    simp only [scanNumber, scanWhole_append hwhole (noDigit_fraction hfraction hdigit),
      scanFraction_spelled hfraction hdigit hpoint, scanExponent_spelled hr hexponent]

end

/-! ## The lexeme of a literal -/

def numberOf (w : Literal) : Except Fault Number :=
  match w.number? with
  | some n => .ok n
  | none => .error .numberOutOfRange

/-- a number as a token; one that is out of range does no harm where it is passed over -/
def numberToken (r : Except Fault Number) : Token Scalar := ⟨r.map .number, none⟩

theorem numberLexeme_spelled {w : Literal} {cs rest : List Char} (h : w.UnsignedBy cs) (hr : Delimited rest) :
    numberLexeme w.negative (cs ++ rest) = (.plain (numberToken (numberOf w)), some rest) := by
  simp only [numberLexeme, scanNumber_spelled hr h, numberOf]
  cases w.number? with
  | none => rfl
  | some n => rfl

theorem lexemes_cons {c : Char} {cs rest : List Char} {l : Lexeme} (hc : isSpace c = false)
    (h : lexeme c cs = (l, some rest)) : lexemes (c :: cs) = l :: lexemes rest := by
  rw [lexemes, if_neg (by simp [hc])]
  split
  · rename_i broken
    cases h.symm.trans broken
  · rename_i whole
    cases h.symm.trans whole
    rfl

theorem lexeme_digit {d : Char} (h : d.isDigit) (cs : List Char) : lexeme d cs = numberLexeme false (d :: cs) := by
  unfold lexeme
  split
  iterate 11
    · exact absurd h (by decide)
  · rw [if_pos h]

theorem isSpace_digit {d : Char} (h : d.isDigit) : isSpace d = false := by
  rw [Bool.eq_false_iff]
  intro space
  simp only [isSpace, Bool.or_eq_true, beq_iff_eq] at space
  rcases space with ((rfl | rfl) | rfl) | rfl
  all_goals exact absurd h (by decide)

/-- **One lexeme.** A literal is cut into its own lexeme, and what follows it into its lexemes. -/
theorem lexemes_spelled {w : Literal} {cs rest : List Char} (h : w.SpelledBy cs) (hr : Delimited rest) :
    lexemes (cs ++ rest) = .plain (numberToken (numberOf w)) :: lexemes rest := by
  cases h with
  | negative hnegative hcs =>
    have hnumber := numberLexeme_spelled hcs hr
    rw [hnegative] at hnumber
    exact lexemes_cons (by decide) hnumber
  | positive hpositive hcs =>
    have hnumber := numberLexeme_spelled hcs hr
    rw [hpositive] at hnumber
    obtain ⟨d, ds, hd, hdigit⟩ := hcs.exists_digit
    rw [hd, List.cons_append] at hnumber ⊢
    rw [← lexeme_digit hdigit] at hnumber
    exact lexemes_cons (isSpace_digit hdigit) hnumber

end Json

end EntitySchema
