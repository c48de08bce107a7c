/-
What is written is spelled by the rules. A quoted text is written with the units that stand for its characters, and a
whole number as a literal that denotes it.

- `spelledBy_writeText`, `standsFor_pieceOf`: the units of a written text, which stand for its characters.
- `lexemes_writeText`: so a written text is one lexeme, whatever follows it.
- `spelledBy_wholeLiteral`, `denotes_wholeLiteral`: a whole number is written as a literal that denotes it.
- `number?_wholeLiteral_int64`, `number?_wholeLiteral_large`: the digits of a whole number make up the number.
-/
import EntitySchema.Proofs.Json.Symbols

namespace EntitySchema.Json

open EntitySchema.Decimal

/-! ## Quoted texts -/

/-- the unit that stands for a character between quotes: its code where it has no other escape -/
def pieceOf (c : Char) : Piece :=
  if shortEscape c = none ∧ c.toNat < 0x20 then .code c.toNat else .char c

theorem hexValue?_hexDigit : ∀ n < 16, hexValue? (hexDigit n) = some n := by decide

theorem hexValue4?_control {n : Nat} (h : n < 0x20) :
    hexValue4? '0' '0' (hexDigit (n / 16)) (hexDigit (n % 16)) = some n := by
  simp only [hexValue4?, hexValue?_hexDigit (n / 16) (by omega), hexValue?_hexDigit (n % 16) (by omega),
    show hexValue? '0' = some 0 by decide, Option.bind_eq_bind, Option.bind_some, Option.pure_def, Option.some.injEq]
  omega

theorem mem_namedEscapes_of_shortEscape {c e : Char} (h : shortEscape c = some e) : (e, c) ∈ namedEscapes := by
  unfold shortEscape at h
  repeat' split at h
  all_goals cases h
  all_goals subst_vars; decide

/-- a character is written as its unit is spelled -/
theorem spelledBy_writeChar (c : Char) : (pieceOf c).SpelledBy (writeChar c) := by
  unfold writeChar pieceOf
  cases h : shortEscape c with
  | some e => simpa using Piece.SpelledBy.escape (mem_namedEscapes_of_shortEscape h)
  | none =>
    by_cases hc : c.toNat < 0x20
    · simpa [hc] using Piece.SpelledBy.code (hexValue4?_control hc)
    · have hquote : c ≠ '"' := by rintro rfl; nomatch h
      have hbackslash : c ≠ '\\' := by rintro rfl; nomatch h
      simpa [hc] using Piece.SpelledBy.plain hquote hbackslash hc

/-- the units of characters stand for these characters -/
theorem standsFor_pieceOf (cs : List Char) : StandsFor (cs.map pieceOf) cs := by
  induction cs with
  | nil => exact .nil
  | cons c cs ih =>
    rw [List.map_cons, pieceOf]
    split
    · rename_i h
      have hlow : isLowSurrogate c.toNat = false := by simp [isLowSurrogate]; omega
      have hhigh : isHighSurrogate c.toNat = false := by simp [isHighSurrogate]; omega
      simpa using StandsFor.code hlow hhigh ih
    · exact .char c ih

/-- a text is written as its units are spelled -/
theorem spelledBy_writeText (s : String) : (Symbol.text (s.toList.map pieceOf)).SpelledBy (writeText s) := by
  refine .text ⟨s.toList.map writeChar, ?_, List.flatMap_def⟩
  rw [List.forall₂_map_left_iff, List.forall₂_map_right_iff, List.forall₂_same]
  exact fun c _ => spelledBy_writeChar c

theorem textToken_pieceOf (s : String) : textToken (s.toList.map pieceOf) = ⟨.ok s, none⟩ :=
  textToken_of_standsFor (standsFor_pieceOf s.toList)

/-- a written text is cut into its own lexeme, whatever follows it -/
theorem lexemes_writeText (s : String) (rest : List Char) :
    lexemes (writeText s ++ rest) = .text ⟨.ok s, none⟩ :: lexemes rest := by
  rw [(spelledBy_writeText s).lexemes_eq (fun hnumber => nomatch hnumber), Symbol.lexeme, textToken_pieceOf]

/-! ## Whole numbers -/

theorem eq_zero_of_toDigits {n : Nat} (h : Nat.toDigits 10 n = ['0']) : n = 0 := by
  rw [← Nat.ofDigitChars_ten_toDigits (n := n), h]
  rfl

theorem wholeDigits_toDigits (n : Nat) : WholeDigits (Nat.toDigits 10 n) where
  nonempty := Nat.toDigits_ne_nil
  digits _ := Nat.isDigit_of_mem_toDigits (by decide) (by decide)
  zero := by
    induction n using Nat.strongRecOn with
    | ind n ih =>
      rcases Nat.lt_or_ge n 10 with small | big
      · rw [Nat.toDigits_of_lt_base small]
        simp
      · -- the leading digit is that of `n / 10`, which is not zero
        rw [Nat.toDigits_of_base_le (by decide) big]
        intro h
        cases e : Nat.toDigits 10 (n / 10) with
        | nil => exact absurd e Nat.toDigits_ne_nil
        | cons d ds =>
          have := eq_zero_of_toDigits (ih (n / 10) (by omega) (by simpa [e] using h))
          omega

/-- the literal that a whole number is written as -/
def wholeLiteral (z : Int) : Literal := ⟨z < 0, Nat.toDigits 10 z.natAbs, none, none⟩

theorem toList_toString_int (z : Int) :
    (toString z).toList = (if z < 0 then ['-'] else []) ++ (wholeLiteral z).whole := by
  rw [Int.toString_eq_repr, Int.repr_eq_if]
  split
  · simp [wholeLiteral, Nat.toList_repr, show ¬z < 0 by omega, show z.natAbs = z.toNat by omega]
  · simp [wholeLiteral, Nat.toList_repr, show z < 0 by omega, show z.natAbs = (-z).toNat by omega]

theorem spelledBy_wholeLiteral (z : Int) : (wholeLiteral z).SpelledBy (toString z).toList := by
  have hunsigned : (wholeLiteral z).UnsignedBy (wholeLiteral z).whole := .of_whole (wholeDigits_toDigits _) rfl rfl
  rw [toList_toString_int]
  split
  · rename_i hnegative
    exact .negative (decide_eq_true hnegative) hunsigned
  · rename_i hnegative
    exact .positive (decide_eq_false hnegative) hunsigned

theorem digitsValue_wholeLiteral (z : Int) : digitsValue (wholeLiteral z).whole = z.natAbs :=
  Nat.ofDigitChars_ten_toDigits

theorem denotes_wholeLiteral (z : Int) : (wholeLiteral z).Denotes z where
  fraction := rfl
  exponent := rfl
  unsigned hnegative := by
    have hz : z < 0 := of_decide_eq_true hnegative
    rw [digitsValue_wholeLiteral]
    omega
  value := by
    rw [digitsValue_wholeLiteral]
    by_cases hz : z < 0
    · rw [show (wholeLiteral z).negative = true from decide_eq_true hz, if_pos rfl]
      omega
    · rw [show (wholeLiteral z).negative = false from decide_eq_false hz, if_neg Bool.false_ne_true]
      omega

/-- the digits of a whole number of 64 bits with sign make up this number -/
theorem number?_wholeLiteral_int64 (n : Int64) : (wholeLiteral n.toInt).number? = some (.integer n) :=
  Literal.number?_eq_integer_iff.2 (denotes_wholeLiteral n.toInt)

/-- the digits of a whole number past these make up this number -/
theorem number?_wholeLiteral_large (n : Nat) (fits : 1 <<< 63 ≤ n ∧ n < 1 <<< 64) :
    (wholeLiteral n).number? = some (.large n fits) := by
  have past : ¬n < 1 <<< 63 := Nat.not_lt.mpr fits.1
  have sign : (wholeLiteral n).negative = false := by simp [wholeLiteral]
  have digits : (wholeLiteral n).digits = n := by
    rw [Literal.digits, show (wholeLiteral n).fraction = none from rfl, Option.getD_none, List.append_nil,
      digitsValue_wholeLiteral, Int.natAbs_natCast]
  simp only [Literal.number?, digits, sign, show (wholeLiteral n).isWhole from rfl,
    if_true, Bool.false_eq_true, if_false, past, fits, and_self, dite_true]

end EntitySchema.Json
