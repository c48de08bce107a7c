/-
A structured text cut into lexemes. A lexeme that is broken, or a character that starts none, is the last one.

Words, numbers and quoted texts are judged twice. A value that is used must be fully correct (`strict`); one that is
passed over must only be delimited (`loose`), so a number past the range or half a surrogate pair does no harm there.

- `length_scanText_le`, `length_scanNumber_le`, `length_lexeme_le`: what is left after a lexeme is no longer than what
  was there, so cutting ends.
-/
import EntitySchema.Json.Fault
import EntitySchema.Outcome

namespace EntitySchema.Json

open EntitySchema.Decimal

/-- a blank between lexemes -/
def isSpace (c : Char) : Bool := c == ' ' || c == '\t' || c == '\n' || c == '\r'

/-! ## Quoted texts -/

/-- one unit between quotes: a character, or sixteen bits given by four digits -/
inductive Piece where
  | char (c : Char)
  | code (n : Nat)
deriving DecidableEq, Repr

def hexValue? (c : Char) : Option Nat :=
  if '0' ≤ c ∧ c ≤ '9' then some (c.toNat - '0'.toNat)
  else if 'a' ≤ c ∧ c ≤ 'f' then some (c.toNat - 'a'.toNat + 10)
  else if 'A' ≤ c ∧ c ≤ 'F' then some (c.toNat - 'A'.toNat + 10)
  else none

def hexValue4? (a b c d : Char) : Option Nat := do
  return ((((← hexValue? a) * 16 + (← hexValue? b)) * 16 + (← hexValue? c)) * 16 + (← hexValue? d))

/-- the character that a short escape stands for -/
def unescape? (c : Char) : Option Char :=
  if c = '"' then some '"'
  else if c = '\\' then some '\\'
  else if c = '/' then some '/'
  else if c = 'b' then some '\x08'
  else if c = 'f' then some '\x0c'
  else if c = 'n' then some '\n'
  else if c = 'r' then some '\r'
  else if c = 't' then some '\t'
  else none

/-- what is wrong when fewer than four characters follow `\u`: four bytes are looked at together -/
def shortHexFault (cs : List Char) : Fault :=
  if (String.ofList cs).utf8ByteSize < 4 then .endInText else .badHexDigit

/-- the units up to the closing quote and what follows it, or up to what is wrong -/
def scanText : List Char → List Piece × Except Fault (List Char)
  | [] => ([], .error .endInText)
  | '\\' :: 'u' :: a :: b :: c :: d :: cs =>
    match hexValue4? a b c d with
    | some n => let (ps, r) := scanText cs; (.code n :: ps, r)
    | none => ([], .error .badHexDigit)
  | '\\' :: 'u' :: cs => ([], .error (shortHexFault cs))
  | '\\' :: c :: cs =>
    match unescape? c with
    | some e => let (ps, r) := scanText cs; (.char e :: ps, r)
    | none => ([], .error .unknownEscape)
  | ['\\'] => ([], .error .endInText)
  | c :: cs =>
    if c = '"' then ([], .ok cs)
    else if c.toNat < 0x20 then ([], .error .controlCharacter)
    else let (ps, r) := scanText cs; (.char c :: ps, r)

/-- the first half of a surrogate pair -/
def isHighSurrogate (n : Nat) : Bool := 0xD800 ≤ n && n ≤ 0xDBFF

/-- the second half of a surrogate pair -/
def isLowSurrogate (n : Nat) : Bool := 0xDC00 ≤ n && n ≤ 0xDFFF

def joinSurrogates (high low : Nat) : Char := Char.ofNat (0x10000 + (high - 0xD800) * 0x400 + (low - 0xDC00))

/-- what is reported when the second half of a surrogate pair is missing at the end of the units: a fault that leaves
open whether it follows wins -/
def unfinishedFault : Option Fault → Fault
  | some .endInText => .endInText
  | some .badHexDigit => .badHexDigit
  | _ => .unfinishedSurrogate

/-- the characters of the units, surrogate pairs joined; `stop` is what is wrong after the last unit -/
def joinPieces (stop : Option Fault) : List Piece → Except Fault (List Char)
  | [] =>
    match stop with
    | none => .ok []
    | some f => .error f
  | .char c :: ps => (joinPieces stop ps).map (c :: ·)
  | [.code n] =>
    if isLowSurrogate n then .error .loneSurrogate
    else if isHighSurrogate n then .error (unfinishedFault stop)
    else (joinPieces stop []).map (Char.ofNat n :: ·)
  | .code n :: .char c :: ps =>
    if isLowSurrogate n then .error .loneSurrogate
    else if isHighSurrogate n then .error .unfinishedSurrogate
    else (joinPieces stop (.char c :: ps)).map (Char.ofNat n :: ·)
  | .code n :: .code m :: ps =>
    if isLowSurrogate n then .error .loneSurrogate
    else if isHighSurrogate n then
      if isLowSurrogate m then (joinPieces stop ps).map (joinSurrogates n m :: ·) else .error .loneSurrogate
    else (joinPieces stop (.code m :: ps)).map (Char.ofNat n :: ·)

/-! ## Words and numbers -/

/-- what follows the given letters -/
def scanWord : List Char → List Char → Except Fault (List Char)
  | [], cs => .ok cs
  | _ :: _, [] => .error .endInValue
  | w :: ws, c :: cs => if c = w then scanWord ws cs else .error .expectedWord

/-- the digits at the front, of which there must be one, and what follows them -/
def scanDigits : List Char → Except Fault (List Char × List Char)
  | [] => .error .endInValue
  | c :: cs =>
    if c.isDigit then .ok ((c :: cs).takeWhile Char.isDigit, (c :: cs).dropWhile Char.isDigit)
    else .error .badNumber

/-- the digits before the point: a zero stands alone -/
def scanWhole : List Char → Except Fault (List Char × List Char)
  | '0' :: cs => if cs.head?.any Char.isDigit then .error .badNumber else .ok (['0'], cs)
  | cs => scanDigits cs

/-- the digits after the point, if there is one -/
def scanFraction : List Char → Except Fault (Option (List Char) × List Char)
  | '.' :: cs => (scanDigits cs).map fun (ds, rest) => (some ds, rest)
  | cs => .ok (none, cs)

/-- sign and digits of the power of ten -/
def scanPower : List Char → Except Fault ((Bool × List Char) × List Char)
  | '-' :: cs => (scanDigits cs).map fun (ds, rest) => ((true, ds), rest)
  | '+' :: cs => (scanDigits cs).map fun (ds, rest) => ((false, ds), rest)
  | cs => (scanDigits cs).map fun (ds, rest) => ((false, ds), rest)

/-- the power of ten, if there is one -/
def scanExponent : List Char → Except Fault (Option (Bool × List Char) × List Char)
  | 'e' :: cs => (scanPower cs).map fun (p, rest) => (some p, rest)
  | 'E' :: cs => (scanPower cs).map fun (p, rest) => (some p, rest)
  | cs => .ok (none, cs)

/-- the number after its sign -/
def scanNumber (negative : Bool) (cs : List Char) : Except Fault (Literal × List Char) :=
  match scanWhole cs with
  | .error f => .error f
  | .ok (whole, cs) =>
    match scanFraction cs with
    | .error f => .error f
    | .ok (fraction, cs) =>
      match scanExponent cs with
      | .error f => .error f
      | .ok (exponent, cs) => .ok (⟨negative, whole, fraction, exponent⟩, cs)

/-! ## Lexemes -/

/-- a scalar as written: the value it has where it is used, and what is wrong with it even where it is passed over -/
structure Token (α : Type) where
  strict : Except Fault α
  loose : Option Fault

inductive Lexeme where
  | beginList
  | endList
  | beginObject
  | endObject
  | comma
  | colon
  | text (t : Token String)
  /-- a word or a number -/
  | plain (t : Token Scalar)
  /-- a character that starts no lexeme -/
  | stray

/-- a quoted text, after its opening quote -/
def textLexeme (cs : List Char) : Lexeme × Option (List Char) :=
  match scanText cs with
  | (ps, .ok rest) => (.text ⟨(joinPieces none ps).map String.ofList, none⟩, some rest)
  | (ps, .error f) => (.text ⟨(joinPieces (some f) ps).map String.ofList, some f⟩, none)

/-- a word with a value, after its first letter -/
def wordLexeme (s : Scalar) (letters cs : List Char) : Lexeme × Option (List Char) :=
  match scanWord letters cs with
  | .ok rest => (.plain ⟨.ok s, none⟩, some rest)
  | .error f => (.plain ⟨.error f, some f⟩, none)

/-- a number, after its sign; where it is passed over, one that the end of the text cuts short is merely broken -/
def numberLexeme (negative : Bool) (cs : List Char) : Lexeme × Option (List Char) :=
  match scanNumber negative cs with
  | .ok (w, rest) =>
    match w.number? with
    | some n => (.plain ⟨.ok (.number n), none⟩, some rest)
    | none => (.plain ⟨.error .numberOutOfRange, none⟩, some rest)
  | .error f => (.plain ⟨.error f, some .badNumber⟩, none)

/-- the lexeme that starts with `c`, and what follows it unless it is broken -/
def lexeme (c : Char) (cs : List Char) : Lexeme × Option (List Char) :=
  match c with
  | '[' => (.beginList, some cs)
  | ']' => (.endList, some cs)
  | '\x7b' => (.beginObject, some cs)
  | '\x7d' => (.endObject, some cs)
  | ',' => (.comma, some cs)
  | ':' => (.colon, some cs)
  | '"' => textLexeme cs
  | 'n' => wordLexeme .null ['u', 'l', 'l'] cs
  | 't' => wordLexeme (.bool true) ['r', 'u', 'e'] cs
  | 'f' => wordLexeme (.bool false) ['a', 'l', 's', 'e'] cs
  | '-' => numberLexeme true cs
  | c => if c.isDigit then numberLexeme false (c :: cs) else (.stray, none)

/-! ## The rest of a text is shorter -/

theorem length_scanText_le {cs rest : List Char} (h : (scanText cs).2 = .ok rest) : rest.length ≤ cs.length := by
  fun_induction scanText cs <;> simp_all <;> omega

theorem length_scanWord_le {ws cs rest : List Char} (h : scanWord ws cs = .ok rest) : rest.length ≤ cs.length := by
  fun_induction scanWord ws cs with
  | case1 cs =>
    cases h
    exact Nat.le_refl _
  | case2 => cases h
  | case3 w ws cs ih => exact Nat.le_succ_of_le (ih h)
  | case4 => cases h

theorem length_dropWhile_le (p : Char → Bool) (cs : List Char) : (cs.dropWhile p).length ≤ cs.length :=
  (List.dropWhile_suffix p).length_le

theorem length_scanDigits_lt {cs ds rest : List Char} (h : scanDigits cs = .ok (ds, rest)) :
    rest.length < cs.length := by
  cases cs with
  | nil => simp [scanDigits] at h
  | cons c cs =>
    by_cases hc : c.isDigit
    · simp only [scanDigits, hc, if_true, Except.ok.injEq, Prod.mk.injEq] at h
      have := length_dropWhile_le Char.isDigit cs
      simp only [← h.2, List.dropWhile_cons, hc, if_true, List.length_cons]
      omega
    · simp [scanDigits, hc] at h

theorem length_scanWhole_lt {cs ds rest : List Char} (h : scanWhole cs = .ok (ds, rest)) :
    rest.length < cs.length := by
  unfold scanWhole at h
  split at h
  · split at h
    · simp at h
    · simp only [Except.ok.injEq, Prod.mk.injEq] at h
      simp [← h.2]
  · exact length_scanDigits_lt h

theorem length_scanFraction_le {cs rest : List Char} {ds : Option (List Char)}
    (h : scanFraction cs = .ok (ds, rest)) : rest.length ≤ cs.length := by
  unfold scanFraction at h
  split at h
  · obtain ⟨⟨ds', rest'⟩, hd, e⟩ := Outcome.map_eq_ok.mp h
    have := length_scanDigits_lt hd
    simp only [Prod.mk.injEq] at e
    simp only [← e.2, List.length_cons]
    omega
  · simp only [Except.ok.injEq, Prod.mk.injEq] at h
    simp [← h.2]

theorem length_scanPower_lt {cs rest : List Char} {p : Bool × List Char} (h : scanPower cs = .ok (p, rest)) :
    rest.length < cs.length := by
  unfold scanPower at h
  split at h
  all_goals
    obtain ⟨⟨ds', rest'⟩, hd, e⟩ := Outcome.map_eq_ok.mp h
    have := length_scanDigits_lt hd
    simp only [Prod.mk.injEq] at e
    simp only [← e.2, List.length_cons]
    omega

theorem length_scanExponent_le {cs rest : List Char} {p : Option (Bool × List Char)}
    (h : scanExponent cs = .ok (p, rest)) : rest.length ≤ cs.length := by
  unfold scanExponent at h
  split at h
  iterate 2
    · obtain ⟨⟨p', rest'⟩, hp, e⟩ := Outcome.map_eq_ok.mp h
      have := length_scanPower_lt hp
      simp only [Prod.mk.injEq] at e
      simp only [← e.2, List.length_cons]
      omega
  · simp only [Except.ok.injEq, Prod.mk.injEq] at h
    simp [← h.2]

theorem length_scanNumber_lt {negative : Bool} {cs rest : List Char} {w : Literal}
    (h : scanNumber negative cs = .ok (w, rest)) : rest.length < cs.length := by
  unfold scanNumber at h
  split at h
  · simp at h
  · rename_i whole cs₁ h₁
    split at h
    · simp at h
    · rename_i fraction cs₂ h₂
      split at h
      · simp at h
      · rename_i exponent cs₃ h₃
        simp only [Except.ok.injEq, Prod.mk.injEq] at h
        have := length_scanWhole_lt h₁
        have := length_scanFraction_le h₂
        have := length_scanExponent_le h₃
        rw [← h.2]
        omega

theorem length_numberLexeme_lt {negative : Bool} {cs rest : List Char}
    (h : (numberLexeme negative cs).2 = some rest) : rest.length < cs.length := by
  unfold numberLexeme at h
  split at h
  · rename_i w r hs
    have := length_scanNumber_lt hs
    split at h
    all_goals
      simp only [Option.some.injEq] at h
      exact h ▸ this
  · simp at h

theorem length_wordLexeme_le {s : Scalar} {ws cs rest : List Char}
    (h : (wordLexeme s ws cs).2 = some rest) : rest.length ≤ cs.length := by
  unfold wordLexeme at h
  split at h
  · rename_i r hs
    simp only [Option.some.injEq] at h
    exact h ▸ length_scanWord_le hs
  · simp at h

theorem length_textLexeme_le {cs rest : List Char} (h : (textLexeme cs).2 = some rest) :
    rest.length ≤ cs.length := by
  unfold textLexeme at h
  split at h
  · rename_i ps r hs
    simp only [Option.some.injEq] at h
    exact h ▸ length_scanText_le (by rw [hs])
  · simp at h

theorem length_lexeme_le {c : Char} {cs rest : List Char} (h : (lexeme c cs).2 = some rest) :
    rest.length ≤ cs.length := by
  unfold lexeme at h
  split at h
  iterate 6
    · exact Nat.le_of_eq (congrArg List.length (Option.some.inj h)).symm
  · exact length_textLexeme_le h
  iterate 3
    · exact length_wordLexeme_le h
  · exact Nat.le_of_lt (length_numberLexeme_lt h)
  · split at h
    · exact Nat.le_of_lt_succ (length_numberLexeme_lt h)
    · nomatch h

/-- the lexemes of a text, up to the first that is broken -/
def lexemes : List Char → List Lexeme
  | [] => []
  | c :: cs =>
    if isSpace c then lexemes cs
    else
      match h : lexeme c cs with
      | (l, none) => [l]
      | (l, some rest) =>
        have := length_lexeme_le (congrArg Prod.snd h)
        l :: lexemes rest
termination_by cs => cs.length
decreasing_by all_goals (rw [List.length_cons]; omega)

end EntitySchema.Json
