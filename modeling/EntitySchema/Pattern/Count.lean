/-
Counted repetitions: what may follow an opening brace.

- `readCount_suffix`, `readCount_ne_tolerated`: what is left is an end of the text; no construct is tolerated here.
-/
import EntitySchema.Pattern.Scan

namespace EntitySchema.Pattern

open EntitySchema.Text

/-- a number of 32 bits with blanks around it, and the text after it -/
def readDecimal (extended : Bool) (cs : List Char) : Except Fault Nat × List Char :=
  match runAll extended Char.isDigit (cs.dropWhile isBlank) with
  | (digits, rest) =>
    let n := digits.foldl (fun n d => 10 * n + (d.toNat - '0'.toNat)) 0
    (if digits.isEmpty then .error .countEmpty
      else if n < 1 <<< 32 then .ok n
      else .error .decimalTooLarge, rest.dropWhile isBlank)

/-- the end of a count whose bounds are in order: the brace and, perhaps, a question mark -/
def closeCount (extended : Bool) (inOrder : Bool) : List Char → Except Stop (List Char)
  | '\x7d' :: cs =>
    let rest := match skip extended cs with
      | '?' :: rest => rest
      | rest => rest
    if inOrder then .ok rest else .error (.fault .countReversed)
  | _ => .error (.fault .countUnclosed)

/-- the upper bound of a count, after its comma: none before the brace -/
def readUpper (extended : Bool) (least : Except Fault Nat) (cs : List Char) : Except Stop (List Char) :=
  match skip extended cs with
  | [] => .error (.fault .countUnclosed)
  | '\x7d' :: cs =>
    match least with
    | .error f => .error (.fault f)
    | .ok _ => closeCount extended true ('\x7d' :: cs)
  | c :: cs =>
    match least with
    | .error f => .error (.fault f)
    | .ok m =>
      match readDecimal extended (c :: cs) with
      | (.error f, _) => .error (.fault f)
      | (.ok n, rest) => closeCount extended (m ≤ n) rest

/-- a count, after its brace, and the text after it -/
def readCount (extended : Bool) (cs : List Char) : Except Stop (List Char) :=
  match skip extended cs with
  | [] => .error (.fault .countUnclosed)
  | c :: cs =>
    match readDecimal extended (c :: cs) with
    | (_, []) => .error (.fault .countUnclosed)
    | (least, ',' :: rest) => readUpper extended least rest
    | (.error f, _) => .error (.fault f)
    | (.ok _, rest) => closeCount extended true rest

/-! ## What is left -/

theorem readDecimal_suffix (extended : Bool) (cs : List Char) : (readDecimal extended cs).2 <:+ cs :=
  (List.dropWhile_suffix _).trans ((runAll_suffix extended Char.isDigit _).trans (List.dropWhile_suffix _))

theorem closeCount_suffix {extended inOrder : Bool} {cs rest : List Char}
    (h : closeCount extended inOrder cs = .ok rest) : rest <:+ cs := by
  unfold closeCount at h
  split at h
  · rename_i tail
    have hs := (skip_suffix extended tail).trans (List.suffix_cons '\x7d' tail)
    simp only at h
    split at h
    · cases h
      split
      · rename_i after he
        rw [he] at hs
        exact (List.suffix_cons _ _).trans hs
      · exact hs
    · nomatch h
  · nomatch h

theorem closeCount_ne_tolerated {extended inOrder : Bool} {cs : List Char} {t : Tolerated} :
    closeCount extended inOrder cs ≠ .error (.tolerated t) := by
  intro h
  unfold closeCount at h
  split at h
  · simp only at h
    split at h <;> nomatch h
  · nomatch h

theorem readUpper_suffix {extended : Bool} {least : Except Fault Nat} {cs rest : List Char}
    (h : readUpper extended least cs = .ok rest) : rest <:+ cs := by
  have hs := skip_suffix extended cs
  unfold readUpper at h
  split at h
  · nomatch h
  · rename_i tail he
    rw [he] at hs
    split at h
    · nomatch h
    · exact (closeCount_suffix h).trans hs
  · rename_i c tail _ he
    rw [he] at hs
    split at h
    · nomatch h
    · have hd := readDecimal_suffix extended (c :: tail)
      split at h
      · nomatch h
      · rename_i after hr
        rw [hr] at hd
        exact (closeCount_suffix h).trans (hd.trans hs)

theorem readUpper_ne_tolerated {extended : Bool} {least : Except Fault Nat} {cs : List Char} {t : Tolerated} :
    readUpper extended least cs ≠ .error (.tolerated t) := by
  intro h
  unfold readUpper at h
  split at h
  · nomatch h
  · split at h
    · nomatch h
    · exact closeCount_ne_tolerated h
  · split at h
    · nomatch h
    · split at h
      · nomatch h
      · exact closeCount_ne_tolerated h

theorem readCount_suffix {extended : Bool} {cs rest : List Char} (h : readCount extended cs = .ok rest) :
    rest <:+ cs := by
  have hs := skip_suffix extended cs
  unfold readCount at h
  split at h
  · nomatch h
  · rename_i c tail he
    rw [he] at hs
    have hd := (readDecimal_suffix extended (c :: tail)).trans hs
    split at h
    · nomatch h
    · rename_i hr
      rw [hr] at hd
      exact (readUpper_suffix h).trans ((List.suffix_cons _ _).trans hd)
    · nomatch h
    · rename_i hr
      rw [hr] at hd
      exact (closeCount_suffix h).trans hd

theorem readCount_ne_tolerated {extended : Bool} {cs : List Char} {t : Tolerated} :
    readCount extended cs ≠ .error (.tolerated t) := by
  intro h
  unfold readCount at h
  split at h
  · nomatch h
  · split at h
    · nomatch h
    · exact readUpper_ne_tolerated h
    · nomatch h
    · exact closeCount_ne_tolerated h

end EntitySchema.Pattern
