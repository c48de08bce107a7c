/-
Escapes: what may follow a backslash.

- `readEscape_suffix`, `readEscape_tolerated`: what is left is an end of the text, and so is a tolerated construct with
  what follows it. The construct is the backslash and one digit.
-/
import EntitySchema.Outcome
import EntitySchema.Pattern.Scan

namespace EntitySchema.Pattern

/-- what an escape stands for -/
inductive Atom where
  | literal (c : Char)
  /-- a named set of characters -/
  | set
  /-- a condition on the place in the text -/
  | assertion
deriving DecidableEq, Repr

def isHexDigit (c : Char) : Bool := c.isDigit || ('a' ≤ c && c ≤ 'f') || ('A' ≤ c && c ≤ 'F')

def hexValue (c : Char) : Nat :=
  if c.isDigit then c.toNat - '0'.toNat else (c.toNat ||| 0x20) - 'a'.toNat + 10

/-- the character whose code point has these digits -/
def hexAtom (digits : List Char) : Except Stop Atom :=
  let n := digits.foldl (fun n d => 16 * n + hexValue d) 0
  if n.isValidChar then .ok (.literal (Char.ofNat n)) else .error (.fault .hexNoCharacter)

/-- a code point, after the letter that asks for `count` digits; in braces any number of digits will do -/
def readHex (extended : Bool) (count : Nat) (cs : List Char) : Except Stop (Atom × List Char) :=
  match skip extended cs with
  | [] => .error (.fault .escapeUnfinished)
  | '\x7b' :: cs =>
    match runAll extended isHexDigit (skip extended cs) with
    | (digits, '\x7d' :: rest) =>
      if digits.isEmpty then .error (.fault .hexEmpty)
      else (hexAtom digits).map fun a => (a, skip extended rest)
    | (_, []) => .error (.fault .escapeUnfinished)
    | (_, _ :: _) => .error (.fault .hexDigit)
  | c :: cs =>
    match run extended isHexDigit count (c :: cs) with
    | (digits, rest) =>
      if digits.length = count then (hexAtom digits).map fun a => (a, rest)
      else if rest.isEmpty then .error (.fault .escapeUnfinished)
      else .error (.fault .hexDigit)

/-- a property of characters, after its letter: one character, or any name in braces -/
def readProperty (extended : Bool) (cs : List Char) : Except Stop (Atom × List Char) :=
  match skip extended cs with
  | [] => .error (.fault .escapeUnfinished)
  | '\x7b' :: cs =>
    match runAll extended (fun c => c != '\x7d') (skip extended cs) with
    | (_, []) => .error (.fault .escapeUnfinished)
    | (_, _ :: rest) => .ok (.set, rest)
  | '\\' :: _ => .error (.fault .propertyName)
  | _ :: rest => .ok (.set, skip extended rest)

def isBoundaryChar (c : Char) : Bool := c.isAlpha || c == '-'

def boundaryNames : List String := ["start", "end", "start-half", "end-half"]

/-- a word boundary, after its letter: braces after it hold its name, or are a count and left for later -/
def readBoundary (extended : Bool) : List Char → Except Stop (Atom × List Char)
  | '\x7b' :: rest =>
    match skip extended rest with
    | [] => .error (.fault .boundaryUnfinished)
    | c :: cs =>
      if isBoundaryChar c then
        match runAll extended isBoundaryChar (c :: cs) with
        | (name, '\x7d' :: rest) =>
          if String.ofList name ∈ boundaryNames then .ok (.assertion, rest) else .error (.fault .boundaryUnknown)
        | (_, _) => .error (.fault .boundaryUnclosed)
      else .ok (.assertion, '\x7b' :: rest)
  | cs => .ok (.assertion, cs)

/-- the character that an escape of one letter stands for -/
def controlLetter? : Char → Option Char
  | 'a' => some '\x07'
  | 'f' => some '\x0c'
  | 't' => some '\t'
  | 'n' => some '\n'
  | 'r' => some '\r'
  | 'v' => some '\x0b'
  | _ => none

/-- characters of ASCII other than letters and digits may be escaped to stand for themselves; `<` and `>` are word
boundaries -/
def isEscapable (c : Char) : Bool := c.toNat < 0x80 && !c.isAlphanum && c != '<' && c != '>'

/-- what follows a backslash -/
def readEscape (extended : Bool) : List Char → Except Stop (Atom × List Char)
  | [] => .error (.fault .escapeUnfinished)
  | c :: cs =>
    if c.isDigit then .error (.tolerated ⟨['\\', c], cs, 'x'⟩)
    else if c = 'x' then readHex extended 2 cs
    else if c = 'u' then readHex extended 4 cs
    else if c = 'U' then readHex extended 8 cs
    else if c = 'p' || c = 'P' then readProperty extended cs
    else if c ∈ ['d', 's', 'w', 'D', 'S', 'W'] then .ok (.set, cs)
    else if isEscapable c then .ok (.literal c, cs)
    else if c = 'b' then readBoundary extended cs
    else if c ∈ ['A', 'z', 'B', '<', '>'] then .ok (.assertion, cs)
    else
      match controlLetter? c with
      | some d => .ok (.literal d, cs)
      | none => .error (.fault .escapeUnknown)

/-! ## What is left -/

theorem hexAtom_ne_tolerated {digits : List Char} {t : Tolerated} : hexAtom digits ≠ .error (.tolerated t) := by
  simp only [hexAtom]
  split <;> simp

theorem readHex_suffix {extended : Bool} {count : Nat} {cs rest : List Char} {a : Atom}
    (h : readHex extended count cs = .ok (a, rest)) : rest <:+ cs := by
  have hs := skip_suffix extended cs
  unfold readHex at h
  split at h
  · nomatch h
  · rename_i tail hc
    rw [hc] at hs
    have hr := (runAll_suffix extended isHexDigit (skip extended tail)).trans (skip_suffix extended tail)
    split at h
    · rename_i digits after hd
      rw [hd] at hr
      split at h
      · nomatch h
      · obtain ⟨b, hb, e⟩ := Outcome.map_eq_ok.mp h
        simp only [Prod.mk.injEq] at e
        rw [← e.2]
        exact (((skip_suffix extended after).trans (List.suffix_cons _ _)).trans hr).trans
          ((List.suffix_cons _ _).trans hs)
    · nomatch h
    · nomatch h
  · rename_i c tail _ hc
    rw [hc] at hs
    simp only at h
    split at h
    · obtain ⟨b, hb, e⟩ := Outcome.map_eq_ok.mp h
      simp only [Prod.mk.injEq] at e
      rw [← e.2]
      exact (run_suffix extended isHexDigit count (c :: tail)).trans hs
    · split at h <;> nomatch h

theorem readHex_ne_tolerated {extended : Bool} {count : Nat} {cs : List Char} {t : Tolerated} :
    readHex extended count cs ≠ .error (.tolerated t) := by
  intro h
  unfold readHex at h
  split at h
  · nomatch h
  · split at h
    · split at h
      · nomatch h
      · rename_i digits _ _ _
        cases hd : hexAtom digits with
        | ok b => simp [hd, Except.map] at h
        | error s => exact hexAtom_ne_tolerated (hd.trans (by simpa [hd, Except.map] using h))
    · nomatch h
    · nomatch h
  · simp only at h
    split at h
    · rename_i c tail _ _ _
      cases hd : hexAtom (run extended isHexDigit count (c :: tail)).1 with
      | ok b => simp [hd, Except.map] at h
      | error s => exact hexAtom_ne_tolerated (hd.trans (by simpa [hd, Except.map] using h))
    · split at h <;> nomatch h

theorem readProperty_suffix {extended : Bool} {cs rest : List Char} {a : Atom}
    (h : readProperty extended cs = .ok (a, rest)) : rest <:+ cs := by
  have hs := skip_suffix extended cs
  unfold readProperty at h
  split at h
  · nomatch h
  · rename_i tail hc
    rw [hc] at hs
    have hr := (runAll_suffix extended (fun c => c != '\x7d') (skip extended tail)).trans (skip_suffix extended tail)
    split at h
    · nomatch h
    · rename_i name c after hd
      rw [hd] at hr
      simp only [Except.ok.injEq, Prod.mk.injEq] at h
      rw [← h.2]
      exact ((List.suffix_cons _ _).trans hr).trans ((List.suffix_cons _ _).trans hs)
  · nomatch h
  · rename_i c tail _ _ hc
    rw [hc] at hs
    simp only [Except.ok.injEq, Prod.mk.injEq] at h
    rw [← h.2]
    exact (skip_suffix extended tail).trans ((List.suffix_cons _ _).trans hs)

theorem readProperty_ne_tolerated {extended : Bool} {cs : List Char} {t : Tolerated} :
    readProperty extended cs ≠ .error (.tolerated t) := by
  intro h
  unfold readProperty at h
  split at h
  · nomatch h
  · split at h <;> nomatch h
  · nomatch h
  · nomatch h

theorem readBoundary_suffix {extended : Bool} {cs rest : List Char} {a : Atom}
    (h : readBoundary extended cs = .ok (a, rest)) : rest <:+ cs := by
  unfold readBoundary at h
  split at h
  · rename_i tail
    have hs := skip_suffix extended tail
    split at h
    · nomatch h
    · rename_i c cs hc
      rw [hc] at hs
      have hr := (runAll_suffix extended isBoundaryChar (c :: cs)).trans (hs.trans (List.suffix_cons '\x7b' tail))
      split at h
      · split at h
        · rename_i name after hd
          rw [hd] at hr
          split at h
          · simp only [Except.ok.injEq, Prod.mk.injEq] at h
            rw [← h.2]
            exact (List.suffix_cons _ _).trans hr
          · nomatch h
        · nomatch h
      · simp only [Except.ok.injEq, Prod.mk.injEq] at h
        exact h.2 ▸ List.suffix_refl _
  · simp only [Except.ok.injEq, Prod.mk.injEq] at h
    exact h.2 ▸ List.suffix_refl _

theorem readBoundary_ne_tolerated {extended : Bool} {cs : List Char} {t : Tolerated} :
    readBoundary extended cs ≠ .error (.tolerated t) := by
  intro h
  unfold readBoundary at h
  repeat' split at h
  all_goals nomatch h

theorem readEscape_suffix {extended : Bool} {cs rest : List Char} {a : Atom}
    (h : readEscape extended cs = .ok (a, rest)) : rest <:+ cs := by
  unfold readEscape at h
  split at h
  · nomatch h
  · rename_i c cs
    have hc := List.suffix_cons c cs
    split at h
    · nomatch h
    iterate 3
      split at h
      · exact (readHex_suffix h).trans hc
    split at h
    · exact (readProperty_suffix h).trans hc
    split at h
    · exact (Prod.mk.inj (Except.ok.inj h)).2 ▸ hc
    split at h
    · exact (Prod.mk.inj (Except.ok.inj h)).2 ▸ hc
    split at h
    · exact (readBoundary_suffix h).trans hc
    split at h
    · exact (Prod.mk.inj (Except.ok.inj h)).2 ▸ hc
    · split at h
      · exact (Prod.mk.inj (Except.ok.inj h)).2 ▸ hc
      · nomatch h

theorem readEscape_tolerated {extended : Bool} {cs : List Char} {t : Tolerated}
    (h : readEscape extended cs = .error (.tolerated t)) : t.Ends ('\\' :: cs) := by
  unfold readEscape at h
  split at h
  · nomatch h
  · split at h
    · cases h
      exact ⟨List.suffix_refl _, Nat.le_refl 2, .inl rfl⟩
    iterate 3
      split at h
      · exact absurd h readHex_ne_tolerated
    split at h
    · exact absurd h readProperty_ne_tolerated
    split at h
    · nomatch h
    split at h
    · nomatch h
    split at h
    · exact absurd h readBoundary_ne_tolerated
    split at h
    · nomatch h
    · split at h <;> nomatch h

end EntitySchema.Pattern
