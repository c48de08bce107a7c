/-
Group openers: what may follow an opening parenthesis.

- `readOpener_suffix`, `readOpener_tolerated`: what is left is an end of the text, and so is a tolerated construct with
  what follows it. The construct reaches from the parenthesis through the mark of the look-around.
-/
import EntitySchema.Outcome
import EntitySchema.Pattern.Scan
import EntitySchema.Text.Characters

namespace EntitySchema.Pattern

open EntitySchema.Text

/-- what an opening parenthesis begins; `extended` is what becomes of the extended mode, if that is said -/
inductive Opener where
  /-- flags for the rest of the group around them -/
  | flags (extended : Option Bool)
  /-- a group, with the names of all groups so far -/
  | group (extended : Option Bool) (names : List (List Char))
deriving DecidableEq, Repr

/-- the text after the mark of a look-around group -/
def afterLookAround? : List Char → Option (List Char)
  | '?' :: '=' :: cs => some cs
  | '?' :: '!' :: cs => some cs
  | '?' :: '<' :: '=' :: cs => some cs
  | '?' :: '<' :: '!' :: cs => some cs
  | _ => none

/-- the text after the mark of a named group -/
def afterNameMark? : List Char → Option (List Char)
  | '?' :: 'P' :: '<' :: cs => some cs
  | '?' :: '<' :: cs => some cs
  | _ => none

/-- a letter or `_` begins a name; numerals, `.`, `[` and `]` may follow -/
def isNameChar (first : Bool) (c : Char) : Bool :=
  c == '_' || isLetter c || (!first && (isNumeral c || c == '.' || c == '[' || c == ']'))

/-- the name of a group up to `>`, and what follows it -/
def readName (first : Bool) : List Char → Except Stop (List Char × List Char)
  | [] => .error (.fault .nameUnfinished)
  | c :: cs =>
    if c = '>' then .ok ([], cs)
    else if isNameChar first c then (readName false cs).map fun (name, rest) => (c :: name, rest)
    else .error (.fault .nameCharacter)

def isFlag (c : Char) : Bool := c ∈ ['i', 'm', 's', 'U', 'u', 'R', 'x']

/-- flags up to `:` or `)`: the flags with `seen` before them, the closing character and what follows it -/
def readFlags (seen : List Char) : List Char → Except Stop (List Char × Char × List Char)
  | [] => .error (.fault .flagUnfinished)
  | c :: cs =>
    if c = ':' || c = ')' then
      if seen.getLast? = some '-' then .error (.fault .flagDangling) else .ok (seen, c, cs)
    else if c = '-' then
      if '-' ∈ seen then .error (.fault .flagNegatedTwice) else readFlags (seen ++ [c]) cs
    else if isFlag c then
      if c ∈ seen then .error (.fault .flagRepeated) else readFlags (seen ++ [c]) cs
    else .error (.fault .flagUnknown)

/-- what the flags say of the extended mode: `x` sets it, and clears it after a dash -/
def extendedOf (flags : List Char) : Option Bool :=
  if 'x' ∈ flags then some (!('-' ∈ flags.takeWhile fun c => c != 'x')) else none

/-- what follows an opening parenthesis; `names` are the names of the groups so far -/
def readOpener (extended : Bool) (names : List (List Char)) (cs : List Char) : Except Stop (Opener × List Char) :=
  let inner := skip extended cs
  match afterLookAround? inner with
  | some rest => .error (.tolerated ⟨'(' :: cs.take (cs.length - rest.length), rest, '('⟩)
  | none =>
    match afterNameMark? inner with
    | some rest =>
      match readName true rest with
      | .error s => .error s
      | .ok (name, rest) =>
        if name.isEmpty then .error (.fault .nameEmpty)
        else if name ∈ names then .error (.fault .nameRepeated)
        else .ok (.group none (name :: names), rest)
    | none =>
      match inner with
      | ['?'] => .error (.fault .groupUnclosed)
      | '?' :: rest =>
        match readFlags [] rest with
        | .error s => .error s
        | .ok (flags, close, rest) =>
          if close = ':' then .ok (.group (extendedOf flags) names, rest)
          else if flags.isEmpty then .error (.fault .nothingToRepeat)
          else .ok (.flags (extendedOf flags), rest)
      | rest => .ok (.group none names, rest)

/-! ## What is left -/

theorem afterLookAround?_suffix {cs rest : List Char} (h : afterLookAround? cs = some rest) :
    rest <:+ cs ∧ rest.length + 2 ≤ cs.length := by
  unfold afterLookAround? at h
  split at h
  iterate 2
    · cases h
      exact ⟨⟨['?', _], rfl⟩, by simp⟩
  iterate 2
    · cases h
      exact ⟨⟨['?', '<', _], rfl⟩, by simp⟩
  · nomatch h

theorem afterNameMark?_suffix {cs rest : List Char} (h : afterNameMark? cs = some rest) : rest <:+ cs := by
  unfold afterNameMark? at h
  split at h
  · cases h
    exact ⟨['?', 'P', '<'], rfl⟩
  · cases h
    exact ⟨['?', '<'], rfl⟩
  · nomatch h

theorem readName_suffix {first : Bool} {cs name rest : List Char} (h : readName first cs = .ok (name, rest)) :
    rest <:+ cs := by
  induction cs generalizing first name with
  | nil => nomatch h
  | cons c cs ih =>
    unfold readName at h
    split at h
    · cases h
      exact List.suffix_cons _ _
    · split at h
      · obtain ⟨⟨n, r⟩, hn, e⟩ := Outcome.map_eq_ok.mp h
        cases e
        exact (ih hn).trans (List.suffix_cons _ _)
      · nomatch h

theorem readName_ne_tolerated {first : Bool} {cs : List Char} {t : Tolerated} :
    readName first cs ≠ .error (.tolerated t) := by
  induction cs generalizing first with
  | nil => simp [readName]
  | cons c cs ih =>
    intro h
    unfold readName at h
    split at h
    · nomatch h
    · split at h
      · cases hn : readName false cs with
        | ok p => simp [hn, Except.map] at h
        | error s => exact ih (hn.trans (by simpa [hn, Except.map] using h))
      · nomatch h

theorem readFlags_suffix {seen cs flags rest : List Char} {close : Char}
    (h : readFlags seen cs = .ok (flags, close, rest)) : rest <:+ cs := by
  induction cs generalizing seen with
  | nil => nomatch h
  | cons c cs ih =>
    unfold readFlags at h
    split at h
    · split at h
      · nomatch h
      · cases h
        exact List.suffix_cons _ _
    · split at h
      · split at h
        · nomatch h
        · exact (ih h).trans (List.suffix_cons _ _)
      · split at h
        · split at h
          · nomatch h
          · exact (ih h).trans (List.suffix_cons _ _)
        · nomatch h

theorem readFlags_ne_tolerated {seen cs : List Char} {t : Tolerated} :
    readFlags seen cs ≠ .error (.tolerated t) := by
  induction cs generalizing seen with
  | nil => simp [readFlags]
  | cons c cs ih =>
    intro h
    unfold readFlags at h
    split at h
    · split at h <;> nomatch h
    · split at h
      · split at h
        · nomatch h
        · exact ih h
      · split at h
        · split at h
          · nomatch h
          · exact ih h
        · nomatch h

theorem readOpener_suffix {extended : Bool} {names : List (List Char)} {cs rest : List Char} {o : Opener}
    (h : readOpener extended names cs = .ok (o, rest)) : rest <:+ cs := by
  have hs := skip_suffix extended cs
  unfold readOpener at h
  simp only at h
  split at h
  · nomatch h
  · split at h
    · rename_i after hm
      have hm := afterNameMark?_suffix hm
      split at h
      · nomatch h
      · rename_i name rest' hn
        split at h
        · nomatch h
        · split at h
          · nomatch h
          · cases h
            exact ((readName_suffix hn).trans hm).trans hs
    · split at h
      · nomatch h
      · rename_i after _ hi
        rw [hi] at hs
        split at h
        · nomatch h
        · rename_i flags close rest' hf
          have hr := ((readFlags_suffix hf).trans (List.suffix_cons _ _)).trans hs
          split at h
          · cases h
            exact hr
          · split at h
            · nomatch h
            · cases h
              exact hr
      · cases h
        exact hs

theorem readOpener_tolerated {extended : Bool} {names : List (List Char)} {cs : List Char} {t : Tolerated}
    (h : readOpener extended names cs = .error (.tolerated t)) : t.Ends ('(' :: cs) := by
  have hs := skip_suffix extended cs
  unfold readOpener at h
  simp only at h
  split at h
  -- look-around is the one opener that is tolerated; every other branch ends in a problem of its own or in a group
  · rename_i rest hl
    cases h
    have ⟨hr, hlen⟩ := afterLookAround?_suffix hl
    obtain ⟨before, hb⟩ := hr.trans hs
    have hle := hs.length_le
    have htake : cs.take (cs.length - rest.length) = before := by
      rw [← hb]
      simp
    refine ⟨?_, ?_, .inr rfl⟩
    · rw [htake, ← hb]
      exact List.suffix_refl _
    · simp only [List.length_cons, List.length_take]
      omega
  · split at h
    · split at h
      · rename_i s hn
        cases h
        exact absurd hn readName_ne_tolerated
      · split at h
        · nomatch h
        · split at h <;> nomatch h
    · split at h
      · nomatch h
      · split at h
        · rename_i s hf
          cases h
          exact absurd hf readFlags_ne_tolerated
        · split at h
          · nomatch h
          · split at h <;> nomatch h
      · nomatch h

end EntitySchema.Pattern
