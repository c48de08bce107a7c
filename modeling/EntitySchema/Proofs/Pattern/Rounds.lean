/-
Rounds of reading a pattern. A round reads the text from its beginning, and where it comes to a construct that is
tolerated, the bytes of the construct are replaced and another round begins. Bytes cannot be replaced just anywhere: the
range has to lie in the text, and may not begin or end inside a character.

No round is ever asked for a range that does not fit, whatever the text and however often it has been changed. Every
range is longer than the one byte that is put in its place. So there are at most as many rounds as the text has bytes,
and one more, and what they come to is what is wrong with the pattern.

- `Span.FitsIn`, `Span.replaceIn?`: ranges of bytes, which are replaced if they fit.
- `Tolerated.span`, `Tolerated.Within`: the range of a construct, and what it has to be; `Tolerated.Ends.within`: it is.
- `round_cases`: what one round can come to.
- `Reached.size_le`: each further round has less to read.
- `verdictWithin?_eq`: more rounds than bytes are enough.
- `check_ends`: all rounds of checking any text.
-/
import EntitySchema.Proofs.Pattern.LookAround
import Mathlib.Data.String.Basic

namespace EntitySchema.Pattern

/-! ## Ranges of bytes -/

/-- a range of bytes, from `start` up to `stop` -/
structure Span where
  start : String.Pos.Raw
  stop : String.Pos.Raw
deriving DecidableEq

def Span.size (s : Span) : Nat := s.stop.byteIdx - s.start.byteIdx

/-- the bytes are in the text, and no character is cut -/
structure Span.FitsIn (s : Span) (text : String) : Prop where
  ordered : s.start ≤ s.stop
  inside : s.stop ≤ text.rawEndPos
  start : s.start.IsValid text
  stop : s.stop.IsValid text

instance (s : Span) (text : String) : Decidable (s.FitsIn text) :=
  decidable_of_iff (s.start ≤ s.stop ∧ s.stop ≤ text.rawEndPos ∧ s.start.IsValid text ∧ s.stop.IsValid text)
    ⟨fun ⟨h, hi, hs, ht⟩ => ⟨h, hi, hs, ht⟩, fun ⟨h, hi, hs, ht⟩ => ⟨h, hi, hs, ht⟩⟩

def Span.textIn (s : Span) (text : String) : String := String.Pos.Raw.extract text s.start s.stop

/-- the text with a character in the place of the bytes, if they fit -/
def Span.replaceIn? (s : Span) (text : String) (standIn : Char) : Option String :=
  if s.FitsIn text then
    some (Span.textIn ⟨0, s.start⟩ text ++ String.singleton standIn ++ Span.textIn ⟨s.stop, text.rawEndPos⟩ text)
  else none

section Between

variable (before middle after : String)

/-- the range of `middle` in a text in which `before` stands before it -/
def Span.between (before middle : String) : Span := ⟨before.rawEndPos, (before ++ middle).rawEndPos⟩

theorem Span.size_between : (between before middle).size = middle.utf8ByteSize := by
  simp [size, between, String.rawEndPos]

theorem Span.textIn_between : (between before middle).textIn (before ++ middle ++ after) = middle := by
  have h := String.extract_of_valid before.toList middle.toList after.toList
  simpa [textIn, between, String.rawEndPos, String.append_assoc] using h

theorem Span.between_fitsIn : (between before middle).FitsIn (before ++ middle ++ after) := by
  refine ⟨?_, ?_, ?_, ?_⟩
  · simp [between, String.Pos.Raw.le_iff, String.rawEndPos]
  · simp [between, String.Pos.Raw.le_iff, String.rawEndPos]
  · apply String.Pos.Raw.isValid_iff_exists_append.2
    exact ⟨before, middle ++ after, String.append_assoc .., rfl⟩
  · apply String.Pos.Raw.isValid_iff_exists_append.2
    exact ⟨before ++ middle, after, rfl, rfl⟩

theorem Span.replaceIn?_between (standIn : Char) :
    (between before middle).replaceIn? (before ++ middle ++ after) standIn =
      some (before ++ String.singleton standIn ++ after) := by
  have hbefore : Span.textIn ⟨0, before.rawEndPos⟩ (before ++ middle ++ after) = before := by
    have h := textIn_between "" before (middle ++ after)
    simpa [between, String.append_assoc] using h
  have hafter : Span.textIn ⟨(before ++ middle).rawEndPos, (before ++ middle ++ after).rawEndPos⟩
      (before ++ middle ++ after) = after := by
    have h := textIn_between (before ++ middle) after ""
    simpa [between] using h
  rw [replaceIn?, if_pos (between_fitsIn before middle after)]
  simp only [between, hbefore, hafter]

end Between

/-! ## Constructs that are tolerated -/

/-- the range of a construct in a text that ends with it and with what follows it -/
def Tolerated.span (t : Tolerated) (text : String) : Span :=
  ⟨⟨text.utf8ByteSize - (String.ofList (t.construct ++ t.after)).utf8ByteSize⟩,
    ⟨text.utf8ByteSize - (String.ofList t.after).utf8ByteSize⟩⟩

/-- the range of the construct fits, its bytes are those of the construct, and they are more than the stand-in has -/
structure Tolerated.Within (t : Tolerated) (text : String) : Prop where
  fits : (t.span text).FitsIn text
  spells : (t.span text).textIn text = String.ofList t.construct
  standIn : t.standIn = 'x' ∨ t.standIn = '('
  longer : t.standIn.utf8Size < (t.span text).size

theorem length_le_bytes (cs : List Char) : cs.length ≤ (String.ofList cs).utf8ByteSize := by
  rw [String.utf8ByteSize_ofList]
  induction cs with
  | nil => exact Nat.le_refl 0
  | cons c cs ih =>
    have hc : 0 < c.utf8Size := c.utf8Size_pos
    simp only [List.length_cons, String.utf8Len_cons]
    omega

section Constructs

variable {t : Tolerated} {text : String}

theorem Tolerated.span_eq (t : Tolerated) (before : String) :
    t.span (before ++ String.ofList t.construct ++ String.ofList t.after) =
      .between before (String.ofList t.construct) := by
  simp only [span, Span.between, String.rawEndPos, String.ofList_append, String.utf8ByteSize_append, Span.mk.injEq,
    String.Pos.Raw.mk.injEq]
  omega

/-- the text in three parts, and the text with the stand-in in the place of the second -/
theorem Tolerated.Ends.parts (h : t.Ends text.toList) :
    ∃ before, text = before ++ String.ofList t.construct ++ String.ofList t.after ∧
      String.ofList (t.replaced text.toList) = before ++ String.singleton t.standIn ++ String.ofList t.after := by
  obtain ⟨before, htext, hreplaced⟩ := h.replaced_append
  refine ⟨String.ofList before, ?_, ?_⟩
  · rw [String.append_assoc, ← String.ofList_append, ← String.ofList_append, ← htext, String.ofList_toList]
  · have hnow : t.replaced text.toList = before ++ t.standIn :: t.after := hreplaced []
    rw [hnow, ← List.singleton_append, String.ofList_append, String.ofList_append, String.append_assoc,
      String.singleton_eq_ofList]

theorem Tolerated.Ends.standIn_size (h : t.Ends text.toList) : t.standIn.utf8Size = 1 := by
  rcases h.standIn with hx | hx <;> rw [hx] <;> rfl

theorem Tolerated.Ends.standIn_lt (h : t.Ends text.toList) :
    t.standIn.utf8Size < (String.ofList t.construct).utf8ByteSize := by
  have hlong := h.longer
  have hbytes := length_le_bytes t.construct
  rw [h.standIn_size]
  omega

/-- **No character is cut.** -/
theorem Tolerated.Ends.within (h : t.Ends text.toList) : t.Within text := by
  have hlt := h.standIn_lt
  obtain ⟨before, htext, -⟩ := h.parts
  have hspan : t.span text = .between before (String.ofList t.construct) := by rw [htext, t.span_eq]
  refine ⟨?_, ?_, h.standIn, ?_⟩
  · rw [hspan, htext]
    exact Span.between_fitsIn _ _ _
  · rw [hspan, htext]
    exact Span.textIn_between _ _ _
  · rw [hspan, Span.size_between]
    exact hlt

theorem Tolerated.Ends.replaceIn?_span (h : t.Ends text.toList) :
    (t.span text).replaceIn? text t.standIn = some (String.ofList (t.replaced text.toList)) := by
  obtain ⟨before, htext, hreplaced⟩ := h.parts
  rw [hreplaced, htext, t.span_eq, Span.replaceIn?_between]

theorem Tolerated.Ends.bytes_replaced_lt (h : t.Ends text.toList) :
    (String.ofList (t.replaced text.toList)).utf8ByteSize < text.utf8ByteSize := by
  have hlt := h.standIn_lt
  obtain ⟨before, htext, hreplaced⟩ := h.parts
  rw [hreplaced, htext]
  simp only [String.utf8ByteSize_append, String.utf8ByteSize_singleton]
  omega

end Constructs

/-! ## Rounds -/

/-- what a round comes to -/
inductive Round where
  /-- the text is read: what is wrong with it, if anything is -/
  | verdict (v : Option Fault)
  /-- another text is to be read -/
  | again (text : String)
  /-- a range that does not fit is to be replaced -/
  | misplaced
deriving DecidableEq

/-- one round of reading a text -/
def round (text : String) : Round :=
  match readAll text.toList with
  | .ok e => .verdict (if nestLimit < e.depth then some .tooDeep else none)
  | .error (.fault f) => .verdict (some f)
  | .error (.tolerated t) =>
    match (t.span text).replaceIn? text t.standIn with
    | some next => .again next
    | none => .misplaced

/-- the verdict, if it comes within so many rounds -/
def verdictWithin? : Nat → String → Option (Option Fault)
  | 0, _ => none
  | n + 1, text =>
    match round text with
    | .verdict v => some v
    | .again next => verdictWithin? n next
    | .misplaced => none

/-- the text that is read after so many rounds -/
inductive Reached (text : String) : Nat → String → Prop where
  | first : Reached text 0 text
  | again {n : Nat} {current next : String} (h : Reached text n current) (hround : round current = .again next) :
    Reached text (n + 1) next

/-- **One round.** It comes to the verdict if the text is read, and otherwise to a shorter text, which has the same
verdict; it replaces nothing but the bytes of a construct. -/
theorem round_cases (text : String) :
    (round text = .verdict (fault? text.toList) ∧ ∀ t, readAll text.toList ≠ .error (.tolerated t)) ∨
      ∃ t next, readAll text.toList = .error (.tolerated t) ∧ t.Within text ∧ round text = .again next ∧
        next.utf8ByteSize < text.utf8ByteSize ∧ fault? next.toList = fault? text.toList := by
  have hfault := fault?_eq text.toList
  unfold round
  cases h : readAll text.toList with
  | ok e =>
    rw [h] at hfault
    exact .inl ⟨congrArg Round.verdict hfault.symm, by simp⟩
  | error stop =>
    cases stop with
    | fault f =>
      rw [h] at hfault
      exact .inl ⟨congrArg Round.verdict hfault.symm, by simp⟩
    | tolerated t =>
      -- reading does not stop at a construct but with its place in the text
      have hends := readAll_tolerated h
      rw [h] at hfault
      refine .inr ⟨t, String.ofList (t.replaced text.toList), rfl, hends.within, ?_, hends.bytes_replaced_lt, ?_⟩
      · simp only [hends.replaceIn?_span]
      · rw [String.toList_ofList]
        exact hfault.symm

/-! ## All rounds -/

/-- **Further rounds.** Each has less to read than the one before it. -/
theorem Reached.size_le {text current : String} {n : Nat} (h : Reached text n current) :
    n + current.utf8ByteSize ≤ text.utf8ByteSize := by
  induction h with
  | first => omega
  | @again n current next _ hround ih =>
    rcases round_cases current with ⟨hverdict, -⟩ | ⟨t, next', -, -, hagain, hlt, -⟩
    · cases hround.symm.trans hverdict
    · cases hround.symm.trans hagain
      omega

/-- **More rounds than bytes are enough.** -/
theorem verdictWithin?_eq {n : Nat} {text : String} (h : text.utf8ByteSize < n) :
    verdictWithin? n text = some (fault? text.toList) := by
  induction n generalizing text with
  | zero => omega
  | succ n ih =>
    rcases round_cases text with ⟨hverdict, -⟩ | ⟨t, next, -, -, hagain, hlt, hsame⟩
    · rw [verdictWithin?, hverdict]
    · have hnext : next.utf8ByteSize < n := by omega
      rw [verdictWithin?, hagain, ← hsame]
      exact ih hnext

/-- **Checking ends and cuts no character.** In every round of checking a text, the range of a construct that is
reported lies in the text of that round, begins and ends between characters and is longer than what is put in its place,
so that the next round has a shorter text. The rounds are at most as many as the first text has bytes, and one more, and
they come to the verdict on it. -/
theorem check_ends (text : String) :
    (∀ n current, Reached text n current →
      n + current.utf8ByteSize ≤ text.utf8ByteSize ∧
        ∀ t, readAll current.toList = .error (.tolerated t) →
          t.Within current ∧
            ∃ next, round current = .again next ∧ next.utf8ByteSize < current.utf8ByteSize) ∧
      verdictWithin? (text.utf8ByteSize + 1) text = some (fault? text.toList) := by
  refine ⟨?_, verdictWithin?_eq (Nat.lt_succ_self _)⟩
  intro n current hreached
  refine ⟨hreached.size_le, ?_⟩
  intro t ht
  rcases round_cases current with ⟨-, hnone⟩ | ⟨t', next, ht', hwithin, hagain, hlt, -⟩
  · exact absurd ht (hnone t)
  · cases ht.symm.trans ht'
    exact ⟨hwithin, next, hagain, hlt⟩

/-- in the extended mode, with two characters of two bytes: a look-ahead with a tab in its opener, and a back-reference
in it -/
def awkward : String := "(?x)é(\t?=é\\1)"

theorem awkward_rounds :
    Reached awkward 1 "(?x)é(é\\1)" ∧ Reached awkward 2 "(?x)é(éx)" ∧
      (∃ t, readAll "(?x)é(é\\1)".toList = .error (.tolerated t) ∧ t.Within "(?x)é(é\\1)") ∧
      2 + "(?x)é(éx)".utf8ByteSize ≤ awkward.utf8ByteSize ∧
      verdictWithin? (awkward.utf8ByteSize + 1) awkward = some (fault? awkward.toList) := by
  have hfirst : Reached awkward 1 "(?x)é(é\\1)" := .again .first (by decide +kernel)
  have hround : round "(?x)é(é\\1)" = .again "(?x)é(éx)" := by decide +kernel
  have hsecond : Reached awkward 2 "(?x)é(éx)" := .again hfirst hround
  obtain ⟨hrounds, hverdict⟩ := check_ends awkward
  refine ⟨hfirst, hsecond, ?_, (hrounds 2 _ hsecond).1, hverdict⟩
  rcases round_cases "(?x)é(é\\1)" with ⟨hread, -⟩ | ⟨t, -, ht, -, -⟩
  · cases hround.symm.trans hread
  · exact ⟨t, ht, ((hrounds 1 _ hfirst).2 t ht).1⟩

end EntitySchema.Pattern
