/-
Joined spelling, applied to its own results. A name that has been joined need not be taken for a joined name: of `a_b` the
joined spelling is `AB`, and of this it is `Ab`, since without a small letter `AB` counts as one word in capitals. This
happens just to names with a later word that begins with a letter, where the first word does not begin with one or no
word has a letter inside. After the second time nothing changes any more.

- `joinWords_of_no_separator`: without separators, a name is left alone or capitalised.
- `any_isUpper_tail`, `any_isUpper_head?`, `any_isLower`: where the large and small letters of a joined name come from.
- `Unsettled`: the words whose joined spelling is not kept.
- `joinWords_joinWords_iff`: joining again keeps exactly what is not unsettled.
- `pascal_pascal_iff`: the same for names, and the third time never changes anything.
-/
import EntitySchema.Proofs.Spelling

namespace EntitySchema.Text

/-! ## Separators -/

theorem isSeparator_eq_false_of_isAlpha {c : Char} (h : c.isAlpha = true) : isSeparator c = false := by
  rw [Bool.eq_false_iff]
  intro hc
  simp only [isSeparator, Bool.or_eq_true, beq_iff_eq] at hc
  rcases hc with (rfl | rfl) | rfl <;> revert h <;> decide

/-- the case of a letter does not make it a separator -/
theorem isSeparator_toUpper (c : Char) : isSeparator c.toUpper = isSeparator c := by
  by_cases h : c.isAlpha = true
  · have hupper : c.toUpper.isAlpha = true := by rwa [Char.isAlpha_toUpper_eq_isAlpha]
    rw [isSeparator_eq_false_of_isAlpha h, isSeparator_eq_false_of_isAlpha hupper]
  · have hlower : ¬ c.isLower = true := fun hc => h (by simp [Char.isAlpha, hc])
    rw [Char.toUpper_eq_of_not_isLower hlower]

theorem isSeparator_toLower (c : Char) : isSeparator c.toLower = isSeparator c := by
  rw [← isSeparator_toUpper c.toLower, Char.toUpper_toLower_eq_toUpper, isSeparator_toUpper]

theorem no_separator_of_mem_pieces {cs p : List Char} (h : p ∈ pieces cs) : ∀ c ∈ p, isSeparator c = false := by
  induction cs generalizing p with
  | nil =>
    rw [pieces, List.mem_singleton] at h
    simp [h]
  | cons d cs ih =>
    obtain ⟨q, qs, hq⟩ := List.exists_cons_of_ne_nil (pieces_ne_nil cs)
    have hqs : ∀ w ∈ q :: qs, ∀ c ∈ w, isSeparator c = false := fun w hw => ih (hq ▸ hw)
    obtain ⟨hfirst, hothers⟩ := List.forall_mem_cons.1 hqs
    rw [pieces, hq] at h
    by_cases hd : isSeparator d = true
    · rw [if_pos hd] at h
      rcases List.mem_cons.1 h with rfl | h
      · simp
      · exact hqs p h
    · rw [if_neg hd] at h
      rcases List.mem_cons.1 h with rfl | h
      · exact List.forall_mem_cons.2 ⟨Bool.eq_false_iff.2 hd, hfirst⟩
      · exact hothers p h

theorem no_separator_of_mem_words {cs w : List Char} (h : w ∈ words cs) : ∀ c ∈ w, isSeparator c = false :=
  no_separator_of_mem_pieces (List.mem_filter.1 h).1

theorem no_separator_capitalise {w : List Char} (h : ∀ c ∈ w, isSeparator c = false) :
    ∀ c ∈ capitalise w, isSeparator c = false := by
  cases w with
  | nil => simp [capitalise]
  | cons d ds =>
    intro c hc
    rcases List.mem_cons.1 hc with rfl | hc
    · rw [isSeparator_toUpper]
      exact h d List.mem_cons_self
    · obtain ⟨e, he, rfl⟩ := List.mem_map.1 hc
      rw [isSeparator_toLower]
      exact h e (List.mem_cons_of_mem d he)

/-- words run together leave no separator -/
theorem no_separator_flatMap_capitalise (cs : List Char) :
    ∀ c ∈ (words cs).flatMap capitalise, isSeparator c = false := by
  intro c hc
  obtain ⟨w, hw, hcw⟩ := List.mem_flatMap.1 hc
  exact no_separator_capitalise (no_separator_of_mem_words hw) c hcw

/-- without separators a name is left alone or capitalised -/
theorem joinWords_of_no_separator {cs : List Char} (h : ∀ c ∈ cs, isSeparator c = false) :
    joinWords cs = if isJoined cs then cs else capitalise cs := by
  have hwords : (words cs).flatMap capitalise = capitalise cs := by
    rw [words, pieces_eq, List.splitOnP_eq_singleton h]
    cases cs <;> simp [capitalise]
  rw [joinWords, hwords]

/-! ## Capitals -/

theorem capitalise_capitalise (cs : List Char) : capitalise (capitalise cs) = capitalise cs := by
  cases cs <;> simp [capitalise]

/-- what does not begin with a small letter is capitalised already when no other letter is large -/
theorem capitalise_eq_self_iff {cs : List Char} (hhead : ∀ c ∈ cs.head?, c.isLower = false) :
    capitalise cs = cs ↔ cs.tail.any Char.isUpper = false := by
  have hlower : ∀ c : Char, c.toLower = c ↔ c.isUpper = false := by
    intro c
    constructor
    · intro h
      rw [← h, Char.isUpper_toLower_eq_false]
    · intro h
      exact Char.toLower_eq_of_not_isUpper (Bool.eq_false_iff.1 h)
  cases cs with
  | nil => simp [capitalise]
  | cons c cs =>
    have hc : c.toUpper = c := Char.toUpper_eq_of_not_isLower (by simpa using hhead c rfl)
    have hmap : cs.map Char.toLower = cs ↔ ∀ d ∈ cs, d.toLower = d := by
      simpa using List.map_inj_left (f := Char.toLower) (g := id) (l := cs)
    simp only [capitalise, hc, List.cons_eq_cons, true_and, hmap, hlower, List.tail_cons, List.any_eq_false,
      Bool.not_eq_true]

/-! ## The letters of a joined name -/

def beginsWithLetter (w : List Char) : Bool := w.head?.any Char.isAlpha

/-- has a letter that is not its first character -/
def hasLetterInside (w : List Char) : Bool := w.tail.any Char.isAlpha

section JoinedLetters

variable {ws : List (List Char)}

theorem any_isUpper_head? (hws : ∀ w ∈ ws, w ≠ []) :
    (ws.flatMap capitalise).head?.any Char.isUpper = ws.head?.any beginsWithLetter := by
  cases ws with
  | nil => rfl
  | cons w ws =>
    obtain ⟨c, cs, rfl⟩ := List.exists_cons_of_ne_nil (hws w List.mem_cons_self)
    simp [capitalise, beginsWithLetter]

theorem any_isUpper_capitalise (w : List Char) : (capitalise w).any Char.isUpper = beginsWithLetter w := by
  cases w <;> simp [capitalise, beginsWithLetter, Function.comp_def]

theorem any_isLower_capitalise (w : List Char) : (capitalise w).any Char.isLower = hasLetterInside w := by
  cases w <;> simp [capitalise, hasLetterInside, Function.comp_def]

theorem any_isUpper_tail (hws : ∀ w ∈ ws, w ≠ []) :
    (ws.flatMap capitalise).tail.any Char.isUpper = ws.tail.any beginsWithLetter := by
  cases ws with
  | nil => rfl
  | cons w ws =>
    obtain ⟨c, cs, rfl⟩ := List.exists_cons_of_ne_nil (hws w List.mem_cons_self)
    have hrest : (cs.map Char.toLower).any Char.isUpper = false := by simp
    rw [List.flatMap_cons, capitalise, List.cons_append, List.tail_cons, List.any_append, hrest, List.any_flatMap]
    simp only [any_isUpper_capitalise, Bool.false_or, List.tail_cons]

theorem any_isLower : (ws.flatMap capitalise).any Char.isLower = ws.any hasLetterInside := by
  simp only [List.any_flatMap, any_isLower_capitalise]

end JoinedLetters

/-! ## Joining again -/

/-- a later word begins with a letter, but the first one does not or no word has a letter inside -/
structure Unsettled (ws : List (List Char)) : Prop where
  later : ws.tail.any beginsWithLetter = true
  unlike : ws.head?.any beginsWithLetter = false ∨ ws.any hasLetterInside = false

theorem isJoined_eq_true_iff {cs : List Char} (h : ∀ c ∈ cs, isSeparator c = false) :
    isJoined cs = true ↔ cs.head?.any Char.isUpper = true ∧ cs.any Char.isLower = true := by
  have hnone : cs.any isSeparator = false := List.any_eq_false.2 fun c hc => by simp [h c hc]
  simp [isJoined, hnone]

theorem joinWords_flatMap_iff (cs : List Char) :
    joinWords ((words cs).flatMap capitalise) = (words cs).flatMap capitalise ↔ ¬ Unsettled (words cs) := by
  have hws : ∀ w ∈ words cs, w ≠ [] := fun w hw => ne_nil_of_mem_words hw
  have hnone := no_separator_flatMap_capitalise cs
  have hjoined : isJoined ((words cs).flatMap capitalise) = true ↔
      (words cs).head?.any beginsWithLetter = true ∧ (words cs).any hasLetterInside = true := by
    rw [isJoined_eq_true_iff hnone, any_isUpper_head? hws, any_isLower]
  have hkept : capitalise ((words cs).flatMap capitalise) = (words cs).flatMap capitalise ↔
      (words cs).tail.any beginsWithLetter = false := by
    rw [capitalise_eq_self_iff (head?_flatMap_capitalise hws), any_isUpper_tail hws]
  rw [joinWords_of_no_separator hnone]
  split_ifs with h
  · obtain ⟨hbegins, hinside⟩ := hjoined.1 h
    refine iff_of_true rfl fun hun => ?_
    rcases hun.unlike with hno | hno
    · rw [hbegins] at hno
      cases hno
    · rw [hinside] at hno
      cases hno
  · rw [hkept, ← Bool.not_eq_true]
    refine not_congr ⟨fun hlater => ⟨hlater, ?_⟩, fun hun => hun.later⟩
    by_contra hboth
    rw [not_or, Bool.not_eq_false, Bool.not_eq_false] at hboth
    exact h (hjoined.2 hboth)

theorem not_unsettled_of_length_le {ws : List (List Char)} (h : ws.length ≤ 1) : ¬ Unsettled ws := by
  intro hun
  have hnil : ws.tail = [] := List.length_eq_zero_iff.1 (by rw [List.length_tail]; omega)
  have hlater := hun.later
  rw [hnil] at hlater
  cases hlater

/-- joining again keeps what has been joined, unless it is unsettled -/
theorem joinWords_joinWords_iff (cs : List Char) :
    joinWords (joinWords cs) = joinWords cs ↔ ¬ Unsettled (words cs) := by
  rcases joinWords_eq cs with ⟨hsame, hlength⟩ | ⟨-, hflat⟩
  · rw [hsame, hsame]
    exact iff_of_true rfl (not_unsettled_of_length_le hlength)
  · rw [hflat]
    exact joinWords_flatMap_iff cs

/-- nothing changes after the second time -/
theorem joinWords_thrice (cs : List Char) : joinWords (joinWords (joinWords cs)) = joinWords (joinWords cs) := by
  rcases joinWords_eq cs with ⟨hsame, -⟩ | ⟨-, hflat⟩
  · rw [hsame, hsame, hsame]
  · rw [hflat]
    -- what has been joined is one piece: from here on only its capitals may change, and that once
    have hnone := no_separator_flatMap_capitalise cs
    generalize (words cs).flatMap capitalise = joined at hnone
    rw [joinWords_of_no_separator hnone]
    split_ifs with h
    · rw [joinWords_of_no_separator hnone, if_pos h]
    · rw [joinWords_of_no_separator (no_separator_capitalise hnone), capitalise_capitalise, ite_self]

/-- **Joining again.** The joined spelling of a name is its own joined spelling unless the words of the name are
unsettled; and then it is at the next time. -/
theorem pascal_pascal_iff (name : String) :
    (pascal (pascal name) = pascal name ↔ ¬ Unsettled (words name.toList)) ∧
      pascal (pascal (pascal name)) = pascal (pascal name) := by
  simp only [← String.toList_inj, toList_pascal]
  exact ⟨joinWords_joinWords_iff name.toList, joinWords_thrice name.toList⟩

/-- two words of one letter look like one word in capitals -/
theorem pascal_pascal_initials : pascal (pascal "a_b") ≠ pascal "a_b" := by
  decide

end EntitySchema.Text
