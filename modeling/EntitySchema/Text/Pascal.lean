/-
The joined spelling of a name: its words run together, each with a capital first letter (`one-to-many` and
`ONE_TO_MANY` are both `OneToMany`).

Words are separated by `_`, `-` and `.`; only the letters of ASCII have a case. A name that begins with a capital, has
a small letter and no separator is taken to be spelled this way already and is left alone.

One go through the characters is enough to write the spelling down, with a flag for whether the next one begins a word
(`runTogether`). It is defined by the words instead, which is what the laws of spellings are about; `runTogether_eq` is
what justifies the split into words.

- `runTogether_eq`: the words run together are what one go through the characters writes.
- `joinWords_eq_runTogether`: the joined spelling in one go.
-/

namespace EntitySchema.Text

def isSeparator (c : Char) : Bool := c == '_' || c == '-' || c == '.'

/-- cut at every separator; between two of them an empty piece is left -/
def pieces : List Char → List (List Char)
  | [] => [[]]
  | c :: cs =>
    if isSeparator c then [] :: pieces cs
    else
      match pieces cs with
      | [] => [[c]]
      | p :: ps => (c :: p) :: ps

theorem pieces_ne_nil (cs : List Char) : pieces cs ≠ [] := by
  cases cs with
  | nil => simp [pieces]
  | cons c cs =>
    rw [pieces]
    split
    · simp
    · split <;> simp

/-- the words of a name: its pieces without the empty ones -/
def words (cs : List Char) : List (List Char) := (pieces cs).filter fun p => !p.isEmpty

/-- first letter large, the others small -/
def capitalise : List Char → List Char
  | [] => []
  | c :: cs => c.toUpper :: cs.map Char.toLower

/-- begins with a capital, has a small letter and no separator -/
def isJoined (cs : List Char) : Bool :=
  cs.head?.any Char.isUpper && cs.any Char.isLower && !cs.any isSeparator

def joinWords (cs : List Char) : List Char := if isJoined cs then cs else (words cs).flatMap capitalise

/-- the joined spelling of a name -/
def pascal (name : String) : String := String.ofList (joinWords name.toList)

theorem toList_pascal (name : String) : (pascal name).toList = joinWords name.toList := by
  simp [pascal]

/-! ## In one go -/

/-- the words of a name run together in one go through its characters; the flag tells whether the next one begins a word -/
def runTogether : Bool → List Char → List Char
  | _, [] => []
  | begins, c :: cs =>
    if isSeparator c then runTogether true cs
    else (if begins then c.toUpper else c.toLower) :: runTogether false cs

/-- inside a word, its rest comes first -/
theorem runTogether_pieces {cs p : List Char} {ps : List (List Char)} (h : pieces cs = p :: ps) :
    runTogether true cs = capitalise p ++ ps.flatMap capitalise ∧
      runTogether false cs = p.map Char.toLower ++ ps.flatMap capitalise := by
  induction cs generalizing p ps with
  | nil =>
    cases h
    exact ⟨rfl, rfl⟩
  | cons c cs ih =>
    obtain ⟨q, qs, hq⟩ := List.exists_cons_of_ne_nil (pieces_ne_nil cs)
    obtain ⟨hbegins, hinside⟩ := ih hq
    rw [pieces, hq] at h
    by_cases hc : isSeparator c
    · rw [if_pos hc] at h
      cases h
      simp only [runTogether, hc, if_true, hbegins, List.flatMap_cons]
      exact ⟨rfl, rfl⟩
    · rw [if_neg hc] at h
      cases h
      simp only [runTogether, hc, hinside]
      exact ⟨rfl, rfl⟩

/-- pieces without characters leave nothing behind -/
theorem flatMap_capitalise_filter (ps : List (List Char)) :
    (ps.filter fun p => !p.isEmpty).flatMap capitalise = ps.flatMap capitalise := by
  induction ps with
  | nil => rfl
  | cons p ps ih => cases p <;> simp [ih, capitalise]

/-- **One go.** Running the words of a name together takes no more than to go through its characters once. -/
theorem runTogether_eq (cs : List Char) : runTogether true cs = (words cs).flatMap capitalise := by
  obtain ⟨p, ps, hp⟩ := List.exists_cons_of_ne_nil (pieces_ne_nil cs)
  rw [(runTogether_pieces hp).1, words, flatMap_capitalise_filter, hp, List.flatMap_cons]

/-- the joined spelling in one go -/
theorem joinWords_eq_runTogether (cs : List Char) : joinWords cs = if isJoined cs then cs else runTogether true cs := by
  rw [joinWords, runTogether_eq]

end EntitySchema.Text
