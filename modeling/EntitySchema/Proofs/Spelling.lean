/-
Spellings of cardinalities. Besides the four keywords, a cardinality is spelled by its three words in large or small letters
with separators between them; how many separators there are, which ones, and whether more stand around the words does not
matter. A keyword with a separator before or after it is one word, and so no spelling.

- `Text.pieces_eq`: the pieces of a name, by splitting a list.
- `Text.map_capitalise_of_flatMap`: the words can be told from how they look when run together.
- `Cardinality.ofName?_iff`: which names spell a cardinality.
- `Cardinality.spellings`: the same, and what follows for names with and without separators.

The laws of large and small letters (`Char.toLower_toUpper_eq_toLower` and the like) come with the whole of Mathlib and
with no smaller part of it, so it is imported whole.
-/
import EntitySchema.Proofs.Vocabulary
import EntitySchema.Vocabulary.Cardinality
import Mathlib

namespace EntitySchema

namespace Text

/-! ## Words of a name -/

theorem pieces_eq (cs : List Char) : pieces cs = cs.splitOnP isSeparator := by
  induction cs with
  | nil => rfl
  | cons c cs ih =>
    rw [pieces, List.splitOnP_cons_eq_if_modifyHead, ih]
    split_ifs with hc
    · rfl
    · obtain ⟨p, ps, hp⟩ := List.exists_cons_of_ne_nil (List.splitOnP_ne_nil isSeparator cs)
      simp only [hp, List.modifyHead_cons]

theorem words_append_separator {c : Char} (hc : isSeparator c = true) (front back : List Char) :
    words (front ++ c :: back) = words front ++ words back := by
  simp only [words, pieces_eq, List.splitOnP_append_cons front back hc, List.filter_append]

/-- separators before a name add no words -/
theorem words_append_left {run : List Char} (h : ∀ c ∈ run, isSeparator c = true) (cs : List Char) :
    words (run ++ cs) = words cs := by
  induction run with
  | nil => rfl
  | cons c run ih =>
    obtain ⟨hc, hrun⟩ := List.forall_mem_cons.1 h
    calc words (c :: run ++ cs) = words [] ++ words (run ++ cs) := words_append_separator hc [] (run ++ cs)
      _ = words cs := ih hrun

/-- the words before and after separators stay apart -/
theorem words_around {run : List Char} (h : ∀ c ∈ run, isSeparator c = true) (hne : run ≠ []) (front back : List Char) :
    words (front ++ run ++ back) = words front ++ words back := by
  obtain ⟨c, run, rfl⟩ := List.exists_cons_of_ne_nil hne
  obtain ⟨hc, hrun⟩ := List.forall_mem_cons.1 h
  calc words (front ++ c :: run ++ back) = words (front ++ c :: (run ++ back)) := by
        rw [List.append_assoc, List.cons_append]
    _ = words front ++ words (run ++ back) := words_append_separator hc front (run ++ back)
    _ = words front ++ words back := by rw [words_append_left hrun]

/-- separators after a name add no words -/
theorem words_append_right {run : List Char} (h : ∀ c ∈ run, isSeparator c = true) (cs : List Char) :
    words (cs ++ run) = words cs := by
  by_cases hne : run = []
  · rw [hne, List.append_nil]
  · have hapart := words_around h hne cs []
    rw [List.append_nil] at hapart
    exact hapart.trans (List.append_nil _)

theorem length_words_le {cs : List Char} (h : ∀ c ∈ cs, isSeparator c = false) : (words cs).length ≤ 1 := by
  rw [words, pieces_eq, List.splitOnP_eq_singleton h]
  exact List.length_filter_le _ _

theorem ne_nil_of_mem_words {cs w : List Char} (h : w ∈ words cs) : w ≠ [] := by
  obtain ⟨_, hne⟩ := List.mem_filter.1 h
  simpa using hne

/-! ## Words told apart -/

/-- a capital with small letters after it -/
def isCapitalised (cs : List Char) : Bool := cs.head?.any Char.isUpper && cs.tail.all Char.isLower

theorem capitalise_eq_iff {v w : List Char} :
    capitalise v = capitalise w ↔ v.map Char.toLower = w.map Char.toLower := by
  have hcase : ∀ c d : Char, c.toUpper = d.toUpper ↔ c.toLower = d.toLower := by
    intro c d
    constructor
    · intro h
      simpa using congrArg Char.toLower h
    · intro h
      simpa using congrArg Char.toUpper h
  cases v <;> cases w <;> simp [capitalise, hcase]

/-- words that are run together do not begin with a small letter -/
theorem head?_flatMap_capitalise {ws : List (List Char)} (hws : ∀ w ∈ ws, w ≠ []) :
    ∀ c ∈ (ws.flatMap capitalise).head?, c.isLower = false := by
  cases ws with
  | nil => simp
  | cons w ws =>
    obtain ⟨c, cs, rfl⟩ := List.exists_cons_of_ne_nil (hws w List.mem_cons_self)
    simp [capitalise]

/-- where one text is cut in two ways, once before a capital and after small letters only, and once before no small letter
and after no capital, the cuts are the same -/
theorem cut_unique {l l' r r' : List Char} (h : l ++ r = l' ++ r') (hl : ∀ c ∈ l, c.isUpper = false)
    (hl' : ∀ c ∈ l', c.isLower = true) (hr : ∀ c ∈ r.head?, c.isLower = false)
    (hr' : ∀ c ∈ r'.head?, c.isUpper = true) : l = l' ∧ r = r' := by
  rcases List.append_eq_append_iff.1 h with ⟨more, rfl, rfl⟩ | ⟨more, rfl, rfl⟩
  · cases more with
    | nil => simp
    | cons c more => simp_all
  · cases more with
    | nil => simp
    | cons c more => simp_all

theorem exists_of_isCapitalised {k : List Char} (h : isCapitalised k = true) :
    ∃ d ds, k = d :: ds ∧ d.isUpper = true ∧ ∀ x ∈ ds, x.isLower = true := by
  cases k with
  | nil => cases h
  | cons d ds =>
    obtain ⟨hd, hds⟩ := Bool.and_eq_true_iff.1 h
    exact ⟨d, ds, rfl, by simpa using hd, by simpa using hds⟩

/-- capitalised words that are run together begin with a capital -/
theorem head?_flatten_of_isCapitalised {ks : List (List Char)} (hks : ∀ k ∈ ks, isCapitalised k = true) :
    ∀ c ∈ ks.flatten.head?, c.isUpper = true := by
  cases ks with
  | nil => simp
  | cons k ks =>
    obtain ⟨d, ds, rfl, hd, _⟩ := exists_of_isCapitalised (hks k List.mem_cons_self)
    simpa using hd

/-- **Words told apart.** Where words run together look like capitalised words run together, they are those words. -/
theorem map_capitalise_of_flatMap {ws ks : List (List Char)} (hws : ∀ w ∈ ws, w ≠ [])
    (hks : ∀ k ∈ ks, isCapitalised k = true) (h : ws.flatMap capitalise = ks.flatten) : ws.map capitalise = ks := by
  induction ks generalizing ws with
  | nil =>
    cases ws with
    | nil => rfl
    | cons w ws =>
      obtain ⟨c, cs, rfl⟩ := List.exists_cons_of_ne_nil (hws w List.mem_cons_self)
      cases h
  | cons k ks ih =>
    obtain ⟨hk, hmore⟩ := List.forall_mem_cons.1 hks
    obtain ⟨d, ds, rfl, _, hds⟩ := exists_of_isCapitalised hk
    cases ws with
    | nil => cases h
    | cons w ws =>
      obtain ⟨hw, hothers⟩ := List.forall_mem_cons.1 hws
      obtain ⟨c, cs, rfl⟩ := List.exists_cons_of_ne_nil hw
      obtain ⟨hfirst, hrest⟩ := List.cons.inj h
      obtain ⟨hcs, hflat⟩ := cut_unique hrest (by simp) hds (head?_flatMap_capitalise hothers)
        (head?_flatten_of_isCapitalised hmore)
      rw [List.map_cons, ih hothers hmore hflat, capitalise, hfirst, hcs]

/-! ## Names in joined spelling -/

/-- the words between the separators of a name, in small letters -/
def smallWords (name : String) : List String :=
  ((name.toList.splitOnP isSeparator).filter fun w => !w.isEmpty).map fun w => String.ofList (w.map Char.toLower)

def Separators (run : String) : Prop := ∀ c ∈ run.toList, isSeparator c = true

instance (run : String) : Decidable (Separators run) :=
  decidable_of_iff (run.toList.all isSeparator = true) List.all_eq_true

theorem smallWords_eq (name : String) :
    smallWords name = (words name.toList).map fun w => String.ofList (w.map Char.toLower) := by
  rw [smallWords, words, pieces_eq]

theorem map_capitalise_eq_iff {ws : List (List Char)} {ks : List String}
    (hks : ∀ k ∈ ks, k.toList.map Char.toLower = k.toList) :
    ws.map capitalise = ks.map (fun k => capitalise k.toList) ↔
      (ws.map fun w => String.ofList (w.map Char.toLower)) = ks := by
  induction ws generalizing ks with
  | nil => cases ks <;> simp
  | cons w ws ih =>
    cases ks with
    | nil => simp
    | cons k ks =>
      obtain ⟨hk, hks⟩ := List.forall_mem_cons.1 hks
      have hword : String.ofList (w.map Char.toLower) = k ↔ w.map Char.toLower = k.toList := by
        rw [← String.toList_inj, String.toList_ofList]
      simp only [List.map_cons, List.cons.injEq, ih hks, capitalise_eq_iff, hk, hword]

theorem no_separator_of_isJoined {cs : List Char} (h : isJoined cs = true) : ∀ c ∈ cs, isSeparator c = false := by
  simp only [isJoined, Bool.and_eq_true, Bool.not_eq_true', List.any_eq_false] at h
  simpa using h.2

/-- the joined spelling hangs on the words only, unless the name is in joined spelling already -/
theorem joinWords_eq (cs : List Char) :
    joinWords cs = cs ∧ (words cs).length ≤ 1 ∨ isJoined cs = false ∧ joinWords cs = (words cs).flatMap capitalise := by
  cases h : isJoined cs with
  | false => exact .inr ⟨rfl, by rw [joinWords, h, if_neg Bool.false_ne_true]⟩
  | true => exact .inl ⟨by rw [joinWords, h, if_pos rfl], length_words_le (no_separator_of_isJoined h)⟩

end Text

namespace Cardinality

open Text

/-! ## Spellings of cardinalities -/

def words : Cardinality → List String
  | oneToOne => ["one", "to", "one"]
  | oneToMany => ["one", "to", "many"]
  | manyToOne => ["many", "to", "one"]
  | manyToMany => ["many", "to", "many"]

/-- the words of the name, in whatever case, are those of the cardinality -/
def SpelledBy (c : Cardinality) (name : String) : Prop := smallWords name = c.words

instance (c : Cardinality) (name : String) : Decidable (c.SpelledBy name) :=
  inferInstanceAs (Decidable (smallWords name = c.words))

theorem length_words (c : Cardinality) : c.words.length = 3 := by
  cases c <;> rfl

theorem SpelledBy.three_words {c : Cardinality} {name : String} (h : c.SpelledBy name) :
    (Text.words name.toList).length = 3 := by
  have hthree : (smallWords name).length = 3 := h ▸ c.length_words
  rwa [smallWords_eq, List.length_map] at hthree

theorem toList_keyword (c : Cardinality) : c.keyword.toList = (c.words.map fun k => capitalise k.toList).flatten := by
  cases c <;> decide

theorem isCapitalised_words (c : Cardinality) : ∀ k ∈ c.words.map fun k => capitalise k.toList, isCapitalised k = true := by
  cases c <;> decide

theorem small_words (c : Cardinality) : ∀ k ∈ c.words, k.toList.map Char.toLower = k.toList := by
  cases c <;> decide

theorem isJoined_keyword (c : Cardinality) : isJoined c.keyword.toList = true := by
  cases c <;> decide

/-- words run together are a keyword just when they are its words -/
theorem flatMap_capitalise_iff {c : Cardinality} {name : String} :
    (Text.words name.toList).flatMap capitalise = c.keyword.toList ↔ c.SpelledBy name := by
  rw [SpelledBy, smallWords_eq, ← map_capitalise_eq_iff c.small_words, toList_keyword]
  constructor
  · intro h
    exact map_capitalise_of_flatMap (fun w hw => ne_nil_of_mem_words hw) c.isCapitalised_words h
  · intro h
    rw [List.flatMap_def, h]

theorem pascal_eq_keyword {c : Cardinality} {name : String} :
    pascal name = c.keyword ↔ name = c.keyword ∨ c.SpelledBy name := by
  rw [← String.toList_inj, toList_pascal]
  rcases joinWords_eq name.toList with ⟨hsame, hlength⟩ | ⟨hjoined, hflat⟩
  · -- a name in joined spelling has one word
    have hnot : ¬ c.SpelledBy name := by
      intro h
      have hthree := h.three_words
      omega
    rw [hsame, String.toList_inj, or_iff_left hnot]
  · have hne : name ≠ c.keyword := by
      rintro rfl
      rw [isJoined_keyword] at hjoined
      cases hjoined
    rw [hflat, flatMap_capitalise_iff, or_iff_right hne]

theorem ofName?_eq_some_iff_pascal {c : Cardinality} {name : String} : ofName? name = some c ↔ c.keyword = pascal name :=
  (find?_key_iff (by decide)).trans (and_iff_right (by cases c <;> decide))

/-- **Spellings.** A name stands for a cardinality when it is the keyword or has its words. -/
theorem ofName?_iff {c : Cardinality} {name : String} :
    ofName? name = some c ↔ name = c.keyword ∨ c.SpelledBy name := by
  rw [ofName?_eq_some_iff_pascal, eq_comm, pascal_eq_keyword]

theorem ofName?_congr {v w : String} (hsame : smallWords v = smallWords w) (hv : ∀ c : Cardinality, v ≠ c.keyword)
    (hw : ∀ c : Cardinality, w ≠ c.keyword) : ofName? v = ofName? w := by
  apply Option.ext
  intro c
  rw [ofName?_iff, ofName?_iff, or_iff_right (hv c), or_iff_right (hw c), SpelledBy, SpelledBy, hsame]

/-! ## Separators -/

theorem smallWords_between {front back : String} (hfront : Separators front) (hback : Separators back) (name : String) :
    smallWords (front ++ name ++ back) = smallWords name := by
  simp only [smallWords_eq, String.toList_append, words_append_right hback, words_append_left hfront]

theorem smallWords_around {run : String} (h : Separators run) (hne : run ≠ "") (front back : String) :
    smallWords (front ++ run ++ back) = smallWords front ++ smallWords back := by
  have hsome : run.toList ≠ [] := by simpa using hne
  simp only [smallWords_eq, String.toList_append, words_around h hsome, List.map_append]

theorem no_separator_in_keyword (c : Cardinality) : ∀ x ∈ c.keyword.toList, isSeparator x = false :=
  no_separator_of_isJoined c.isJoined_keyword

/-- what stands around a keyword is no separator, if it is part of one -/
theorem eq_empty_of_part {c : Cardinality} {front run back : String} (h : Separators run)
    (hkeyword : front ++ run ++ back = c.keyword) : run = "" := by
  by_contra hne
  have hsome : run.toList ≠ [] := by simpa using hne
  obtain ⟨x, xs, hx⟩ := List.exists_cons_of_ne_nil hsome
  have hyes : isSeparator x = true := h x (by simp [hx])
  have hno : isSeparator x = false := c.no_separator_in_keyword x (by simp [← hkeyword, hx])
  rw [hyes] at hno
  cases hno

/-- **Spellings of cardinalities.** A name stands for a cardinality when it is the keyword or its words are those of the
cardinality, in whatever case. So a name without separators must be a keyword. Where the name is no keyword, separators
before and after it do not matter, nor does it matter which and how many separators stand between words. -/
theorem spellings :
    (∀ name c, ofName? name = some c ↔ name = c.keyword ∨ c.SpelledBy name) ∧
    (∀ name : String, (∀ x ∈ name.toList, isSeparator x = false) → ∀ c, ofName? name = some c ↔ name = c.keyword) ∧
    (∀ front name back, Separators front → Separators back →
      (∀ c : Cardinality, c.SpelledBy (front ++ name ++ back) ↔ c.SpelledBy name) ∧
        ((∀ c : Cardinality, name ≠ c.keyword) → ofName? (front ++ name ++ back) = ofName? name)) ∧
    ∀ front run run' back, Separators run → Separators run' → run ≠ "" → run' ≠ "" →
      ofName? (front ++ run ++ back) = ofName? (front ++ run' ++ back) := by
  refine ⟨fun _ _ => ofName?_iff, fun name hnone c => ?_, fun front name back hfront hback => ⟨fun c => ?_, ?_⟩, ?_⟩
  · have hnot : ¬ c.SpelledBy name := by
      intro h
      have hthree := h.three_words
      have hone := length_words_le hnone
      omega
    rw [ofName?_iff, or_iff_left hnot]
  · rw [SpelledBy, SpelledBy, smallWords_between hfront hback]
  · intro hname
    apply ofName?_congr (smallWords_between hfront hback name) _ hname
    intro c hkeyword
    -- no keyword has a separator, so nothing was put around it
    have hback' : back = "" := eq_empty_of_part hback (by rwa [String.append_empty])
    have hfront' : front = "" := eq_empty_of_part hfront (by rwa [String.empty_append, ← String.append_assoc])
    subst hback' hfront'
    exact hname c (by simpa using hkeyword)
  · intro front run run' back hrun hrun' hne hne'
    have hsame : smallWords (front ++ run ++ back) = smallWords (front ++ run' ++ back) := by
      rw [smallWords_around hrun hne, smallWords_around hrun' hne']
    exact ofName?_congr hsame (fun c hkeyword => hne (eq_empty_of_part hrun hkeyword))
      fun c hkeyword => hne' (eq_empty_of_part hrun' hkeyword)

/-- large and small letters, separators before and after, and more than one between two words; and a name without any -/
theorem toMany_spelled :
    ofName? ("-" ++ ("one" ++ "._." ++ "TO-maNY") ++ "__") = some oneToMany ∧
      ofName? ("one" ++ "_" ++ "TO-maNY") = some oneToMany ∧ ofName? "onetomany" ≠ some oneToMany := by
  obtain ⟨hspelled, hjoined, haround, hbetween⟩ := spellings
  have hplain : ofName? ("one" ++ "_" ++ "TO-maNY") = some oneToMany := (hspelled _ _).2 (.inr (by decide +kernel))
  have hmore : ofName? ("one" ++ "._." ++ "TO-maNY") = ofName? ("one" ++ "_" ++ "TO-maNY") :=
    hbetween "one" "._." "_" "TO-maNY" (by decide) (by decide) (by decide) (by decide)
  have hother : ∀ c : Cardinality, "one" ++ "._." ++ "TO-maNY" ≠ c.keyword := by
    intro c
    cases c <;> decide
  have hwrapped := (haround "-" ("one" ++ "._." ++ "TO-maNY") "__" (by decide) (by decide)).2 hother
  refine ⟨hwrapped.trans (hmore.trans hplain), hplain, ?_⟩
  intro h
  exact absurd ((hjoined "onetomany" (by simp [isSeparator]) oneToMany).1 h) (by decide)

end Cardinality

end EntitySchema
