/-
Character classes: what may stand between brackets. Classes lie inside one another; on each level parts stand side by
side and `&&`, `--` and `~~` join what is before them with what comes after.

- `readClass_suffix`, `readClass_tolerated`: what is left is an end of the text, and so is a tolerated construct with
  what follows it.
-/
import EntitySchema.Pattern.Escape
import EntitySchema.Pattern.Expr

namespace EntitySchema.Pattern

/-- an open class: what stands before the last operator, and the parts after it, last first -/
structure SetLevel where
  left : Option CharSet := none
  parts : List CharSet := []

namespace SetLevel

/-- the class as far as it is read -/
def toSet (l : SetLevel) : CharSet :=
  match l.left with
  | none => .ofParts l.parts
  | some s => .joined s (.ofParts l.parts)

def push (l : SetLevel) (s : CharSet) : SetLevel := { l with parts := s :: l.parts }

/-- an operator joins what is read with what comes next -/
def operator (l : SetLevel) : SetLevel := ⟨some l.toSet, []⟩

end SetLevel

/-- the names between `[:` and `:]` -/
def setNames : List String :=
  ["alnum", "alpha", "ascii", "blank", "cntrl", "digit", "graph", "lower", "print", "punct", "space", "upper", "word",
   "xdigit"]

def dropCaret : List Char → List Char
  | '^' :: cs => cs
  | cs => cs

/-- the text after a named set, after its first bracket -/
def afterNamedSet? : List Char → Option (List Char)
  | ':' :: cs =>
    match (dropCaret cs).dropWhile fun c => c != ':' with
    | ':' :: ']' :: rest =>
      if String.ofList ((dropCaret cs).takeWhile fun c => c != ':') ∈ setNames then some rest else none
    | _ => none
  | _ => none

/-- the start of a class, after its bracket: an optional `^`, then dashes or one closing bracket as characters -/
def readSetStart (extended : Bool) (cs : List Char) : Except Stop (SetLevel × List Char) :=
  match runAll extended (fun c => c == '-') (skip extended (dropCaret (skip extended cs))) with
  | (_, []) => .error (.fault .classUnclosed)
  | ([], ']' :: rest) =>
    match skip extended rest with
    | [] => .error (.fault .classUnclosed)
    | rest => .ok (⟨none, [.single]⟩, rest)
  | (dashes, rest) => .ok (⟨none, dashes.map fun _ => .single⟩, rest)

/-- one member of a class: an escape or any character -/
def readMember (extended : Bool) : List Char → Except Stop (Atom × List Char)
  | [] => .error (.fault .classUnclosed)
  | '\\' :: cs => readEscape extended cs
  | c :: cs => .ok (.literal c, cs)

/-- a member that stands alone: a condition does not -/
def loneMember (a : Atom) (rest : List Char) : Except Stop (List Char) :=
  match a with
  | .assertion => .error (.fault .classEscape)
  | _ => .ok rest

/-- a range: both ends are characters, in order -/
def closeRange (a b : Atom) (rest : List Char) : Except Stop (List Char) :=
  match a, b with
  | .literal c, .literal d => if c ≤ d then .ok rest else .error (.fault .classRange)
  | _, _ => .error (.fault .classRangeEnd)

/-- a member or a range, and the text after it -/
def readPart (extended : Bool) (cs : List Char) : Except Stop (List Char) :=
  match readMember extended cs with
  | .error s => .error s
  | .ok (a, rest) =>
    match skip extended rest with
    | [] => .error (.fault .classUnclosed)
    | '-' :: after =>
      if lookPast extended after = some ']' || lookPast extended after = some '-' then loneMember a ('-' :: after)
      else
        match skip extended after with
        | [] => .error (.fault .classUnclosed)
        | c :: tail =>
          match readMember extended (c :: tail) with
          | .error s => .error s
          | .ok (b, rest) => closeRange a b rest
    | rest => loneMember a rest

/-! ## What is left of one part -/

theorem dropCaret_suffix (cs : List Char) : dropCaret cs <:+ cs := by
  unfold dropCaret
  split
  · exact List.suffix_cons _ _
  · exact List.suffix_refl _

theorem afterNamedSet?_suffix {cs rest : List Char} (h : afterNamedSet? cs = some rest) : rest <:+ cs := by
  unfold afterNamedSet? at h
  split at h
  · rename_i tail
    have hd := (List.dropWhile_suffix (l := dropCaret tail) fun c => c != ':').trans (dropCaret_suffix tail)
    split at h
    · rename_i after he
      rw [he] at hd
      split at h
      · cases h
        exact ((List.suffix_cons _ _).trans (List.suffix_cons _ _)).trans (hd.trans (List.suffix_cons _ _))
      · nomatch h
    · nomatch h
  · nomatch h

theorem readSetStart_suffix {extended : Bool} {cs rest : List Char} {l : SetLevel}
    (h : readSetStart extended cs = .ok (l, rest)) : rest <:+ cs := by
  have hs := (skip_suffix extended (dropCaret (skip extended cs))).trans
    ((dropCaret_suffix (skip extended cs)).trans (skip_suffix extended cs))
  unfold readSetStart at h
  have hr := (runAll_suffix extended (fun c => c == '-') _).trans hs
  split at h
  · nomatch h
  · rename_i tail he
    rw [he] at hr
    have ht := skip_suffix extended tail
    split at h
    · nomatch h
    · cases h
      exact (ht.trans (List.suffix_cons _ _)).trans hr
  · rename_i he
    rw [he] at hr
    cases h
    exact hr

theorem readSetStart_ne_tolerated {extended : Bool} {cs : List Char} {t : Tolerated} :
    readSetStart extended cs ≠ .error (.tolerated t) := by
  intro h
  unfold readSetStart at h
  split at h
  · nomatch h
  · split at h <;> nomatch h
  · nomatch h

theorem readMember_suffix {extended : Bool} {cs rest : List Char} {a : Atom}
    (h : readMember extended cs = .ok (a, rest)) : rest <:+ cs ∧ rest.length < cs.length := by
  unfold readMember at h
  split at h
  · nomatch h
  · have hs := readEscape_suffix h
    refine ⟨hs.trans (List.suffix_cons _ _), ?_⟩
    have := hs.length_le
    simp only [List.length_cons]
    omega
  · cases h
    exact ⟨List.suffix_cons _ _, by simp⟩

theorem readMember_tolerated {extended : Bool} {cs : List Char} {t : Tolerated}
    (h : readMember extended cs = .error (.tolerated t)) : t.Ends cs := by
  unfold readMember at h
  split at h
  · nomatch h
  · exact readEscape_tolerated h
  · nomatch h

theorem loneMember_eq_ok {a : Atom} {rest rest' : List Char} (h : loneMember a rest = .ok rest') : rest' = rest := by
  unfold loneMember at h
  split at h
  · nomatch h
  · exact (Except.ok.inj h).symm

theorem loneMember_ne_tolerated {a : Atom} {rest : List Char} {t : Tolerated} :
    loneMember a rest ≠ .error (.tolerated t) := by
  unfold loneMember
  split <;> simp

theorem closeRange_eq_ok {a b : Atom} {rest rest' : List Char} (h : closeRange a b rest = .ok rest') :
    rest' = rest := by
  unfold closeRange at h
  split at h
  · split at h
    · exact (Except.ok.inj h).symm
    · nomatch h
  · nomatch h

theorem closeRange_ne_tolerated {a b : Atom} {rest : List Char} {t : Tolerated} :
    closeRange a b rest ≠ .error (.tolerated t) := by
  unfold closeRange
  split
  · split <;> simp
  · simp

theorem readPart_suffix {extended : Bool} {cs rest : List Char} (h : readPart extended cs = .ok rest) :
    rest <:+ cs ∧ rest.length < cs.length := by
  unfold readPart at h
  split at h
  · nomatch h
  · rename_i a tail hm
    have ⟨hs, hl⟩ := readMember_suffix hm
    have ht := skip_suffix extended tail
    have hle := ht.length_le
    split at h
    · nomatch h
    · rename_i after he
      rw [he] at ht hle
      split at h
      · rw [loneMember_eq_ok h]
        exact ⟨ht.trans hs, by omega⟩
      · have ha := skip_suffix extended after
        split at h
        · nomatch h
        · rename_i c tail' hc
          rw [hc] at ha
          split at h
          · nomatch h
          · rename_i b rest' hm'
            rw [closeRange_eq_ok h]
            have hr := (readMember_suffix hm').1.trans (ha.trans ((List.suffix_cons _ _).trans ht))
            have := hr.length_le
            exact ⟨hr.trans hs, by omega⟩
    · rw [loneMember_eq_ok h]
      exact ⟨ht.trans hs, by omega⟩

theorem readPart_tolerated {extended : Bool} {cs : List Char} {t : Tolerated}
    (h : readPart extended cs = .error (.tolerated t)) : t.Ends cs := by
  unfold readPart at h
  split at h
  · rename_i s hm
    cases h
    exact readMember_tolerated hm
  · rename_i a tail hm
    have hs := (readMember_suffix hm).1
    have ht := skip_suffix extended tail
    split at h
    · nomatch h
    · rename_i after he
      rw [he] at ht
      split at h
      · exact absurd h loneMember_ne_tolerated
      · have ha := skip_suffix extended after
        split at h
        · nomatch h
        · rename_i c tail' hc
          rw [hc] at ha
          split at h
          · rename_i s hm'
            cases h
            exact (readMember_tolerated hm').of_suffix (ha.trans ((List.suffix_cons _ _).trans (ht.trans hs)))
          · exact absurd h closeRange_ne_tolerated
    · exact absurd h loneMember_ne_tolerated

/-! ## Whole classes -/

/-- what the next characters of an open class begin or end -/
inductive SetMark where
  | named
  | opening
  | closing
  | operator
  | part
deriving DecidableEq, Repr

/-- what the next characters of an open class begin or end, and the text after the mark; a part has none -/
def setMark? : List Char → Option (SetMark × List Char)
  | [] => none
  | '[' :: cs =>
    match afterNamedSet? cs with
    | some rest => some (.named, rest)
    | none => some (.opening, cs)
  | ']' :: cs => some (.closing, cs)
  | '&' :: '&' :: cs => some (.operator, cs)
  | '-' :: '-' :: cs => some (.operator, cs)
  | '~' :: '~' :: cs => some (.operator, cs)
  | c :: cs => some (.part, c :: cs)

theorem setMark?_suffix {cs rest : List Char} {m : SetMark} (h : setMark? cs = some (m, rest)) :
    rest <:+ cs ∧ (m ≠ .part → rest.length < cs.length) := by
  unfold setMark? at h
  split at h
  · nomatch h
  · rename_i tail
    split at h
    · rename_i after hn
      cases h
      have hs := afterNamedSet?_suffix hn
      have := hs.length_le
      exact ⟨hs.trans (List.suffix_cons _ _), fun _ => by rw [List.length_cons]; omega⟩
    · cases h
      exact ⟨List.suffix_cons _ _, fun _ => by simp⟩
  · cases h
    exact ⟨List.suffix_cons _ _, fun _ => by simp⟩
  iterate 3
    · cases h
      exact ⟨⟨[_, _], rfl⟩, fun _ => by simp only [List.length_cons]; omega⟩
  · cases h
    exact ⟨List.suffix_refl _, fun h => absurd rfl h⟩

/-- the rest of a class: `level` is the innermost open class, `outer` are those around it -/
def readSet (extended : Bool) (level : SetLevel) (outer : List SetLevel) (cs : List Char) :
    Except Stop (CharSet × List Char) :=
  have hs := (skip_suffix extended cs).length_le
  match hm : setMark? (skip extended cs) with
  | none => .error (.fault .classUnclosed)
  | some (.named, rest) =>
    have := (setMark?_suffix hm).2 (by decide)
    readSet extended (level.push .single) outer rest
  | some (.opening, tail) =>
    match h : readSetStart extended tail with
    | .error s => .error s
    | .ok (inner, rest) =>
      have := (setMark?_suffix hm).2 (by decide)
      have := (readSetStart_suffix h).length_le
      readSet extended inner (level :: outer) rest
  | some (.closing, rest) =>
    match outer with
    | [] => .ok (level.toSet, rest)
    | l :: outer =>
      have := (setMark?_suffix hm).2 (by decide)
      readSet extended (l.push (.bracketed level.toSet)) outer rest
  | some (.operator, rest) =>
    have := (setMark?_suffix hm).2 (by decide)
    readSet extended level.operator outer rest
  | some (.part, cs') =>
    match h : readPart extended cs' with
    | .error s => .error s
    | .ok rest =>
      have := (setMark?_suffix hm).1.length_le
      have := (readPart_suffix h).2
      readSet extended (level.push .single) outer rest
termination_by cs.length
decreasing_by all_goals omega

/-- a class, after its bracket -/
def readClass (extended : Bool) (cs : List Char) : Except Stop (CharSet × List Char) :=
  match readSetStart extended cs with
  | .error s => .error s
  | .ok (level, rest) => readSet extended level [] rest

theorem readSet_suffix {extended : Bool} {level : SetLevel} {outer : List SetLevel} {cs rest : List Char}
    {e : CharSet} (h : readSet extended level outer cs = .ok (e, rest)) : rest <:+ cs := by
  fun_induction readSet extended level outer cs with
  | case1 => nomatch h
  | case2 level outer cs _ tail hm _ ih =>
    exact (ih h).trans ((setMark?_suffix hm).1.trans (skip_suffix extended cs))
  | case3 => nomatch h
  | case4 level outer cs _ tail hm inner rest' hr _ _ ih =>
    exact (ih h).trans ((readSetStart_suffix hr).trans ((setMark?_suffix hm).1.trans (skip_suffix extended cs)))
  | case5 level cs _ tail hm =>
    cases h
    exact (setMark?_suffix hm).1.trans (skip_suffix extended cs)
  | case6 level cs _ tail hm l outer _ ih =>
    exact (ih h).trans ((setMark?_suffix hm).1.trans (skip_suffix extended cs))
  | case7 level outer cs _ tail hm _ ih =>
    exact (ih h).trans ((setMark?_suffix hm).1.trans (skip_suffix extended cs))
  | case8 => nomatch h
  | case9 level outer cs _ tail hm rest' hr _ _ ih =>
    exact (ih h).trans ((readPart_suffix hr).1.trans ((setMark?_suffix hm).1.trans (skip_suffix extended cs)))

theorem readSet_tolerated {extended : Bool} {level : SetLevel} {outer : List SetLevel} {cs : List Char}
    {t : Tolerated} (h : readSet extended level outer cs = .error (.tolerated t)) : t.Ends cs := by
  fun_induction readSet extended level outer cs with
  | case1 => nomatch h
  | case2 level outer cs _ tail hm _ ih =>
    exact (ih h).of_suffix ((setMark?_suffix hm).1.trans (skip_suffix extended cs))
  | case3 level outer cs _ tail hm s hr =>
    cases h
    exact absurd hr readSetStart_ne_tolerated
  | case4 level outer cs _ tail hm inner rest' hr _ _ ih =>
    exact (ih h).of_suffix ((readSetStart_suffix hr).trans ((setMark?_suffix hm).1.trans (skip_suffix extended cs)))
  | case5 => nomatch h
  | case6 level cs _ tail hm l outer _ ih =>
    exact (ih h).of_suffix ((setMark?_suffix hm).1.trans (skip_suffix extended cs))
  | case7 level outer cs _ tail hm _ ih =>
    exact (ih h).of_suffix ((setMark?_suffix hm).1.trans (skip_suffix extended cs))
  | case8 level outer cs _ tail hm s hr =>
    cases h
    exact (readPart_tolerated hr).of_suffix ((setMark?_suffix hm).1.trans (skip_suffix extended cs))
  | case9 level outer cs _ tail hm rest' hr _ _ ih =>
    exact (ih h).of_suffix ((readPart_suffix hr).1.trans ((setMark?_suffix hm).1.trans (skip_suffix extended cs)))

theorem readClass_suffix {extended : Bool} {cs rest : List Char} {e : CharSet}
    (h : readClass extended cs = .ok (e, rest)) : rest <:+ cs := by
  unfold readClass at h
  split at h
  · nomatch h
  · rename_i hr
    exact (readSet_suffix h).trans (readSetStart_suffix hr)

theorem readClass_tolerated {extended : Bool} {cs : List Char} {t : Tolerated}
    (h : readClass extended cs = .error (.tolerated t)) : t.Ends cs := by
  unfold readClass at h
  split at h
  · rename_i hr
    cases h
    exact absurd hr readSetStart_ne_tolerated
  · rename_i hr
    exact (readSet_tolerated h).of_suffix (readSetStart_suffix hr)

end EntitySchema.Pattern
