/-
Look-around groups in patterns. Their openers are not read: a parenthesis stands in for each, and the text is read again
from its beginning. So the body of a look-around group is judged as the body of a group that captures.

That is how the body of a plain group `(?:…)` is judged, too, unless the body begins with a question mark. After `(?:`
this is a repetition of nothing; after the parenthesis that stands in for a look-around it makes an opener of its own,
as in `(?=?i)`, which is read again as `(?i)`.

- `readAll_lookAround`, `readAll_capturing`, `readAll_plain`: what is read first, for the three ways to open a group.
- `fault?_of_sameStart`: two beginnings that lead to the same state are judged alike, however often the text after them
  is read again.
- `isPattern_lookAround_iff`: when a body is as good in a look-around group as in a plain one.
- `lookAround_hides_question_mark`: a body that is not.
-/
import EntitySchema.Pattern.Basic

namespace EntitySchema.Pattern

/-! ## Reading step by step -/

theorem readFrom_cons {s : State} {c : Char} {cs rest : List Char} (h : skip s.extended cs = c :: rest) :
    readFrom s cs = (step s c rest).bind fun p => readFrom p.1 p.2 := by
  rw [readFrom]
  split
  · rename_i he
    rw [h] at he
    cases he
  · rename_i he
    cases h.symm.trans he
    split <;> rename_i hs <;> simp only [hs, Except.bind]

theorem fault?_eq (cs : List Char) :
    fault? cs = match readAll cs with
      | .ok e => if nestLimit < e.depth then some .tooDeep else none
      | .error (.fault f) => some f
      | .error (.tolerated t) => fault? (t.replaced cs) := by
  rw [fault?]
  split <;> rename_i h <;> simp only [h]

/-- where reading comes to a construct that is tolerated, the text before it and the text after it are kept -/
theorem Tolerated.Ends.replaced_append {t : Tolerated} {cs : List Char} (h : t.Ends cs) :
    ∃ before, cs = before ++ (t.construct ++ t.after) ∧
      ∀ front, t.replaced (front ++ cs) = front ++ (before ++ t.standIn :: t.after) := by
  obtain ⟨before, rfl⟩ := h.suffix
  refine ⟨before, rfl, fun front => ?_⟩
  have hlength : (front ++ (before ++ (t.construct ++ t.after))).length - (t.construct ++ t.after).length =
      (front ++ before).length := by
    simp only [List.length_append]
    omega
  rw [Tolerated.replaced, hlength, ← List.append_assoc, List.take_left, List.append_assoc]

/-! ## Beginnings that lead to the same state -/

/-- after `front`, reading goes on in the state `s` with any text that does not begin with a question mark -/
def LeadsTo (front : List Char) (s : State) : Prop :=
  ∀ cs, cs.head? ≠ some '?' → readAll (front ++ cs) = readFrom s cs

/-- no stand-in is a question mark, so a text that does not begin with one does not when it is read again -/
theorem Tolerated.Ends.head?_replaced {t : Tolerated} {before : List Char}
    (h : t.Ends (before ++ (t.construct ++ t.after)))
    (hq : (before ++ (t.construct ++ t.after)).head? ≠ some '?') :
    (before ++ t.standIn :: t.after).head? ≠ some '?' := by
  cases before with
  | nil => rcases h.standIn with hx | hx <;> simp [hx]
  | cons c before => simpa using hq

/-- **The same start.** Two beginnings that lead to the same state are judged alike before any text that does not begin
with a question mark. -/
theorem fault?_of_sameStart {front front' : List Char} {s : State} (hf : LeadsTo front s) (hf' : LeadsTo front' s)
    {cs : List Char} (hq : cs.head? ≠ some '?') : fault? (front ++ cs) = fault? (front' ++ cs) := by
  -- each round of reading again leaves a shorter text after the beginning
  induction hn : cs.length using Nat.strongRecOn generalizing cs with
  | ind n ih =>
    rw [fault?_eq, fault?_eq (front' ++ cs), hf cs hq, hf' cs hq]
    cases hr : readFrom s cs with
    | ok e => rfl
    | error stop =>
      cases stop with
      | fault f => rfl
      | tolerated t =>
        have hends := readFrom_tolerated hr
        obtain ⟨before, rfl, hreplaced⟩ := hends.replaced_append
        have hshorter : (before ++ t.standIn :: t.after).length < n := by
          have := hends.longer
          simp only [← hn, List.length_append, List.length_cons]
          omega
        simp only [hreplaced]
        exact ih _ hshorter (hends.head?_replaced hq) rfl

/-! ## Openers of groups -/

inductive LookAround where
  | ahead
  | notAhead
  | behind
  | notBehind
deriving DecidableEq, Repr

/-- the mark after the parenthesis that opens the group -/
def LookAround.mark : LookAround → String
  | ahead => "?="
  | notAhead => "?!"
  | behind => "?<="
  | notBehind => "?<!"

/-- a body in a look-around group -/
def LookAround.group (k : LookAround) (body : String) : String := "(" ++ k.mark ++ body ++ ")"

/-- a body in a group that captures -/
def capturing (body : String) : String := "(" ++ body ++ ")"

/-- a body in a group that does not capture -/
def plain (body : String) : String := "(?:" ++ body ++ ")"

/-- the state in which the body of the first group is read, if nothing stands before it -/
def State.inFirst : State := State.opened {} (.group none [])

theorem readAll_open (cs : List Char) :
    readAll ('(' :: cs) =
      (readOpener false [] cs).bind fun p => readFrom (State.opened {} p.1) p.2 := by
  have hskip : skip (State.extended {}) ('(' :: cs) = '(' :: cs := rfl
  rw [readAll, readFrom_cons hskip, step]
  cases readOpener false [] cs <;> rfl

/-- the opener of a look-around group is tolerated, whatever follows it -/
theorem readAll_lookAround (k : LookAround) (cs : List Char) :
    readAll ('(' :: (k.mark.toList ++ cs)) = .error (.tolerated ⟨'(' :: k.mark.toList, cs, '('⟩) := by
  have hmark : afterLookAround? (k.mark.toList ++ cs) = some cs := by cases k <;> rfl
  have htake : (k.mark.toList ++ cs).take ((k.mark.toList ++ cs).length - cs.length) = k.mark.toList := by
    rw [List.length_append, Nat.add_sub_cancel, List.take_left]
  rw [readAll_open, readOpener]
  simp only [skip, Bool.false_eq_true, if_false, hmark, htake]
  rfl

theorem readAll_capturing : LeadsTo ['('] .inFirst := by
  intro cs hq
  have hlook : afterLookAround? cs = none := by
    unfold afterLookAround?
    split <;> simp_all
  have hname : afterNameMark? cs = none := by
    unfold afterNameMark?
    split <;> simp_all
  have hopener : readOpener false [] cs = .ok (.group none [], cs) := by
    unfold readOpener
    simp only [skip, Bool.false_eq_true, if_false, hlook, hname]
    split <;> simp_all
  rw [List.singleton_append, readAll_open, hopener]
  rfl

theorem readAll_plain : LeadsTo ['(', '?', ':'] .inFirst := by
  intro cs _
  rw [List.cons_append, readAll_open]
  rfl

/-- a question mark has nothing to repeat where the body of a plain group begins -/
theorem fault?_plain_question (cs : List Char) :
    fault? ('(' :: '?' :: ':' :: '?' :: cs) = some .nothingToRepeat := by
  have hread : readAll ('(' :: '?' :: ':' :: '?' :: cs) = .error (.fault .nothingToRepeat) := by
    rw [readAll_open]
    have hskip : skip (State.extended .inFirst) ('?' :: cs) = '?' :: cs := rfl
    change readFrom .inFirst ('?' :: cs) = _
    rw [readFrom_cons hskip]
    rfl
  rw [fault?_eq, hread]

/-! ## Bodies of groups -/

theorem isPattern_lookAround (k : LookAround) (body : String) :
    isPattern (k.group body) = isPattern (capturing body) := by
  have hgroup : (k.group body).toList = '(' :: (k.mark.toList ++ (body.toList ++ [')'])) := by
    simp [LookAround.group]
  have hcapturing : (capturing body).toList = '(' :: (body.toList ++ [')']) := by
    simp [capturing]
  have hfault : fault? (k.group body).toList = fault? (capturing body).toList := by
    rw [hgroup, fault?_eq, readAll_lookAround, hcapturing]
    simp [Tolerated.replaced]
  rw [isPattern, isPattern, hfault]

theorem isPattern_plain_of_sameStart {body : String} (hq : body.toList.head? ≠ some '?') :
    isPattern (plain body) = isPattern (capturing body) := by
  have hclosed : (body.toList ++ [')']).head? ≠ some '?' := by
    cases hbody : body.toList with
    | nil => simp
    | cons c cs => simpa [hbody] using hq
  have hfault := fault?_of_sameStart readAll_plain readAll_capturing hclosed
  simp only [isPattern, plain, capturing, String.toList_append]
  exact congrArg Option.isNone hfault

theorem isPattern_plain_question {body : String} (hq : body.toList.head? = some '?') :
    isPattern (plain body) = false := by
  obtain ⟨cs, hbody⟩ := List.head?_eq_some_iff.mp hq
  have hfault := fault?_plain_question (cs ++ [')'])
  simp only [isPattern, plain, String.toList_append, hbody]
  exact congrArg Option.isNone hfault

/-- **Bodies of look-around groups.** A body is as good in a look-around group as in a group that captures. It is as
good as in a plain group, too, unless it begins with a question mark and is good in a group that captures: what follows
the question mark is then read as the rest of an opener. -/
theorem isPattern_lookAround_iff (k : LookAround) (body : String) :
    isPattern (k.group body) = isPattern (capturing body) ∧
      (isPattern (k.group body) = isPattern (plain body) ↔
        ¬(body.toList.head? = some '?' ∧ isPattern (capturing body) = true)) := by
  refine ⟨isPattern_lookAround k body, ?_⟩
  rw [isPattern_lookAround]
  by_cases hq : body.toList.head? = some '?'
  · rw [isPattern_plain_question hq]
    simp [hq]
  · rw [isPattern_plain_of_sameStart hq]
    simp [hq]

/-- the question mark of `?i` has nothing to repeat in a plain group, and sets a flag after a look-ahead -/
theorem lookAround_hides_question_mark :
    isPattern (LookAround.ahead.group "?i") = true ∧ isPattern (plain "?i") = false := by
  decide +kernel

end EntitySchema.Pattern
