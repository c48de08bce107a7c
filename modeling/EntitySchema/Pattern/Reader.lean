/-
Reading a pattern from left to right. Open groups lie on a stack; each keeps the branches it has so far and the parts
of its last branch, and the mode to return to when it is closed.

- `readAll_tolerated`: a tolerated construct, with the text after it, is an end of the pattern.
-/
import EntitySchema.Pattern.CharClass
import EntitySchema.Pattern.Count
import EntitySchema.Pattern.Group

namespace EntitySchema.Pattern

/-- an open group: its finished branches and the parts of the last one, both last first -/
structure GroupLevel where
  branches : List Expr := []
  parts : List Expr := []

namespace GroupLevel

def push (l : GroupLevel) (e : Expr) : GroupLevel := { l with parts := e :: l.parts }

def branch (l : GroupLevel) : GroupLevel := ⟨.ofParts l.parts :: l.branches, []⟩

/-- the group as far as it is read -/
def toExpr (l : GroupLevel) : Expr := .ofBranches (.ofParts l.parts :: l.branches)

/-- repeat the last part; there must be one -/
def repeatLast (l : GroupLevel) : Except Stop GroupLevel :=
  match l.parts with
  | [] => .error (.fault .nothingToRepeat)
  | e :: es => if e.repeatable then .ok { l with parts := .repetition e :: es } else .error (.fault .nothingToRepeat)

end GroupLevel

structure State where
  /-- the extended mode -/
  extended : Bool := false
  /-- the names of the groups so far -/
  names : List (List Char) := []
  level : GroupLevel := {}
  /-- the open groups around it, and the mode that each returns to -/
  outer : List (GroupLevel × Bool) := []

namespace State

def push (s : State) (e : Expr) : State := { s with level := s.level.push e }

/-- what an opening parenthesis changes -/
def opened (s : State) : Opener → State
  | .flags extended => { s.push .flags with extended := extended.getD s.extended }
  | .group extended names =>
    { extended := extended.getD s.extended, names, level := {}, outer := (s.level, s.extended) :: s.outer }

/-- what a closing parenthesis changes -/
def closed (s : State) : Except Stop State :=
  match s.outer with
  | [] => .error (.fault .groupUnopened)
  | (level, extended) :: outer =>
    .ok { s with extended, level := level.push (.group s.level.toExpr), outer }

/-- the pattern, when all groups are closed -/
def finished (s : State) : Except Stop Expr :=
  match s.outer with
  | [] => .ok s.level.toExpr
  | _ :: _ => .error (.fault .groupUnclosed)

end State

def dropQuestion : List Char → List Char
  | '?' :: cs => cs
  | cs => cs

/-- read what begins with `c`: the state after it and the text that is left -/
def step (s : State) (c : Char) (cs : List Char) : Except Stop (State × List Char) :=
  match c with
  | '(' => (readOpener s.extended s.names cs).map fun (o, rest) => (s.opened o, rest)
  | ')' => s.closed.map fun s => (s, cs)
  | '|' => .ok ({ s with level := s.level.branch }, cs)
  | '[' => (readClass s.extended cs).map fun (e, rest) => (s.push (.charClass e), rest)
  | '*' | '+' | '?' => s.level.repeatLast.map fun level => ({ s with level }, dropQuestion cs)
  | '\x7b' =>
    s.level.repeatLast.bind fun level => (readCount s.extended cs).map fun rest => ({ s with level }, rest)
  | '\\' => (readEscape s.extended cs).map fun (_, rest) => (s.push .atom, rest)
  | _ => .ok (s.push .atom, cs)

theorem dropQuestion_suffix (cs : List Char) : dropQuestion cs <:+ cs := by
  unfold dropQuestion
  split
  · exact List.suffix_cons _ _
  · exact List.suffix_refl _

theorem step_suffix {s s' : State} {c : Char} {cs rest : List Char} (h : step s c cs = .ok (s', rest)) :
    rest <:+ cs := by
  unfold step at h
  split at h
  · obtain ⟨⟨o, r⟩, ho, e⟩ := Outcome.map_eq_ok.mp h
    cases e
    exact readOpener_suffix ho
  · obtain ⟨s, _, e⟩ := Outcome.map_eq_ok.mp h
    cases e
    exact List.suffix_refl _
  · cases h
    exact List.suffix_refl _
  · obtain ⟨⟨e, r⟩, hr, e⟩ := Outcome.map_eq_ok.mp h
    cases e
    exact readClass_suffix hr
  iterate 3
    · obtain ⟨level, _, e⟩ := Outcome.map_eq_ok.mp h
      cases e
      exact dropQuestion_suffix cs
  · obtain ⟨level, _, h⟩ := Outcome.bind_eq_ok.mp h
    obtain ⟨r, hr, e⟩ := Outcome.map_eq_ok.mp h
    cases e
    exact readCount_suffix hr
  · obtain ⟨⟨a, r⟩, hr, e⟩ := Outcome.map_eq_ok.mp h
    cases e
    exact readEscape_suffix hr
  · cases h
    exact List.suffix_refl _

theorem repeatLast_ne_tolerated {l : GroupLevel} {t : Tolerated} : l.repeatLast ≠ .error (.tolerated t) := by
  unfold GroupLevel.repeatLast
  split
  · simp
  · split <;> simp

theorem step_tolerated {s : State} {c : Char} {cs : List Char} {t : Tolerated}
    (h : step s c cs = .error (.tolerated t)) : t.Ends (c :: cs) := by
  unfold step at h
  split at h
  · exact readOpener_tolerated (Outcome.map_eq_error.mp h)
  · have h := Outcome.map_eq_error.mp h
    unfold State.closed at h
    split at h <;> nomatch h
  · nomatch h
  · exact (readClass_tolerated (Outcome.map_eq_error.mp h)).of_suffix (List.suffix_cons _ _)
  iterate 3
    · exact absurd (Outcome.map_eq_error.mp h) repeatLast_ne_tolerated
  · cases hr : s.level.repeatLast with
    | error e =>
      simp only [hr, Except.bind, Except.error.injEq] at h
      exact absurd (h ▸ hr) repeatLast_ne_tolerated
    | ok level =>
      simp only [hr, Except.bind] at h
      exact absurd (Outcome.map_eq_error.mp h) readCount_ne_tolerated
  · exact readEscape_tolerated (Outcome.map_eq_error.mp h)
  · nomatch h

/-- the pattern that the text holds from here on -/
def readFrom (s : State) (cs : List Char) : Except Stop Expr :=
  match h : skip s.extended cs with
  | [] => s.finished
  | c :: rest =>
    match hs : step s c rest with
    | .error e => .error e
    | .ok (s', rest') =>
      have := (step_suffix hs).length_le
      have := List.length_cons ▸ h ▸ (skip_suffix s.extended cs).length_le
      readFrom s' rest'
termination_by cs.length

def readAll (cs : List Char) : Except Stop Expr := readFrom {} cs

theorem readFrom_tolerated {s : State} {cs : List Char} {t : Tolerated}
    (h : readFrom s cs = .error (.tolerated t)) : t.Ends cs := by
  fun_induction readFrom s cs with
  | case1 s cs _ =>
    unfold State.finished at h
    split at h <;> nomatch h
  | case2 s cs c rest hc e hs =>
    cases h
    exact (step_tolerated hs).of_suffix (hc ▸ skip_suffix s.extended cs)
  | case3 s cs c rest hc s' rest' hs _ _ ih =>
    exact (ih h).of_suffix
      ((step_suffix hs).trans ((List.suffix_cons _ _).trans (hc ▸ skip_suffix s.extended cs)))

theorem readAll_tolerated {cs : List Char} {t : Tolerated} (h : readAll cs = .error (.tolerated t)) : t.Ends cs :=
  readFrom_tolerated h

end EntitySchema.Pattern
