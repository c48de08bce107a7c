/-
Outcomes that may fail, and checks of lists that stop at the first failure.

`eachAfter` checks every item of a list together with the items before it; it fails exactly where some item fails, with
the failure of the first that does.

- `map_eq_ok`, `bind_eq_ok`, `andThen_eq_ok`: when a combined outcome succeeds; `bind_eq_error`, `andThen_eq_error`: with
  what it fails.
- `eachAfter_eq_ok`: all items pass, each seen after its predecessors.
- `eachAfter_eq_error`: an item fails and all before it pass.
-/

namespace EntitySchema.Outcome

variable {ε ε' α β : Type}

/-! ## Changed outcomes -/

theorem map_eq_ok {f : α → β} {x : Except ε α} {b : β} : x.map f = .ok b ↔ ∃ a, x = .ok a ∧ f a = b := by
  cases x <;> simp [Except.map]

theorem map_eq_error {f : α → β} {x : Except ε α} {e : ε} : x.map f = .error e ↔ x = .error e := by
  cases x <;> simp [Except.map]

theorem mapConst_eq_ok {x : Except ε Unit} {a b : β} : (x.map fun _ => a) = .ok b ↔ x = .ok () ∧ a = b := by
  cases x <;> simp [Except.map]

theorem mapError_ok {f : ε → ε'} {a : α} : (Except.ok a).mapError f = .ok a := rfl

theorem mapError_error {f : ε → ε'} {e : ε} : (Except.error e : Except ε α).mapError f = .error (f e) := rfl

theorem mapError_eq_ok {x : Except ε α} {f : ε → ε'} {a : α} : x.mapError f = .ok a ↔ x = .ok a := by
  cases x <;> simp [mapError_ok, mapError_error]

theorem mapError_eq_error {x : Except ε α} {f : ε → ε'} {e' : ε'} :
    x.mapError f = .error e' ↔ ∃ e, x = .error e ∧ f e = e' := by
  cases x <;> simp [mapError_ok, mapError_error]

theorem mapError_map {x : Except ε α} {f : α → β} {g : ε → ε'} :
    (x.map f).mapError g = (x.mapError g).map f := by
  cases x <;> rfl

/-! ## One check after another -/

theorem bind_eq_ok {x : Except ε α} {f : α → Except ε β} {b : β} :
    x.bind f = .ok b ↔ ∃ a, x = .ok a ∧ f a = .ok b := by
  cases x <;> simp [Except.bind]

theorem bind_eq_error {x : Except ε α} {f : α → Except ε β} {e : ε} :
    x.bind f = .error e ↔ x = .error e ∨ ∃ a, x = .ok a ∧ f a = .error e := by
  cases x <;> simp [Except.bind]

theorem andThen_eq_ok {x : Except ε Unit} {y : Except ε β} {b : β} :
    (x.bind fun _ => y) = .ok b ↔ x = .ok () ∧ y = .ok b := by
  cases x <;> simp [Except.bind]

theorem andThen_eq_error {x : Except ε Unit} {y : Except ε β} {e : ε} :
    (x.bind fun _ => y) = .error e ↔ x = .error e ∨ (x = .ok () ∧ y = .error e) := by
  cases x <;> simp [Except.bind]

theorem mapError_andThen {x : Except ε Unit} {y : Except ε β} {f : ε → ε'} :
    (x.bind fun _ => y).mapError f = (x.mapError f).bind fun _ => y.mapError f := by
  cases x <;> rfl

/-- fail with `e` unless the condition holds -/
def require (condition : Bool) (e : ε) : Except ε Unit := if condition then .ok () else .error e

@[simp] theorem require_eq_ok {condition : Bool} {e : ε} : require condition e = .ok () ↔ condition = true := by
  cases condition <;> simp [require]

theorem require_eq_error {condition : Bool} {e e' : ε} : require condition e = .error e' ↔ condition = false ∧ e = e' := by
  cases condition <;> simp [require]

/-! ## Checks of lists -/

/-- check every item after the items before it, `earlier` among them; the first failure is the outcome -/
def eachAfter (check : List α → α → Except ε Unit) : List α → List α → Except ε Unit
  | _, [] => .ok ()
  | earlier, x :: xs => (check earlier x).bind fun _ => eachAfter check (earlier ++ [x]) xs

/-- check every item on its own; the first failure is the outcome -/
def each (check : α → Except ε Unit) (xs : List α) : Except ε Unit := eachAfter (fun _ => check) [] xs

theorem eachAfter_eq_ok {check : List α → α → Except ε Unit} {earlier xs : List α} :
    eachAfter check earlier xs = .ok () ↔
      ∀ before x after, xs = before ++ x :: after → check (earlier ++ before) x = .ok () := by
  induction xs generalizing earlier with
  | nil => simp [eachAfter]
  | cons y ys ih =>
    simp only [eachAfter, bind_eq_ok, ih]
    constructor
    · rintro ⟨u, hy, hys⟩ before x after h
      cases before with
      | nil =>
        simp only [List.nil_append, List.cons.injEq] at h
        obtain ⟨rfl, rfl⟩ := h
        simpa using hy
      | cons z zs =>
        simp only [List.cons_append, List.cons.injEq] at h
        obtain ⟨rfl, rfl⟩ := h
        simpa using hys zs x after rfl
    · intro h
      refine ⟨(), by simpa using h [] y ys rfl, fun before x after e => ?_⟩
      simpa using h (y :: before) x after (by simp [e])

theorem eachAfter_eq_error {check : List α → α → Except ε Unit} {earlier xs : List α} {e : ε} :
    eachAfter check earlier xs = .error e ↔
      ∃ before x after, xs = before ++ x :: after ∧ check (earlier ++ before) x = .error e ∧
        eachAfter check earlier before = .ok () := by
  induction xs generalizing earlier with
  | nil => simp [eachAfter]
  | cons y ys ih =>
    cases hy : check earlier y with
    -- the head is the element that fails: nothing may stand before it
    | error e' =>
      simp only [eachAfter, hy, Except.bind, Except.error.injEq]
      constructor
      · rintro rfl
        exact ⟨[], y, ys, rfl, by simpa using hy, rfl⟩
      · rintro ⟨before, x, after, h, hx, hb⟩
        cases before with
        | nil =>
          simp only [List.nil_append, List.cons.injEq] at h
          obtain ⟨rfl, rfl⟩ := h
          simpa [hy] using hx
        | cons z zs =>
          simp only [List.cons_append, List.cons.injEq] at h
          obtain ⟨rfl, rfl⟩ := h
          simp [eachAfter, hy, Except.bind] at hb
    | ok u =>
      simp only [eachAfter, hy, Except.bind, ih]
      constructor
      · rintro ⟨before, x, after, rfl, hx, hb⟩
        exact ⟨y :: before, x, after, rfl, by simpa using hx, by simpa [eachAfter, hy, Except.bind] using hb⟩
      · rintro ⟨before, x, after, h, hx, hb⟩
        cases before with
        | nil =>
          simp only [List.nil_append, List.cons.injEq] at h
          obtain ⟨rfl, rfl⟩ := h
          simp [hy] at hx
        | cons z zs =>
          simp only [List.cons_append, List.cons.injEq] at h
          obtain ⟨rfl, rfl⟩ := h
          exact ⟨zs, x, after, rfl, by simpa using hx, by simpa [eachAfter, hy, Except.bind] using hb⟩

theorem mapError_eachAfter {check : List α → α → Except ε Unit} {f : ε → ε'} {earlier xs : List α} :
    (eachAfter check earlier xs).mapError f = eachAfter (fun before x => (check before x).mapError f) earlier xs := by
  induction xs generalizing earlier with
  | nil => rfl
  | cons x xs ih => rw [eachAfter, mapError_andThen, ih, eachAfter]

theorem each_eq_ok {check : α → Except ε Unit} {xs : List α} :
    each check xs = .ok () ↔ ∀ x ∈ xs, check x = .ok () := by
  rw [each, eachAfter_eq_ok]
  constructor
  · intro h x hx
    obtain ⟨before, after, rfl⟩ := List.append_of_mem hx
    exact h before x after rfl
  · rintro h before x after rfl
    exact h x (by simp)

end EntitySchema.Outcome
