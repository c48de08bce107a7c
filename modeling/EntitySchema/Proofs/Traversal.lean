/-
Going through a list with a step that may fail. The outcome is that of every item, in order, or the first failure; nothing
after it is looked at.

- `mapM_eq_ok`, `exists_mapM_eq_ok`, `mapM_eq_error`: when the whole succeeds, and with what it fails.
- `mapM_eq_ok_filterMap`: beside a step that leaves out instead of failing.
- `mapM_mapM_eq_ok`: two rounds against one.
-/
import EntitySchema.Outcome
import EntitySchema.Proofs.Tables

namespace EntitySchema

open Outcome

theorem mapM_cons_eq {ε α β : Type} (f : α → Except ε β) (x : α) (xs : List α) :
    (x :: xs).mapM f = (f x).bind fun y => (xs.mapM f).map (y :: ·) := by
  rw [List.mapM_cons]
  cases f x <;> rfl

theorem mapM_eq_ok {ε α β : Type} {f : α → Except ε β} {xs : List α} {ys : List β} :
    xs.mapM f = .ok ys ↔ List.Forall₂ (fun x y => f x = .ok y) xs ys := by
  induction xs generalizing ys with
  | nil => simp [pure, Except.pure, eq_comm]
  | cons x xs ih =>
    rw [mapM_cons_eq, bind_eq_ok]
    simp only [map_eq_ok, ih]
    constructor
    · rintro ⟨y, hy, ys', hys, rfl⟩
      exact .cons hy hys
    · rintro (_ | ⟨hy, hys⟩)
      exact ⟨_, hy, _, hys, rfl⟩

theorem exists_mapM_eq_ok {ε α β : Type} {f : α → Except ε β} {xs : List α} :
    (∃ ys, xs.mapM f = .ok ys) ↔ ∀ x ∈ xs, ∃ y, f x = .ok y := by
  induction xs with
  | nil => simp [pure, Except.pure]
  | cons x xs ih =>
    rw [List.forall_mem_cons, ← ih]
    simp only [mapM_cons_eq, bind_eq_ok, map_eq_ok]
    constructor
    · intro h
      obtain ⟨_, y, hy, ys, hys, _⟩ := h
      exact ⟨⟨y, hy⟩, ys, hys⟩
    · intro h
      obtain ⟨⟨y, hy⟩, ys, hys⟩ := h
      exact ⟨y :: ys, y, hy, ys, hys, rfl⟩

/-- **The first failure.** A failure of the whole is that of an item before which all succeed. -/
theorem mapM_eq_error {ε α β : Type} {f : α → Except ε β} {xs : List α} {e : ε} :
    xs.mapM f = .error e ↔
      ∃ before x after, xs = before ++ x :: after ∧ (∀ b ∈ before, ∃ y, f b = .ok y) ∧ f x = .error e := by
  induction xs with
  | nil => simp [pure, Except.pure]
  | cons x xs ih =>
    rw [mapM_cons_eq, bind_eq_error]
    simp only [map_eq_error, ih]
    constructor
    · intro h
      rcases h with hx | ⟨y, hy, before, z, after, rfl, hbefore, hz⟩
      · exact ⟨[], x, xs, rfl, by simp, hx⟩
      · exact ⟨x :: before, z, after, rfl, List.forall_mem_cons.2 ⟨⟨y, hy⟩, hbefore⟩, hz⟩
    · intro h
      obtain ⟨before, z, after, heq, hbefore, hz⟩ := h
      cases before with
      | nil =>
        obtain ⟨rfl, rfl⟩ := List.cons.inj heq
        exact .inl hz
      | cons b before =>
        obtain ⟨rfl, rfl⟩ := List.cons.inj heq
        obtain ⟨⟨y, hy⟩, hrest⟩ := List.forall_mem_cons.1 hbefore
        exact .inr ⟨y, hy, before, z, after, rfl, hrest, hz⟩

/-- **Strict and lenient steps.** Where a strict step succeeds when `P` holds and the lenient step gives something, going
strictly through a list succeeds when that is so of every item, and nothing is left out of the lenient outcome. -/
theorem mapM_eq_ok_filterMap {ε α β : Type} {f : α → Except ε β} {g : α → Option β} {P : α → Prop}
    (h : ∀ x y, f x = .ok y ↔ P x ∧ g x = some y) {xs : List α} {ys : List β} :
    xs.mapM f = .ok ys ↔ (∀ x ∈ xs, P x ∧ (g x).isSome) ∧ xs.filterMap g = ys := by
  rw [mapM_eq_ok]
  simp only [h]
  constructor
  · intro hall
    induction hall with
    | nil => simp
    | cons hxy _ ih =>
      obtain ⟨hP, hg⟩ := hxy
      rw [List.forall_mem_cons, List.filterMap_cons_some hg, ih.2]
      exact ⟨⟨⟨hP, by rw [hg]; rfl⟩, ih.1⟩, rfl⟩
  · rintro ⟨hall, rfl⟩
    refine filterMap_forall₂ fun x hx => ?_
    obtain ⟨hP, hg⟩ := hall x hx
    obtain ⟨y, hy⟩ := Option.isSome_iff_exists.1 hg
    exact ⟨y, hy, hP, hy⟩

/-- going through a list in two rounds succeeds as both steps in one round do; which failure is met first is not the
same -/
theorem mapM_mapM_eq_ok {ε α β γ : Type} {f : α → Except ε β} {g : β → Except ε γ} {xs : List α} {zs : List γ} :
    (∃ ys, xs.mapM f = .ok ys ∧ ys.mapM g = .ok zs) ↔ xs.mapM (fun x => (f x).bind g) = .ok zs := by
  simp only [mapM_eq_ok, bind_eq_ok]
  constructor
  · rintro ⟨ys, hxy, hyz⟩
    induction hxy generalizing zs with
    | nil =>
      cases hyz
      exact .nil
    | cons hx _ ih =>
      cases hyz with
      | cons hy hyz => exact .cons ⟨_, hx, hy⟩ (ih hyz)
  · intro h
    induction h with
    | nil => exact ⟨[], .nil, .nil⟩
    | cons hxz _ ih =>
      obtain ⟨y, hx, hy⟩ := hxz
      obtain ⟨ys, hxy, hyz⟩ := ih
      exact ⟨y :: ys, .cons hx hxy, .cons hy hyz⟩

end EntitySchema
