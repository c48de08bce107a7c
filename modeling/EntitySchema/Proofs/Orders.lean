/-
Lists in another order, and the tables made from them.

An order is a list of places (`arrange`): it puts different lists of one length into the same order. A table does not
need so much. Which row it holds under a key is up to the last row of the list with that key, so all that counts is the
order of rows of the same key (`KeepsOrder`).

- `arrange_perm`: every item is used once when every place is.
- `arrange_filterMap`: what is made from the items one by one is in the same order as they are.
- `KeepsOrder.of_perm`: any order keeps the order of the items of a key when they are all equal.
- `Keyed.agrees_ofList`: tables of lists that keep the order of the rows of each key agree.
-/
import EntitySchema.Proofs.Tables
import Mathlib.Data.List.Forall2

namespace EntitySchema

/-! ## Items by their places -/

/-- the items at these places, in this order -/
def arrange {α : Type} (order : List ℕ) (xs : List α) : List α := order.filterMap fun i => xs[i]?

theorem filterMap_range_getElem? {α : Type} (xs : List α) :
    (List.range xs.length).filterMap (fun i => xs[i]?) = xs := by
  induction xs using List.reverseRecOn with
  | nil => rfl
  | append_singleton xs a ih =>
    have hinit : (List.range xs.length).filterMap (fun i => (xs ++ [a])[i]?) = xs := by
      refine Eq.trans (List.filterMap_congr fun i hi => ?_) ih
      exact List.getElem?_append_left (List.mem_range.1 hi)
    rw [List.length_append, List.length_singleton, List.range_succ, List.filterMap_append, hinit]
    simp

theorem arrange_perm {α : Type} {order : List ℕ} {xs : List α} (h : order.Perm (List.range xs.length)) :
    (arrange order xs).Perm xs := by
  have hp := h.filterMap fun i => xs[i]?
  rwa [filterMap_range_getElem?] at hp

theorem getElem?_filterMap {α β : Type} {f : α → Option β} {xs : List α} (h : ∀ x ∈ xs, ∃ y, f x = some y) (i : ℕ) :
    (xs.filterMap f)[i]? = xs[i]?.bind f := by
  induction xs generalizing i with
  | nil => simp
  | cons x xs ih =>
    obtain ⟨y, hy⟩ := h x List.mem_cons_self
    rw [List.filterMap_cons_some hy]
    cases i with
    | zero => simp [hy]
    | succ i => simpa using ih (fun z hz => h z (List.mem_cons_of_mem x hz)) i

theorem arrange_filterMap {α β : Type} {f : α → Option β} {xs : List α} (h : ∀ x ∈ xs, ∃ y, f x = some y)
    (order : List ℕ) : (arrange order xs).filterMap f = arrange order (xs.filterMap f) := by
  rw [arrange, List.filterMap_filterMap, arrange]
  exact List.filterMap_congr fun i _ => (getElem?_filterMap h i).symm

/-! ## Items by their keys -/

/-- the items in another order, but those of one key in the same -/
structure KeepsOrder {α κ : Type} [DecidableEq κ] (key : α → κ) (xs ys : List α) : Prop where
  perm : xs.Perm ys
  sameKey : ∀ k, xs.filter (fun x => key x = k) = ys.filter (fun x => key x = k)

namespace KeepsOrder

variable {α κ : Type} [DecidableEq κ] {key : α → κ}

/-- only keys that occur have to be looked at -/
theorem iff_keys {xs ys : List α} : KeepsOrder key xs ys ↔
    xs.Perm ys ∧ ∀ k ∈ xs.map key, xs.filter (fun x => key x = k) = ys.filter (fun x => key x = k) := by
  constructor
  · intro h
    exact ⟨h.perm, fun k _ => h.sameKey k⟩
  · rintro ⟨hp, h⟩
    refine ⟨hp, fun k => ?_⟩
    by_cases hk : k ∈ xs.map key
    · exact h k hk
    · have hxs : ∀ x ∈ xs, ¬ key x = k := fun x hx e => hk (e ▸ List.mem_map_of_mem hx)
      rw [List.filter_eq_nil_iff.2 (by simpa using hxs), List.filter_eq_nil_iff.2]
      simpa using fun y hy => hxs y (hp.mem_iff.2 hy)

instance [DecidableEq α] (xs ys : List α) : Decidable (KeepsOrder key xs ys) :=
  decidable_of_iff _ iff_keys.symm

theorem of_perm {xs ys : List α} (h : xs.Perm ys) (hinj : ∀ a ∈ xs, ∀ b ∈ xs, key a = key b → a = b) :
    KeepsOrder key xs ys := by
  refine ⟨h, fun k => ?_⟩
  have hp := h.filter fun x => key x = k
  cases hf : xs.filter (fun x => key x = k) with
  | nil =>
    rw [hf] at hp
    exact hp.nil_eq
  | cons a as =>
    -- both sides are `a` over and over
    have ha : a ∈ xs ∧ key a = k := by
      have := hf ▸ List.mem_cons_self (a := a) (l := as)
      simpa using this
    have hall : ∀ b ∈ xs.filter (fun x => key x = k), b = a := by
      intro b hb
      obtain ⟨hb, hk⟩ := List.mem_filter.1 hb
      exact hinj b hb a ha.1 (by simpa [ha.2] using hk)
    rw [← hf, List.eq_replicate_of_mem hall, List.eq_replicate_of_mem fun b hb => hall b (hp.mem_iff.2 hb),
      hp.length_eq]

theorem of_perm_of_nodup {xs ys : List α} (h : xs.Perm ys) (hn : (xs.map key).Nodup) : KeepsOrder key xs ys :=
  of_perm h fun _ ha _ hb hab => List.inj_on_of_nodup_map hn ha hb hab

theorem map {β : Type} {key' : β → κ} {f : α → β} (hf : ∀ x, key' (f x) = key x) {xs ys : List α}
    (h : KeepsOrder key xs ys) : KeepsOrder key' (xs.map f) (ys.map f) := by
  refine ⟨h.perm.map f, fun k => ?_⟩
  have hkey : ((fun b => decide (key' b = k)) ∘ f) = fun a => decide (key a = k) := by
    funext a
    rw [Function.comp_apply, hf]
  rw [List.filter_map, List.filter_map, hkey, h.sameKey]

end KeepsOrder

/-! ## Tables -/

theorem getLast?_forall₂ {α β : Type} {R : α → β → Prop} {xs : List α} {ys : List β} (h : List.Forall₂ R xs ys)
    {a : α} {b : β} (ha : xs.getLast? = some a) (hb : ys.getLast? = some b) : R a b := by
  rw [← List.head?_reverse] at ha hb
  have hr := List.forall₂_reverse_iff.2 h
  generalize xs.reverse = us at ha hr
  generalize ys.reverse = vs at hb hr
  cases hr with
  | nil => cases ha
  | cons hab _ =>
    cases ha
    cases hb
    exact hab

namespace Keyed

variable {α κ : Type} {key : α → κ} [DecidableEq κ]

/-- the row of a table is the last one of its key -/
theorem getLast?_of_mem_ofList {xs : List α} {a : α} (h : a ∈ (ofList xs : Keyed key).rows) :
    (xs.filter fun x => key x = key a).getLast? = some a := by
  have hf := find?_eq_some_iff.2 ⟨h, rfl⟩
  rw [find?_ofList, ← List.head?_filter, List.filter_reverse, List.head?_reverse] at hf
  exact hf

/-- **Tables do not see the order.** Put the rows into another order that keeps the order of the rows of each key, and
then replace them one by one by rows that agree: the tables agree. -/
theorem agrees_ofList {same : α → α → Bool} {xs ys zs : List α} (hk : KeepsOrder key xs ys)
    (h : List.Forall₂ (fun a b => key a = key b ∧ same a b = true) ys zs) :
    (ofList xs : Keyed key).agrees same (ofList zs) = true := by
  refine agrees_iff.2 ⟨?_, fun a ha b hb hab => ?_⟩
  · have hkeys : ys.map key = zs.map key := map_eq_of_forall₂ h fun a b hab => hab.1
    rw [keys_ofList, keys_ofList, ← hkeys]
    exact eraseDups_perm (hk.perm.map key)
  · -- the two rows are the last ones of their key, and the rows of one key agree place by place
    have hfilter : List.Forall₂ (fun a b => key a = key b ∧ same a b = true)
        (ys.filter fun y => key y = key a) (zs.filter fun z => key z = key a) :=
      List.rel_filter (fun y z hyz => by simp [hyz.1]) h
    have hlast := getLast?_of_mem_ofList ha
    rw [hk.sameKey] at hlast
    have hlast' := getLast?_of_mem_ofList hb
    rw [← hab] at hlast'
    exact (getLast?_forall₂ hfilter hlast hlast').2

end Keyed

end EntitySchema
