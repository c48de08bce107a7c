/-
Tables made from lists of rows: which keys they hold, in which order, and what look-up finds in them.

- `filterMap_forall₂`: a step that never gives up goes through a list item by item.
- `keys_ofList`: the keys of the list, each at its first place.
- `find?_ofList_of_last`: under a key stands the last row of the list that has it.
- `rows_ofList`: a list in which no key is repeated is the table as it stands.
- `keys_ofList_append`, `find?_ofList_append`: one list after another adds the new keys at the end and overrides rows.
- `agrees_iff`: two tables agree when their keys are the same in any order, and their rows do key by key;
  `agrees_iff_forall₂`: place by place, where the order is the same.
- `ofList_map`: changing the rows of a list, each under its key, changes the rows of its table.
-/
import EntitySchema.Keyed
import Mathlib.Data.List.Forall2
import Mathlib.Data.List.Induction
import Mathlib.Data.List.Nodup
import Mathlib.Data.List.Perm.Subperm

namespace EntitySchema

/-! ## Lists without repetitions -/

theorem eraseDups_concat {α : Type} [DecidableEq α] (xs : List α) (a : α) :
    (xs ++ [a]).eraseDups = if a ∈ xs then xs.eraseDups else xs.eraseDups ++ [a] := by
  rw [List.eraseDups_append]
  split_ifs with h <;> simp [List.removeAll, h, List.eraseDups_cons]

theorem nodup_eraseDups {α : Type} [DecidableEq α] (xs : List α) : xs.eraseDups.Nodup := by
  induction xs using List.reverseRecOn with
  | nil => simp
  | append_singleton xs a ih =>
    rw [eraseDups_concat]
    split_ifs with h
    · exact ih
    · refine ih.append (List.nodup_singleton a) ?_
      simpa using h

theorem eraseDups_filter {α : Type} [DecidableEq α] (p : α → Bool) (xs : List α) :
    (xs.filter p).eraseDups = xs.eraseDups.filter p := by
  induction xs using List.reverseRecOn with
  | nil => simp
  | append_singleton xs a ih =>
    rw [List.filter_append, List.filter_singleton, eraseDups_concat]
    cases hp : p a
    · split_ifs <;> simp [ih, hp]
    · rw [cond_true, eraseDups_concat, ih]
      by_cases h : a ∈ xs <;> simp [h, hp]

/-- of a list after another, only what is new to it counts -/
theorem eraseDups_append_filter {α : Type} [DecidableEq α] (xs ys : List α) :
    (xs ++ ys).eraseDups = xs.eraseDups ++ ys.eraseDups.filter (fun a => a ∉ xs) := by
  rw [List.eraseDups_append, List.removeAll, eraseDups_filter]
  simp

theorem eraseDups_of_nodup {α : Type} [DecidableEq α] {xs : List α} (h : xs.Nodup) : xs.eraseDups = xs := by
  induction xs using List.reverseRecOn with
  | nil => rfl
  | append_singleton xs a ih =>
    have hnew : a ∉ xs := fun hm => List.disjoint_of_nodup_append h hm (List.mem_singleton_self a)
    rw [eraseDups_concat, if_neg hnew, ih (List.Nodup.of_append_left h)]

theorem eraseDups_perm {α : Type} [DecidableEq α] {xs ys : List α} (h : xs.Perm ys) :
    xs.eraseDups.Perm ys.eraseDups := by
  rw [List.perm_ext_iff_of_nodup (nodup_eraseDups xs) (nodup_eraseDups ys)]
  intro a
  rw [List.mem_eraseDups, List.mem_eraseDups, h.mem_iff]

/-! ## Lists item by item -/

theorem filterMap_forall₂ {α β : Type} {R : α → β → Prop} {f : α → Option β} {xs : List α}
    (h : ∀ x ∈ xs, ∃ y, f x = some y ∧ R x y) : List.Forall₂ R xs (xs.filterMap f) := by
  induction xs with
  | nil => exact .nil
  | cons x xs ih =>
    obtain ⟨y, hy, hR⟩ := h x List.mem_cons_self
    rw [List.filterMap_cons_some hy]
    exact .cons hR (ih fun z hz => h z (List.mem_cons_of_mem x hz))

theorem length_filterMap {α β : Type} {f : α → Option β} {xs : List α} (h : ∀ x ∈ xs, ∃ y, f x = some y) :
    (xs.filterMap f).length = xs.length := by
  have hall : List.Forall₂ (fun x y => f x = some y) xs (xs.filterMap f) :=
    filterMap_forall₂ fun x hx => (h x hx).imp fun _ hy => ⟨hy, hy⟩
  exact hall.length_eq.symm

theorem map_eq_of_forall₂ {α β γ : Type} {R : α → β → Prop} {f : α → γ} {g : β → γ} {xs : List α} {ys : List β}
    (h : List.Forall₂ R xs ys) (hfg : ∀ x y, R x y → f x = g y) : xs.map f = ys.map g := by
  induction h with
  | nil => rfl
  | cons hxy _ ih => rw [List.map_cons, List.map_cons, hfg _ _ hxy, ih]

theorem forall₂_of_map_eq {α β γ : Type} {f : α → γ} {g : β → γ} {xs : List α} {ys : List β}
    (h : xs.map f = ys.map g) : List.Forall₂ (fun x y => f x = g y) xs ys := by
  have hmaps : List.Forall₂ (· = ·) (xs.map f) (ys.map g) := by
    rw [List.forall₂_eq_eq_eq]
    exact h
  exact List.forall₂_map_right_iff.1 (List.forall₂_map_left_iff.1 hmaps)

theorem forall₂_exists_of_mem_right {α β : Type} {R : α → β → Prop} {xs : List α} {ys : List β}
    (h : List.Forall₂ R xs ys) {y : β} (hy : y ∈ ys) : ∃ x ∈ xs, R x y := by
  induction h with
  | nil => cases hy
  | cons hxy _ ih =>
    rcases List.mem_cons.1 hy with rfl | hy
    · exact ⟨_, List.mem_cons_self, hxy⟩
    · obtain ⟨x, hx, hR⟩ := ih hy
      exact ⟨x, List.mem_cons_of_mem _ hx, hR⟩

/-- in lists related item by item, related items are items of the lists -/
theorem forall₂_imp_of_mem {α β : Type} {R S : α → β → Prop} {xs : List α} {ys : List β} (h : List.Forall₂ R xs ys)
    (hRS : ∀ x ∈ xs, ∀ y ∈ ys, R x y → S x y) : List.Forall₂ S xs ys := by
  refine List.forall₂_iff_zip.2 ⟨h.length_eq, fun {x y} hxy => ?_⟩
  obtain ⟨hx, hy⟩ := List.of_mem_zip hxy
  exact hRS x hx y hy ((List.forall₂_iff_zip.1 h).2 hxy)

theorem eq_of_map_eq {α β : Type} {f : α → β} {xs ys : List α} (hf : ∀ x ∈ xs, ∀ y ∈ ys, f x = f y → x = y)
    (h : xs.map f = ys.map f) : xs = ys := by
  have hsame : List.Forall₂ (· = ·) xs ys := forall₂_imp_of_mem (forall₂_of_map_eq h) hf
  rwa [List.forall₂_eq_eq_eq] at hsame

/-- a member of a list is the item at a place, or it stays a member whatever is put there -/
theorem mem_of_replaced {α : Type} {before after : List α} {a x : α} (h : x ∈ before ++ a :: after) :
    x = a ∨ ∀ b, x ∈ before ++ b :: after := by
  rcases List.mem_append.1 h with hbefore | hrest
  · exact .inr fun b => List.mem_append_left _ hbefore
  · rcases List.mem_cons.1 hrest with heq | hafter
    · exact .inl heq
    · exact .inr fun b => List.mem_append_right _ (List.mem_cons_of_mem _ hafter)

/-! ## Lists with keys -/

/-- in a list without repeated keys, look-up finds the one item of the key -/
theorem find?_key_iff {α κ : Type} {key : α → κ} [DecidableEq κ] {xs : List α} (hn : (xs.map key).Nodup)
    {k : κ} {a : α} : xs.find? (fun x => key x = k) = some a ↔ a ∈ xs ∧ key a = k := by
  constructor
  · intro h
    exact ⟨List.mem_of_find?_eq_some h, by simpa using List.find?_some h⟩
  · rintro ⟨ha, rfl⟩
    cases hf : xs.find? (fun x => key x = key a) with
    | none => exact absurd (by simp) (List.find?_eq_none.1 hf a ha)
    | some b =>
      have hb : key b = key a := by simpa using List.find?_some hf
      rw [List.inj_on_of_nodup_map hn (List.mem_of_find?_eq_some hf) ha hb]

/-- `x` stands in the list, and nothing after it has its key -/
def LastOf {α κ : Type} (key : α → κ) (xs : List α) (x : α) : Prop :=
  ∃ before after, xs = before ++ x :: after ∧ ∀ y ∈ after, key y ≠ key x

theorem LastOf.mem {α κ : Type} {key : α → κ} {xs : List α} {x : α} (h : LastOf key xs x) : x ∈ xs := by
  obtain ⟨before, after, rfl, -⟩ := h
  simp

theorem LastOf.unique {α κ : Type} {key : α → κ} {xs : List α} {x y : α} (hx : LastOf key xs x)
    (hy : LastOf key xs y) (hk : key x = key y) : x = y := by
  obtain ⟨before, after, rfl, hafter⟩ := hx
  obtain ⟨before', after', heq, hafter'⟩ := hy
  -- if one stood before the other, it would not be the last of their key
  rcases List.append_eq_append_iff.1 heq with ⟨as, rfl, has⟩ | ⟨as, rfl, has⟩
  · cases as with
    | nil => exact (List.cons.inj has).1
    | cons a as =>
      obtain ⟨rfl, rfl⟩ := List.cons.inj has
      exact absurd hk.symm (hafter y (by simp))
  · cases as with
    | nil => exact (List.cons.inj has).1.symm
    | cons a as =>
      obtain ⟨rfl, rfl⟩ := List.cons.inj has
      exact absurd hk (hafter' x (by simp))

/-- of the items with a key that occurs, one is the last -/
theorem exists_lastOf {α κ : Type} [DecidableEq κ] {key : α → κ} {xs : List α} {k : κ} (h : k ∈ xs.map key) :
    ∃ x, LastOf key xs x ∧ key x = k := by
  induction xs using List.reverseRecOn with
  | nil => cases h
  | append_singleton xs a ih =>
    by_cases hk : key a = k
    · exact ⟨a, ⟨xs, [], rfl, by simp⟩, hk⟩
    · have hxs : k ∈ xs.map key := by
        rw [List.map_append, List.map_singleton, List.mem_append, List.mem_singleton] at h
        exact h.resolve_right fun e => hk e.symm
      obtain ⟨x, ⟨before, after, rfl, hafter⟩, rfl⟩ := ih hxs
      refine ⟨x, ⟨before, after ++ [a], by simp, fun y hy => ?_⟩, rfl⟩
      rcases List.mem_append.1 hy with hy | hy
      · exact hafter y hy
      · rwa [List.mem_singleton.1 hy]

theorem LastOf.map {α β κ : Type} {key : α → κ} {key' : β → κ} {f : α → β} (hf : ∀ x, key' (f x) = key x)
    {xs : List α} {x : α} (h : LastOf key xs x) : LastOf key' (xs.map f) (f x) := by
  obtain ⟨before, after, rfl, hafter⟩ := h
  refine ⟨before.map f, after.map f, by simp, fun y hy => ?_⟩
  obtain ⟨z, hz, rfl⟩ := List.mem_map.1 hy
  rw [hf, hf]
  exact hafter z hz

namespace Keyed

variable {α κ : Type} {key : α → κ} [DecidableEq κ]

/-! ## Look-up and keys -/

theorem find?_eq_some_iff {t : Keyed key} {k : κ} {a : α} : t.find? k = some a ↔ a ∈ t.rows ∧ key a = k :=
  find?_key_iff t.distinct

theorem mem_keys_iff {t : Keyed key} {k : κ} : k ∈ t.keys ↔ ∃ a, t.find? k = some a := by
  simp only [keys, List.mem_map, find?_eq_some_iff]

theorem filterMap_find?_keys (t : Keyed key) : t.keys.filterMap t.find? = t.rows := by
  have hrow : ∀ a ∈ t.rows, t.find? (key a) = some a := fun a ha => find?_eq_some_iff.2 ⟨ha, rfl⟩
  rw [keys, List.filterMap_map]
  calc t.rows.filterMap (t.find? ∘ key) = t.rows.filterMap some := List.filterMap_congr hrow
    _ = t.rows := List.filterMap_some

/-- a table is settled by its keys in order and the rows under them -/
theorem ext_find? {s t : Keyed key} (hk : s.keys = t.keys) (h : ∀ k ∈ s.keys, s.find? k = t.find? k) : s = t := by
  apply ext_rows
  rw [← filterMap_find?_keys s, ← filterMap_find?_keys t, ← hk]
  exact List.filterMap_congr h

/-! ## Tables of lists -/

theorem ofList_concat (xs : List α) (a : α) : (ofList (xs ++ [a]) : Keyed key) = (ofList xs).insert a := by
  simp [ofList, List.foldl_append]

/-- **First places.** The keys of the table are those of the list, each where it first occurs. -/
theorem keys_ofList (xs : List α) : (ofList xs : Keyed key).keys = (xs.map key).eraseDups := by
  induction xs using List.reverseRecOn with
  | nil => rfl
  | append_singleton xs a ih =>
    have hmem : key a ∈ (ofList xs : Keyed key).rows.map key ↔ key a ∈ xs.map key := by
      rw [← List.mem_eraseDups (l := xs.map key), ← ih]; rfl
    rw [ofList_concat, List.map_append, List.map_singleton, eraseDups_concat, ← ih]
    split_ifs with h
    · exact keys_put_of_mem a (hmem.2 h)
    · exact keys_put_of_not_mem a (fun hm => h (hmem.1 hm))

theorem mem_keys_ofList {xs : List α} {k : κ} : k ∈ (ofList xs : Keyed key).keys ↔ k ∈ xs.map key := by
  rw [keys_ofList, List.mem_eraseDups]

/-- **Last rows.** Look-up in the table finds what a search of the list from its end finds. -/
theorem find?_ofList (xs : List α) (k : κ) :
    (ofList xs : Keyed key).find? k = xs.reverse.find? (fun a => key a = k) := by
  induction xs using List.reverseRecOn with
  | nil => rfl
  | append_singleton xs a ih =>
    rw [ofList_concat, List.reverse_append, List.reverse_singleton, List.singleton_append, List.find?_cons]
    by_cases h : key a = k
    · subst h; simp
    · rw [find?_insert_of_ne _ h, ih]; simp [h]

theorem find?_ofList_of_last {xs : List α} {x : α} (h : LastOf key xs x) :
    (ofList xs : Keyed key).find? (key x) = some x := by
  obtain ⟨before, after, rfl, hafter⟩ := h
  have hnone : after.reverse.find? (fun a => key a = key x) = none := by
    rw [List.find?_eq_none]
    intro y hy
    simpa using hafter y (List.mem_reverse.1 hy)
  rw [find?_ofList, List.reverse_append, List.reverse_cons, List.append_assoc, List.find?_append, hnone]
  simp

theorem put_of_not_mem {a : α} {xs : List α} (h : key a ∉ xs.map key) : put key a xs = xs ++ [a] := by
  induction xs with
  | nil => rfl
  | cons b bs ih =>
    have hb : ¬ key b = key a := fun e => h (by simp [e])
    rw [put, if_neg hb, ih fun hm => h (List.mem_cons_of_mem _ hm)]
    rfl

theorem rows_ofList {xs : List α} (h : (xs.map key).Nodup) : (ofList xs : Keyed key).rows = xs := by
  induction xs using List.reverseRecOn with
  | nil => rfl
  | append_singleton xs a ih =>
    rw [List.map_append, List.map_singleton] at h
    have hnew : key a ∉ xs.map key := fun hm => List.disjoint_of_nodup_append h hm (by simp)
    rw [ofList_concat, rows_insert, ih (List.Nodup.of_append_left h), put_of_not_mem hnew]

theorem keys_ofList_append (xs ys : List α) :
    (ofList (xs ++ ys) : Keyed key).keys =
      (ofList xs : Keyed key).keys ++
        (ofList ys : Keyed key).keys.filter (fun k => k ∉ (ofList xs : Keyed key).keys) := by
  simp only [keys_ofList, List.map_append, List.mem_eraseDups]
  exact eraseDups_append_filter _ _

theorem find?_ofList_append (xs ys : List α) (k : κ) :
    (ofList (xs ++ ys) : Keyed key).find? k =
      ((ofList ys : Keyed key).find? k).or ((ofList xs : Keyed key).find? k) := by
  rw [find?_ofList, find?_ofList, find?_ofList, List.reverse_append, List.find?_append]

/-! ## Agreement -/

/-- **Agreement key by key.** -/
theorem agrees_iff {same : α → α → Bool} {s t : Keyed key} :
    s.agrees same t = true ↔
      s.keys.Perm t.keys ∧ ∀ a ∈ s.rows, ∀ b ∈ t.rows, key a = key b → same a b = true := by
  have hlen : (s.rows.length = t.rows.length) = (s.keys.length = t.keys.length) := by simp [keys]
  simp only [agrees, Bool.and_eq_true, beq_iff_eq, List.all_eq_true, Option.any_eq_true]
  rw [hlen]
  constructor
  · rintro ⟨hn, h⟩
    refine ⟨?_, fun a ha b hb hab => ?_⟩
    · have hsub : s.keys ⊆ t.keys := by
        intro k hk
        obtain ⟨a, ha, rfl⟩ := List.mem_map.1 hk
        obtain ⟨b, hb, -⟩ := h a ha
        exact mem_keys_iff.2 ⟨b, hb⟩
      exact (List.subperm_of_subset s.distinct hsub).perm_of_length_le (Nat.le_of_eq hn.symm)
    · obtain ⟨c, hc, hs⟩ := h a ha
      obtain ⟨hct, hck⟩ := find?_eq_some_iff.1 hc
      rwa [← List.inj_on_of_nodup_map t.distinct hct hb (hck.trans hab)]
  · rintro ⟨hp, h⟩
    refine ⟨hp.length_eq, fun a ha => ?_⟩
    obtain ⟨b, hb⟩ := mem_keys_iff.1 (hp.mem_iff.1 (List.mem_map_of_mem ha))
    obtain ⟨hbt, hbk⟩ := find?_eq_some_iff.1 hb
    exact ⟨b, hb, h a ha b hbt hbk.symm⟩

/-- tables with the same keys in the same order agree place by place -/
theorem agrees_iff_forall₂ {same : α → α → Bool} {s t : Keyed key} (hk : s.keys = t.keys) :
    s.agrees same t = true ↔ List.Forall₂ (fun a b => same a b = true) s.rows t.rows := by
  have hkeys : List.Forall₂ (fun a b => key a = key b) s.rows t.rows := forall₂_of_map_eq hk
  rw [agrees_iff]
  constructor
  · rintro ⟨-, h⟩
    exact forall₂_imp_of_mem hkeys h
  · intro h
    refine ⟨hk ▸ .refl _, fun a ha b hb hab => ?_⟩
    have hboth : List.Forall₂ (fun a b => key a = key b ∧ same a b = true) s.rows t.rows :=
      hkeys.mp (fun _ _ hkey hsame => ⟨hkey, hsame⟩) h
    obtain ⟨c, hc, hac, hsame⟩ := forall₂_exists_of_mem_right hboth.flip ha
    rwa [← List.inj_on_of_nodup_map t.distinct hc hb (hac.symm.trans hab)]

/-! ## Tables with other rows -/

/-- the table with every row changed, each under the same key -/
def mapRows (f : α → α) (hf : ∀ a, key (f a) = key a) (t : Keyed key) : Keyed key where
  rows := t.rows.map f
  distinct := by
    rw [List.map_map, show key ∘ f = key from funext hf]
    exact t.distinct

variable {f : α → α} {hf : ∀ a, key (f a) = key a}

omit [DecidableEq κ] in
theorem keys_mapRows (t : Keyed key) : (t.mapRows f hf).keys = t.keys := by
  simp only [keys, mapRows, List.map_map]
  exact List.map_congr_left fun a _ => hf a

theorem put_map (hf : ∀ a, key (f a) = key a) (a : α) (bs : List α) :
    put key (f a) (bs.map f) = (put key a bs).map f := by
  induction bs with
  | nil => rfl
  | cons b bs ih =>
    simp only [List.map_cons, put, hf]
    split_ifs
    · rfl
    · rw [ih, List.map_cons]

theorem ofList_map (hf : ∀ a, key (f a) = key a) (xs : List α) :
    (ofList (xs.map f) : Keyed key) = (ofList xs).mapRows f hf := by
  induction xs using List.reverseRecOn with
  | nil => rfl
  | append_singleton xs a ih =>
    rw [List.map_append, List.map_singleton, ofList_concat, ofList_concat, ih]
    exact ext_rows (put_map hf a _)

/-- a table agrees with what it is changed into where every row does -/
theorem agrees_mapRows {same : α → α → Bool} {t : Keyed key} :
    t.agrees same (t.mapRows f hf) = true ↔ ∀ a ∈ t.rows, same a (f a) = true := by
  rw [agrees_iff_forall₂ (keys_mapRows t).symm, mapRows, List.forall₂_map_right_iff, List.forall₂_same]

theorem agrees_self {same : α → α → Bool} {t : Keyed key} :
    t.agrees same t = true ↔ ∀ a ∈ t.rows, same a a = true := by
  rw [agrees_iff_forall₂ rfl, List.forall₂_same]

end Keyed

theorem NameSet.ext_keys {s t : NameSet} (h : s.keys = t.keys) : s = t := by
  apply Keyed.ext_rows
  simpa [Keyed.keys] using h

end EntitySchema
