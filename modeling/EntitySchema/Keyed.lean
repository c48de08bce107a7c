/-
Tables of rows in order of first insertion, where each row carries its own key and no key occurs twice.

A row put under a key that is present takes the place of the old row; any other row goes to the end. Look-up goes by
key. A set of names in order of first mention is the same thing with the name as its own key (`NameSet`).

- `keys_put_of_mem`, `keys_put_of_not_mem`: what inserting does to the keys.
- `find?_insert_self`, `find?_insert_of_ne`: what inserting does to look-up.
-/

namespace EntitySchema

/-- rows in order of first insertion; `key` tells the rows apart

No key is kept beside its row, as no row is ever put in under any other: `Entity.withField` puts a field in under its own
name, `Field.withRule` a rule under its own kind, `Document.build` entities and enumerations under their own names. -/
structure Keyed {α κ : Type} (key : α → κ) where
  rows : List α
  distinct : (rows.map key).Nodup

namespace Keyed

variable {α κ : Type} {key : α → κ}

theorem ext_rows {s t : Keyed key} (h : s.rows = t.rows) : s = t := by
  cases s; cases t; cases h; rfl

instance [DecidableEq α] : DecidableEq (Keyed key) := fun s t =>
  if h : s.rows = t.rows then isTrue (ext_rows h) else isFalse fun e => h (e ▸ rfl)

def empty : Keyed key := ⟨[], List.nodup_nil⟩

/-- the keys in order of first insertion -/
def keys (t : Keyed key) : List κ := t.rows.map key

/-- put `a` in the place of the row with its key, or at the end -/
def put [DecidableEq κ] (key : α → κ) (a : α) : List α → List α
  | [] => [a]
  | b :: bs => if key b = key a then a :: bs else b :: put key a bs

@[simp] theorem rows_empty : (empty : Keyed key).rows = [] := rfl

variable [DecidableEq κ]

theorem keys_put_of_mem (a : α) : ∀ {bs : List α}, key a ∈ bs.map key → (put key a bs).map key = bs.map key
  | b :: bs, h => by
    by_cases e : key b = key a
    · simp [put, e]
    · have h' : key a ∈ bs.map key := (List.mem_cons.mp h).resolve_left (Ne.symm e)
      simp [put, e, keys_put_of_mem a h']

theorem keys_put_of_not_mem (a : α) :
    ∀ {bs : List α}, key a ∉ bs.map key → (put key a bs).map key = bs.map key ++ [key a]
  | [], _ => rfl
  | b :: bs, h => by
    have e : ¬ key b = key a := fun e => h (by simp [e])
    have h' : key a ∉ bs.map key := fun m => h (List.mem_cons_of_mem _ m)
    simp [put, e, keys_put_of_not_mem a h']

theorem nodup_put (a : α) {bs : List α} (h : (bs.map key).Nodup) : ((put key a bs).map key).Nodup := by
  by_cases m : key a ∈ bs.map key
  · rwa [keys_put_of_mem a m]
  · rw [keys_put_of_not_mem a m]
    refine List.nodup_append.mpr ⟨h, by simp, ?_⟩
    intro x hx y hy e
    exact m (by rw [← List.mem_singleton.mp hy, ← e]; exact hx)

/-- the table with `a` added, or put in the place of the row with the same key -/
def insert (t : Keyed key) (a : α) : Keyed key := ⟨put key a t.rows, nodup_put a t.distinct⟩

/-- the table of a list of rows, added from left to right: the last row of a key, in the place of the first -/
def ofList (rows : List α) : Keyed key := rows.foldl insert empty

def find? (t : Keyed key) (k : κ) : Option α := t.rows.find? fun a => key a = k

def contains (t : Keyed key) (k : κ) : Bool := k ∈ t.keys

/-- the two tables hold the same keys, and `same` rows under each; order is ignored -/
def agrees (same : α → α → Bool) (s t : Keyed key) : Bool :=
  s.rows.length == t.rows.length && s.rows.all fun a => (t.find? (key a)).any (same a)

@[simp] theorem rows_insert (t : Keyed key) (a : α) : (t.insert a).rows = put key a t.rows := rfl

@[simp] theorem find?_empty (k : κ) : (empty : Keyed key).find? k = none := rfl

theorem find?_put_self (a : α) : ∀ bs : List α, (put key a bs).find? (fun b => key b = key a) = some a
  | [] => by simp [put]
  | b :: bs => by
    by_cases e : key b = key a
    · simp [put, e]
    · simp [put, e, find?_put_self a bs]

theorem find?_put_of_ne {a : α} {k : κ} (h : key a ≠ k) :
    ∀ bs : List α, (put key a bs).find? (fun b => key b = k) = bs.find? (fun b => key b = k)
  | [] => by simp [put, h]
  | b :: bs => by
    by_cases e : key b = key a
    · have hb : key b ≠ k := e ▸ h
      simp [put, e, h]
    · by_cases hb : key b = k
      · have hk : k ≠ key a := h.symm
        simp [put, hb, hk]
      · simp [put, e, hb, find?_put_of_ne h bs]

@[simp] theorem find?_insert_self (t : Keyed key) (a : α) : (t.insert a).find? (key a) = some a :=
  find?_put_self a t.rows

theorem find?_insert_of_ne (t : Keyed key) {a : α} {k : κ} (h : key a ≠ k) : (t.insert a).find? k = t.find? k :=
  find?_put_of_ne h t.rows

end Keyed

/-- names in order of first mention, none twice -/
abbrev NameSet := Keyed (fun name : String => name)

end EntitySchema
