/-
Codecs that read what they write.

A value is read back at some number of levels: what is written of it holds no binary number, and its tree is read as the
value where so many lists and objects may still be opened inside one another. Each way of making a codec out of others
keeps this. Lists and records take one level, everything else none.

- `readsBack_optional`: none is told apart from a value as long as no value is written as `null`.
- `readsBack_record`: a record is read back if its members are and no two of them share a name.
- `ReadsBack.ofText`: what is read back within the limit of depth is read back from its text.
-/
import EntitySchema.Json.Record
import EntitySchema.Proofs.Json.Parsing

namespace EntitySchema.Json

variable {α β : Type} {αs : List Type} {levels : Nat}

namespace Codec

/-- what is written of the value is read as this value, where `levels` lists and objects may still be opened -/
structure ReadsBack (c : Codec α) (levels : Nat) (a : α) : Prop where
  withoutReals : (c.write a).WithoutReals
  read : c.read levels (c.write a).tree = .ok a

/-- a value that is read back within the limit of depth is read back from its text -/
theorem ReadsBack.ofText {c : Codec α} {a : α} (h : c.ReadsBack depthLimit a) : c.ofText (c.render a) = .ok a := by
  simp [Codec.ofText, ofParsed, render, parse_render h.withoutReals, h.read, Except.bind]

/-! ## Scalars, options, lists -/

theorem readsBack_text (s : String) : text.ReadsBack levels s where
  withoutReals := .scalar fun x => by simp
  read := rfl

theorem readsBack_bool (b : Bool) : bool.ReadsBack levels b where
  withoutReals := .scalar fun x => by simp
  read := rfl

/-- only absence has the tree of absence -/
theorem eq_null_of_tree {v : Value} {loose : Option Fault} (h : v.tree = .plain ⟨.ok .null, loose⟩) : v = .null := by
  cases v with
  | scalar s => cases s <;> simp_all [Value.tree, Scalar.tree]
  | list items => simp [Value.tree] at h
  | object members => simp [Value.tree] at h

theorem readsBack_optional {c : Codec α} {a : Option α} (h : ∀ x ∈ a, c.ReadsBack levels x)
    (present : ∀ x ∈ a, c.write x ≠ .null) : (optional c).ReadsBack levels a := by
  cases a with
  | none => exact ⟨.scalar fun x => by simp, rfl⟩
  | some x =>
    have hx := h x rfl
    refine ⟨hx.withoutReals, ?_⟩
    simp only [optional]
    split
    · rename_i tree
      exact absurd (eq_null_of_tree tree) (present x rfl)
    · rw [hx.read]
      rfl

theorem readsBack_optional_text (s : Option String) : (optional text).ReadsBack levels s :=
  readsBack_optional (fun x _ => readsBack_text x) fun x _ => by simp [text]

theorem readItems_write {c : Codec α} {as : List α} (h : ∀ a ∈ as, c.ReadsBack levels a) :
    readItems (c.read levels) (itemTrees (as.map c.write)) = .ok as := by
  induction as with
  | nil => rfl
  | cons a as ih =>
    rw [List.map_cons, itemTrees, readItems, (h a (by simp)).read, ih fun b hb => h b (by simp [hb])]
    rfl

/-- a list is read back, one level deeper, if its items are -/
theorem readsBack_list {c : Codec α} {as : List α} (h : ∀ a ∈ as, c.ReadsBack levels a) :
    (list c).ReadsBack (levels + 1) as where
  withoutReals := by
    refine .list fun v hv => ?_
    obtain ⟨a, ha, rfl⟩ := List.mem_map.mp hv
    exact (h a ha).withoutReals
  read := by
    simp [list, Value.tree, deeper, readItems_write h, ListEnd.fault?, refuse, Except.bind, Except.map]

/-- a codec under another type reads back what it writes if the values are the same there and back -/
theorem ReadsBack.imap {c : Codec α} {forth : α → β} {back : β → α} {b : β} (h : c.ReadsBack levels (back b))
    (same : forth (back b) = b) : (c.imap forth back).ReadsBack levels b where
  withoutReals := h.withoutReals
  read := by simp [Codec.imap, h.read, Except.map, same]

end Codec

/-! ## Records -/

/-- the draft with every value read -/
def Row.draft : {αs : List Type} → Row αs → Draft αs
  | [], _ => ()
  | _ :: _, (a, row) => (some a, draft row)

namespace Members

def names : {αs : List Type} → Members αs → List String
  | _, nil => []
  | _, cons m ms => m.name :: ms.names

/-- every member of the row is read back -/
def ReadsBack (levels : Nat) : {αs : List Type} → Members αs → Row αs → Prop
  | _, nil, _ => True
  | _, cons m ms, (a, row) => m.codec.ReadsBack levels a ∧ ms.ReadsBack levels row

theorem ReadsBack.nil : Members.nil.ReadsBack levels () := trivial

theorem ReadsBack.cons {m : Member α} {ms : Members αs} {a : α} {row : Row αs} (ha : m.codec.ReadsBack levels a)
    (hrow : ms.ReadsBack levels row) : (Members.cons m ms).ReadsBack levels (a, row) := ⟨ha, hrow⟩

theorem keys_write (ms : Members αs) (row : Row αs) : (ms.write row).map Prod.fst = ms.names := by
  induction ms with
  | nil => rfl
  | cons m ms ih =>
    obtain ⟨a, row⟩ := row
    simp [write, names, ih]

/-- members with other names leave the first member as it is -/
theorem fill_cons (m : Member α) (ms : Members αs) (slot : Option α) {written : List (String × Value)}
    (others : m.name ∉ written.map Prod.fst) (draft : Draft αs) :
    (cons m ms).fill levels (slot, draft) (memberTrees written) =
      (ms.fill levels draft (memberTrees written)).map fun d => (slot, d) := by
  induction written generalizing draft with
  | nil => rfl
  | cons e written ih =>
    obtain ⟨k, v⟩ := e
    simp only [List.map_cons, List.mem_cons, not_or] at others
    simp only [memberTrees, fill, put?, others.1, if_false, Except.bind]
    cases ms.put? levels k v.tree draft with
    | none =>
      cases v.tree.skip with
      | error f => rfl
      | ok u => exact ih others.2 draft
    | some r =>
      cases r with
      | error f => rfl
      | ok d => exact ih others.2 d

/-- the members of a row fill a blank draft -/
theorem fill_write {ms : Members αs} (distinct : ms.names.Nodup) {row : Row αs} (h : ms.ReadsBack levels row) :
    ms.fill levels ms.blank (memberTrees (ms.write row)) = .ok row.draft := by
  induction ms with
  | nil => rfl
  | cons m ms ih =>
    obtain ⟨a, row⟩ := row
    obtain ⟨ha, hrow⟩ := h
    obtain ⟨fresh, distinct⟩ := List.nodup_cons.mp distinct
    rw [← keys_write ms row] at fresh
    have first : (cons m ms).put? levels m.name (m.codec.write a).tree (cons m ms).blank =
        some (.ok (some a, ms.blank)) := by
      simp [put?, blank, ha.read, Except.map]
    simp only [write, memberTrees, fill, first, Except.bind]
    rw [fill_cons m ms (some a) fresh, ih distinct hrow]
    rfl

theorem complete_draft (ms : Members αs) (row : Row αs) : ms.complete row.draft = .ok row := by
  induction ms with
  | nil => rfl
  | cons m ms ih =>
    obtain ⟨a, row⟩ := row
    simp [complete, Row.draft, ih, Except.map]

theorem ReadsBack.withoutReals {ms : Members αs} {row : Row αs} (h : ms.ReadsBack levels row) :
    ∀ e ∈ ms.write row, e.2.WithoutReals := by
  induction ms with
  | nil => simp [write]
  | cons m ms ih =>
    obtain ⟨a, row⟩ := row
    intro e he
    rcases List.mem_cons.mp he with rfl | he
    · exact h.1.withoutReals
    · exact ih h.2 e he

end Members

/-- a record is read back, one level deeper, if its members are and their names differ -/
theorem Codec.readsBack_record {ms : Members αs} {row : Row αs} (h : ms.ReadsBack levels row)
    (distinct : ms.names.Nodup) (title : String) : (ms.codec title).ReadsBack (levels + 1) row where
  withoutReals := .object h.withoutReals
  read := by
    simp [Members.codec, Value.tree, deeper, Members.fill_write distinct h, ObjectEnd.fault?, refuse, Except.bind,
      Members.complete_draft]

end EntitySchema.Json
