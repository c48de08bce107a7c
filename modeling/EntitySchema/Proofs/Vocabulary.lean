/-
Names of the vocabulary. No two words of a table share a name, so looking a name up gives the one word that has it.

- `Constraint.ofName?_iff`, `Topic.ofName?_iff`, `Storage.ofName?_iff`: the word with this name, for whole vocabularies.
- `Storage.builtin?_iff`: the same for the builtin types of one storage.
- `injective_of_lookUp`, `lookUp_eq_none`: so names differ, and nothing is found only under names that no word has.
-/
import EntitySchema.Proofs.Tables
import EntitySchema.Vocabulary.Directive
import EntitySchema.Vocabulary.Storage

namespace EntitySchema

theorem Constraint.mem_all (k : Constraint) : k ∈ Constraint.all := by
  cases k <;> decide

theorem Constraint.ofName?_iff {s : String} {k : Constraint} : Constraint.ofName? s = some k ↔ k.name = s :=
  (find?_key_iff (by decide)).trans (and_iff_right k.mem_all)

theorem Flag.ofName?_iff {s : String} {f : Flag} : Flag.ofName? s = some f ↔ f.name = s :=
  (find?_key_iff (by decide)).trans (and_iff_right (by cases f <;> decide))

theorem Setting.ofName?_iff {s : String} {o : Setting} : Setting.ofName? s = some o ↔ o.name = s :=
  (find?_key_iff (by decide)).trans (and_iff_right (by cases o <;> decide))

theorem Flag.name_ne_setting (f : Flag) (o : Setting) : f.name ≠ o.name := by
  cases f <;> cases o <;> decide

/-- a name belongs to a flag or to a setting, never to both -/
theorem Topic.ofName?_iff {s : String} {topic : Topic} : Topic.ofName? s = some topic ↔ topic.name = s := by
  cases topic with
  | flag f =>
    rw [Topic.ofName?, Topic.name, ← Flag.ofName?_iff]
    cases Flag.ofName? s <;> simp
  | setting o =>
    rw [Topic.ofName?, Topic.name, ← Setting.ofName?_iff]
    cases hf : Flag.ofName? s with
    | none => simp
    | some f =>
      have hs := Flag.ofName?_iff.1 hf
      have ho : Setting.ofName? s ≠ some o := fun h => f.name_ne_setting o (hs.trans (Setting.ofName?_iff.1 h).symm)
      simp [ho]

theorem Storage.ofName?_iff {s : String} {t : Storage} : Storage.ofName? s = some t ↔ t.name = s :=
  (find?_key_iff (by decide)).trans (and_iff_right (by cases t <;> decide))

theorem Builtin.ofName?_iff {s : String} {b : Builtin} : Builtin.ofName? s = some b ↔ b.name = s :=
  (find?_key_iff (by decide)).trans (and_iff_right (by cases b <;> decide))

theorem Storage.builtin?_iff {t : Storage} {s : String} {b : Builtin} :
    t.builtin? s = some b ↔ b ∈ t.types ∧ b.name = s :=
  find?_key_iff (by cases t <;> decide)

/-! ## Look-up that finds the word of a name -/

section LookUp

variable {α : Type} {lookUp : String → Option α} {name : α → String}

theorem injective_of_lookUp (h : ∀ {s a}, lookUp s = some a ↔ name a = s) : Function.Injective name := by
  intro a b hab
  have hb : lookUp (name a) = some b := h.2 hab.symm
  rw [h.2 rfl] at hb
  exact Option.some.inj hb

theorem lookUp_eq_none (h : ∀ {s a}, lookUp s = some a ↔ name a = s) {s : String} :
    lookUp s = none ↔ ∀ a, name a ≠ s := by
  simp only [Option.eq_none_iff_forall_ne_some, ne_eq, h]

end LookUp

theorem Constraint.name_injective : Function.Injective Constraint.name :=
  injective_of_lookUp Constraint.ofName?_iff

theorem Constraint.ofName?_eq_none {s : String} : Constraint.ofName? s = none ↔ ∀ k : Constraint, k.name ≠ s :=
  lookUp_eq_none Constraint.ofName?_iff

theorem Topic.name_injective : Function.Injective Topic.name :=
  injective_of_lookUp Topic.ofName?_iff

theorem Topic.ofName?_eq_none {s : String} : Topic.ofName? s = none ↔ ∀ topic : Topic, topic.name ≠ s :=
  lookUp_eq_none Topic.ofName?_iff

theorem Storage.name_injective : Function.Injective Storage.name :=
  injective_of_lookUp Storage.ofName?_iff

theorem Storage.ofName?_eq_none {s : String} : Storage.ofName? s = none ↔ ∀ t : Storage, t.name ≠ s :=
  lookUp_eq_none Storage.ofName?_iff

theorem Builtin.name_injective : Function.Injective Builtin.name :=
  injective_of_lookUp Builtin.ofName?_iff

end EntitySchema
