/-
Agreement of models, which passes over the order of their tables. Everything agrees with itself, and a table agrees with
any other that holds the same rows.

- `Keyed.agrees_of_perm`: the same rows in another order.
- `agreeInOrder_iff`: agreement in order is agreement item by item.
- `Model.agrees_self`: a model agrees with itself.
-/
import EntitySchema.Model.Agreement
import EntitySchema.Proofs.Tables

namespace EntitySchema

/-! ## Tables and lists -/

/-- **The same rows.** Tables that hold the same rows in any order agree where a row agrees with itself. -/
theorem Keyed.agrees_of_perm {α κ : Type} {key : α → κ} [DecidableEq κ] {same : α → α → Bool} {s t : Keyed key}
    (h : s.rows.Perm t.rows) (hsame : ∀ a ∈ s.rows, same a a = true) : s.agrees same t = true := by
  apply agrees_iff.2
  refine ⟨h.map key, ?_⟩
  intro a ha b hb hab
  have hbs : b ∈ s.rows := h.mem_iff.2 hb
  have heq : a = b := List.inj_on_of_nodup_map s.distinct ha hbs hab
  rw [← heq]
  exact hsame a ha

theorem agreeInOrder_iff {α : Type} {same : α → α → Bool} {xs ys : List α} :
    agreeInOrder same xs ys = true ↔ List.Forall₂ (fun a b => same a b = true) xs ys := by
  induction xs generalizing ys with
  | nil => cases ys <;> simp [agreeInOrder]
  | cons x xs ih => cases ys <;> simp [agreeInOrder, ih]

/-! ## Parts of models -/

theorem Field.agrees_self (f : Field) : f.agrees f = true := by
  have hrules : f.rules.agrees (fun r s => r == s) f.rules = true := Keyed.agrees_self.2 fun r _ => beq_self_eq_true r
  simp [Field.agrees, hrules]

theorem Entity.agrees_self (e : Entity) : e.agrees e = true := by
  have hfields : e.fields.agrees Field.agrees e.fields = true := Keyed.agrees_self.2 fun f _ => f.agrees_self
  simp [Entity.agrees, hfields]

theorem NameSet.agrees_self (s : NameSet) : s.agrees s = true :=
  Keyed.agrees_self.2 fun n _ => beq_self_eq_true n

theorem Directive.agrees_self (x : Directive) : x.agrees x = true := by
  simp [Directive.agrees, NameSet.agrees_self]

theorem Model.agrees_self (m : Model) : m.agrees m = true := by
  have hentities : m.entities.agrees Entity.agrees m.entities = true := Keyed.agrees_self.2 fun e _ => e.agrees_self
  have henumerations : m.enumerations.agrees (fun a b => a == b) m.enumerations = true :=
    Keyed.agrees_self.2 fun e _ => beq_self_eq_true e
  have hdirectives : agreeInOrder Directive.agrees m.directives m.directives = true :=
    agreeInOrder_iff.2 (List.forall₂_same.2 fun x _ => x.agrees_self)
  simp [Model.agrees, hentities, henumerations, hdirectives]

end EntitySchema
