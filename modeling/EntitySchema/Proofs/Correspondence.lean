/-
Two documents whose declarations correspond one to one. Where a check makes no difference between a declaration and the
one that corresponds to it, it makes none between the documents: both pass, or both are refused with the same problem.

- `Outcome.eachAfter_congr`: lists that correspond item by item.
- `Document.check_congr`: documents that correspond declaration by declaration.
- `compile_eq_bind`: compiling is choosing a technology, checking and building, one after the other.
-/
import EntitySchema.Compilation
import EntitySchema.Proofs.Tables

namespace EntitySchema

open Outcome

/-! ## Checks of lists -/

section Lists

variable {ε α β : Type} {R : α → β → Prop}

theorem Outcome.eachAfter_congr {check : List α → α → Except ε Unit} {check' : List β → β → Except ε Unit}
    (hcheck : ∀ earlier earlier' x y, List.Forall₂ R earlier earlier' → R x y → check earlier x = check' earlier' y)
    {earlier xs : List α} {earlier' ys : List β} (hearlier : List.Forall₂ R earlier earlier')
    (h : List.Forall₂ R xs ys) : eachAfter check earlier xs = eachAfter check' earlier' ys := by
  induction h generalizing earlier earlier' with
  | nil => rfl
  | @cons x y xs ys hxy _ ih =>
    have hgrown : List.Forall₂ R (earlier ++ [x]) (earlier' ++ [y]) := List.rel_append hearlier (.cons hxy .nil)
    rw [eachAfter, eachAfter, hcheck _ _ _ _ hearlier hxy, ih hgrown]

theorem Outcome.each_congr {check : α → Except ε Unit} {check' : β → Except ε Unit}
    (hcheck : ∀ x y, R x y → check x = check' y) {xs : List α} {ys : List β} (h : List.Forall₂ R xs ys) :
    each check xs = each check' ys :=
  eachAfter_congr (fun _ _ x y _ hxy => hcheck x y hxy) .nil h

end Lists

/-! ## Checks of documents -/

theorem Document.names_congr {d e : Document} (hentities : d.entityNames = e.entityNames)
    (henumerations : d.enumerations = e.enumerations) : d.names = e.names := by
  rw [names, names, hentities, enumerationNames, enumerationNames, henumerations]

/-- **Declarations that are checked alike.** Entities of the same names and relationships that pass the same checks make
no difference to the check of a document. -/
theorem Document.check_congr {t : Storage} {d e : Document}
    (hentities : List.Forall₂ (fun a b => a.name = b.name ∧ ∀ names, checkEntity t names a = checkEntity t names b)
      d.entities e.entities)
    (henumerations : d.enumerations = e.enumerations)
    (hrelationships : List.Forall₂ (fun r s => ∀ names, checkRelationship names r = checkRelationship names s)
      d.relationships e.relationships)
    (hdirectives : d.directives = e.directives) : d.check t = e.check t := by
  have hentityNames : d.entityNames = e.entityNames := map_eq_of_forall₂ hentities fun _ _ hab => hab.1
  have hnames : d.names = e.names := names_congr hentityNames henumerations
  have hcheckNames : d.checkNames = e.checkNames := by
    have hentity : each checkEntityName d.entities = each checkEntityName e.entities := by
      apply each_congr _ hentities
      intro a b hab
      rw [checkEntityName, checkEntityName, hab.1]
    rw [checkNames, checkNames, hentity, henumerations]
  have hcheckUses : ∀ names, d.checkUses t names = e.checkUses t names := by
    intro names
    have hentity : each (checkEntity t names) d.entities = each (checkEntity t names) e.entities :=
      each_congr (fun _ _ hab => hab.2 names) hentities
    have hrelationship : each (checkRelationship names) d.relationships = each (checkRelationship names) e.relationships :=
      each_congr (fun _ _ hrs => hrs names) hrelationships
    rw [checkUses, checkUses, hentity, hrelationship, hdirectives]
  rw [check, check, hcheckNames, hnames, hcheckUses]

/-! ## Compiling -/

theorem Compilation.map_build_validate (c : Compilation) :
    c.validate.map Validated.build = (c.document.check c.storage).map fun _ => c.document.build c.storage := by
  unfold Compilation.validate
  split
  · rename_i names h
    obtain ⟨u, hcheck, -⟩ := map_eq_ok.1 h
    rw [hcheck]
    rfl
  · rename_i p h
    have hcheck : c.document.check c.storage = .error p := map_eq_error.1 h
    rw [hcheck]
    rfl

/-- with a document and a name of a technology, compiling is choosing, checking and building -/
theorem compile_eq_bind (d : Document) (name : String) :
    compile (some d) (some name) = (Storage.select name).bind fun t => (d.check t).map fun _ => d.build t := by
  simp only [compile, Compilation.withStorageName]
  cases Storage.select name with
  | error p => rfl
  | ok t => exact Compilation.map_build_validate ⟨d, t⟩

end EntitySchema
