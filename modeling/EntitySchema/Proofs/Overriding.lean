/-
Declarations that a later one of the same name replaces. They have to satisfy the rules like any other, and that is all:
once a document is accepted, they may be taken out of it. It stays accepted, and its model says the same. Only the order
of the tables may change, since the place of a name is that of its first declaration.

- `lastOfEach`: a list without the items that a later one of the same key replaces.
- `mem_lastOfEach`: what is left of it; `Keyed.rows_ofList_perm`: these are the rows of the table of the list.
- `Document.inForce`: a document without the declarations that are replaced.
- `Document.WellFormed.inForce`: it is well formed when the document is.
- `Document.agrees_build_inForce`: the two models agree.
- `compile_inForce`: so replaced declarations leave no trace in a model.
-/
import EntitySchema.Proofs.Agreement
import EntitySchema.Proofs.Reordering

namespace EntitySchema

/-! ## The last item of each key -/

section LastOfEach

variable {α κ : Type} [DecidableEq κ] {key : α → κ}

/-- the list without the items that a later one of the same key replaces -/
def lastOfEach (key : α → κ) : List α → List α
  | [] => []
  | x :: xs => if key x ∈ xs.map key then lastOfEach key xs else x :: lastOfEach key xs

theorem lastOfEach_sublist (xs : List α) : (lastOfEach key xs).Sublist xs := by
  induction xs with
  | nil => exact List.Sublist.refl _
  | cons x xs ih =>
    rw [lastOfEach]
    split_ifs
    · exact ih.cons x
    · exact ih.cons_cons x

omit [DecidableEq κ] in
theorem lastOf_cons {x y : α} {xs : List α} :
    LastOf key (x :: xs) y ↔ (key x ∉ xs.map key ∧ y = x) ∨ LastOf key xs y := by
  constructor
  · rintro ⟨before, after, h, hafter⟩
    cases before with
    | nil =>
      obtain ⟨rfl, rfl⟩ := List.cons.inj h
      left
      refine ⟨?_, rfl⟩
      intro hm
      obtain ⟨z, hz, hzx⟩ := List.mem_map.1 hm
      exact hafter z hz hzx
    | cons b before =>
      obtain ⟨rfl, rfl⟩ := List.cons.inj h
      exact Or.inr ⟨before, after, rfl, hafter⟩
  · rintro (⟨hx, rfl⟩ | ⟨before, after, rfl, hafter⟩)
    · refine ⟨[], xs, rfl, ?_⟩
      intro z hz hzx
      exact hx (hzx ▸ List.mem_map_of_mem hz)
    · exact ⟨x :: before, after, rfl, hafter⟩

/-- what is left is the last of its key -/
theorem mem_lastOfEach {x : α} {xs : List α} : x ∈ lastOfEach key xs ↔ LastOf key xs x := by
  induction xs with
  | nil => simp [lastOfEach, LastOf]
  | cons y xs ih =>
    rw [lastOf_cons, ← ih, lastOfEach]
    by_cases hy : key y ∈ xs.map key <;> simp [hy]

/-- every key that occurs is left -/
theorem mem_keys_lastOfEach {xs : List α} {k : κ} : k ∈ (lastOfEach key xs).map key ↔ k ∈ xs.map key := by
  constructor
  · intro hk
    exact ((lastOfEach_sublist xs).map key).subset hk
  · intro hk
    obtain ⟨x, hx, rfl⟩ := exists_lastOf hk
    exact List.mem_map_of_mem (mem_lastOfEach.2 hx)

theorem nodup_lastOfEach (xs : List α) : ((lastOfEach key xs).map key).Nodup := by
  induction xs with
  | nil => exact List.nodup_nil
  | cons x xs ih =>
    rw [lastOfEach]
    split_ifs with hx
    · exact ih
    · rw [List.map_cons, List.nodup_cons, mem_keys_lastOfEach]
      exact ⟨hx, ih⟩

theorem lastOfEach_map {β : Type} {key' : β → κ} {f : α → β} (hf : ∀ x, key' (f x) = key x) (xs : List α) :
    lastOfEach key' (xs.map f) = (lastOfEach key xs).map f := by
  induction xs with
  | nil => rfl
  | cons x xs ih =>
    have hkeys : (xs.map f).map key' = xs.map key := by
      rw [List.map_map]
      exact List.map_congr_left fun y _ => hf y
    simp only [List.map_cons, lastOfEach, hf, hkeys, ih]
    split_ifs <;> rfl

/-! ## Tables -/

/-- the rows of a table are the last ones of each key in its list -/
theorem Keyed.mem_rows_ofList {a : α} {xs : List α} : a ∈ (ofList xs : Keyed key).rows ↔ LastOf key xs a := by
  constructor
  · intro ha
    have hk : key a ∈ xs.map key := mem_keys_ofList.1 (List.mem_map_of_mem ha)
    obtain ⟨b, hb, hba⟩ := exists_lastOf hk
    have hfound := find?_ofList_of_last hb
    rw [hba, find?_eq_some_iff.2 ⟨ha, rfl⟩] at hfound
    rwa [Option.some.inj hfound]
  · intro ha
    exact (find?_eq_some_iff.1 (find?_ofList_of_last ha)).1

/-- **Replaced rows leave a table as it is.** Without the items that a later one replaces, a list makes a table of the
same rows. -/
theorem Keyed.rows_ofList_perm (xs : List α) :
    (ofList (lastOfEach key xs) : Keyed key).rows.Perm (ofList xs : Keyed key).rows := by
  rw [rows_ofList (nodup_lastOfEach xs)]
  have hleft : (lastOfEach key xs).Nodup := List.Nodup.of_map key (nodup_lastOfEach xs)
  have hright : (ofList xs : Keyed key).rows.Nodup := List.Nodup.of_map key (ofList xs : Keyed key).distinct
  apply (List.perm_ext_iff_of_nodup hleft hright).2
  intro a
  rw [mem_lastOfEach, mem_rows_ofList]

end LastOfEach

/-! ## Documents -/

/-- the document without the entities and enumerations that a later declaration of the same name replaces -/
def Document.inForce (d : Document) : Document :=
  { d with
    entities := lastOfEach EntityDecl.name d.entities
    enumerations := lastOfEach EnumDecl.name d.enumerations }

variable {t : Storage} {d : Document}

theorem Document.mem_entityNames_inForce {n : String} : n ∈ d.inForce.entityNames ↔ n ∈ d.entityNames :=
  mem_keys_lastOfEach

theorem Document.mem_enumerationNames_inForce {n : String} :
    n ∈ d.inForce.enumerationNames ↔ n ∈ d.enumerationNames :=
  mem_keys_lastOfEach

/-- no rule is broken by taking out what is replaced, since every name stays declared -/
theorem Document.WellFormed.inForce (h : d.WellFormed t) : d.inForce.WellFormed t := by
  have hentityNames : d.entityNames ⊆ d.inForce.entityNames := fun _ hn => mem_entityNames_inForce.2 hn
  have henumerationNames : d.enumerationNames ⊆ d.inForce.enumerationNames :=
    fun _ hn => mem_enumerationNames_inForce.2 hn
  refine ⟨?_, ?_, ?_, ?_⟩
  · intro e he
    have hdeclared : e ∈ d.entities := (lastOfEach_sublist d.entities).subset he
    exact (h.entities e hdeclared).mono henumerationNames
  · intro e he
    exact h.enumerations e ((lastOfEach_sublist d.enumerations).subset he)
  · intro r hr
    exact (h.relationships r hr).mono hentityNames
  · intro x hx
    exact (h.directives x hx).mono hentityNames

/-! ## Models -/

theorem Document.entities_build_inForce (h : d.WellFormed t) :
    (d.inForce.build t).entities.rows.Perm (d.build t).entities.rows := by
  -- an entity that is left is built as before, since the same enumerations are declared
  have hsame : d.inForce.entities.map (Entity.ofDecl t d.inForce.names) =
      lastOfEach Entity.name (d.entities.map (Entity.ofDecl t d.names)) := by
    rw [lastOfEach_map (Entity.name_ofDecl t d.names)]
    apply List.map_congr_left
    intro e he
    have hdeclared : e ∈ d.entities := (lastOfEach_sublist d.entities).subset he
    exact Entity.ofDecl_mono (h.entities e hdeclared) fun _ hn => mem_enumerationNames_inForce.2 hn
  simp only [Document.build, hsame]
  exact Keyed.rows_ofList_perm _

theorem Document.enumerations_build_inForce :
    (d.inForce.build t).enumerations.rows.Perm (d.build t).enumerations.rows := by
  have hname : ∀ e, (Enumeration.ofDecl e).name = e.name := fun _ => rfl
  have hsame : d.inForce.enumerations.map Enumeration.ofDecl =
      lastOfEach Enumeration.name (d.enumerations.map Enumeration.ofDecl) :=
    (lastOfEach_map hname d.enumerations).symm
  simp only [Document.build, hsame]
  exact Keyed.rows_ofList_perm _

/-- directives are about the same entities, also where they name the wildcard -/
theorem Document.directives_build_inForce (h : d.WellFormed t) :
    List.Forall₂ (fun a b => Directive.agrees a b = true) (d.inForce.build t).directives (d.build t).directives := by
  have hnames : (d.inForce.build t).entityNames.Perm (d.build t).entityNames :=
    (entities_build_inForce h).map Entity.name
  have hself : List.Forall₂ (fun x y => x ∈ d.directives ∧ x = y) d.directives d.directives :=
    List.forall₂_same.2 fun x hx => ⟨hx, rfl⟩
  rw [directives_build, directives_build]
  refine List.rel_filterMap ?_ hself
  rintro x y ⟨hx, rfl⟩
  have hsame : x.Reordered x := ⟨rfl, rfl, .refl _, .refl _⟩
  obtain ⟨a, b, ha, hb, hab⟩ :=
    Directive.agrees_of_reordered hsame (h.inForce.directives x hx) (h.directives x hx) hnames
  rw [ha, hb]
  exact .some hab

/-- the models with and without replaced declarations agree -/
theorem Document.agrees_build_inForce (h : d.WellFormed t) : (d.inForce.build t).agrees (d.build t) = true := by
  have hentities : (d.inForce.build t).entities.agrees Entity.agrees (d.build t).entities = true :=
    Keyed.agrees_of_perm (entities_build_inForce h) fun e _ => e.agrees_self
  have henumerations : (d.inForce.build t).enumerations.agrees (fun a b => a == b) (d.build t).enumerations = true :=
    Keyed.agrees_of_perm enumerations_build_inForce fun e _ => beq_self_eq_true e
  have hrelationships : (d.inForce.build t).relationships = (d.build t).relationships := rfl
  have hdirectives := agreeInOrder_iff.2 (directives_build_inForce h)
  simp [Model.agrees, hentities, henumerations, hrelationships, hdirectives]

/-- **Replaced declarations leave no trace.** A document that is accepted for a technology is accepted without the
declarations that later ones replace, and the model is then the same but for the order of its tables. -/
theorem compile_inForce {s : String} {m : Model} (h : compile (some d) (some s) = .ok m) :
    ∃ n, compile (some d.inForce) (some s) = .ok n ∧ n.agrees m = true := by
  obtain ⟨t, rfl, hd, rfl⟩ := compile_eq_ok.1 h
  exact ⟨d.inForce.build t, compile_eq_ok.2 ⟨t, rfl, hd.inForce, rfl⟩, Document.agrees_build_inForce hd⟩

/-- `A` and `B` in turns; what is replaced has a table, fields, comments and values of its own, and the only reference
to `Size` -/
def outdated : Document where
  entities := [
    { name := "A", table := some "old", comment := some "old",
      fields := [{ name := "c", type := "Size", clauses := [{ key := "required" }] }] },
    { name := "B" },
    { name := "A", fields := [{ name := "n", type := "String" }, { name := "c", type := "Colour" }] }]
  enumerations := [
    { name := "Colour", values := ["red", "blue"] },
    { name := "Size", values := ["small"] },
    { name := "Colour", values := ["green"] }]
  relationships := [{ cardinality := "OneToOne", source := { entity := "A" }, target := { entity := "B" } }]
  directives := [{ name := "skipClient", targets := ["*"] }, { name := "skipServer", targets := ["B", "A"] }]

theorem outdated_inForce :
    compile (some outdated) (some "sql") = .ok (outdated.build .sql) ∧ outdated.inForce.entityNames = ["B", "A"] ∧
      ∃ n, compile (some outdated.inForce) (some "sql") = .ok n ∧ n.agrees (outdated.build .sql) = true := by
  have h : compile (some outdated) (some "sql") = .ok (outdated.build .sql) :=
    compile_eq_ok.2 ⟨.sql, rfl, by decide +kernel, rfl⟩
  exact ⟨h, by decide, compile_inForce h⟩

end EntitySchema
