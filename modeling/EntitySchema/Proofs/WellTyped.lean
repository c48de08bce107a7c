/-
Every compiled model is well typed. Its values could hold anything; that they do not is carried from the rules of
declarations, through what a document says of its model, to every row of every table.

- `Model.WellTyped`: what holds of the entities, fields, rules and enumerations of a model.
- `FieldDecl.Describes.wellTyped`, `EntityDecl.Describes.wellTyped`: a well-formed declaration describes a well-typed
  field or entity.
- `Document.Describes.wellTyped`: a well-formed document describes a well-typed model.
- `compile_wellTyped`: so every model that is compiled is well typed for its technology.
-/
import EntitySchema.Proofs.Description

namespace EntitySchema

/-! ## Well-typed models -/

/-- a builtin type that the storage can hold, or an enumeration of the model that no such type hides -/
inductive FieldType.KnownTo (t : Storage) (m : Model) : FieldType → Prop where
  | builtin (b : Builtin) (hb : b ∈ t.types) : KnownTo t m (.builtin b)
  | enumeration (n : String) (hn : n ∈ m.enumerations.keys) (hfree : ∀ b ∈ t.types, b.name ≠ n) :
    KnownTo t m (.enumeration n)

/-- the type carries the constraint, and the argument is what the constraint asks for -/
structure Rule.WellTyped (type : FieldType) (r : Rule) : Prop where
  carried : type.Carries r.constraint
  fits : r.constraint.Fits r.argument

/-- a name other than the reserved one, a known type, and rules that fit it, each under its own kind -/
structure Field.WellTyped (t : Storage) (m : Model) (f : Field) : Prop where
  named : f.name ≠ ""
  own : f.name ≠ reservedField
  type : f.type.KnownTo t m
  kinds : ∀ k r, f.rule? k = some r ↔ r ∈ f.rules.rows ∧ r.constraint = k
  rules : ∀ r ∈ f.rules.rows, r.WellTyped f.type

/-- a name, a table, and well-typed fields, each under its own name -/
structure Entity.WellTyped (t : Storage) (m : Model) (e : Entity) : Prop where
  named : e.name ≠ ""
  table : e.table ≠ ""
  names : ∀ n f, e.field? n = some f ↔ f ∈ e.fields.rows ∧ f.name = n
  fields : ∀ f ∈ e.fields.rows, f.WellTyped t m

/-- at least one value, none of them empty or repeated -/
structure Enumeration.WellTyped (e : Enumeration) : Prop where
  inhabited : e.values ≠ []
  values : ∀ v ∈ e.values, v ≠ ""
  distinct : e.values.Nodup

/-- well-typed entities and enumerations, each under its own name -/
structure Model.WellTyped (t : Storage) (m : Model) : Prop where
  entityNames : ∀ n e, m.entity? n = some e ↔ e ∈ m.entities.rows ∧ e.name = n
  entities : ∀ e ∈ m.entities.rows, e.WellTyped t m
  enumerationNames : ∀ n e, m.enumeration? n = some e ↔ e ∈ m.enumerations.rows ∧ e.name = n
  enumerations : ∀ e ∈ m.enumerations.rows, e.WellTyped

/-! ## What declarations describe -/

variable {t : Storage} {d : Document} {m : Model}

theorem Document.Denotes.knownTo {n : String} {type : FieldType} (h : d.Denotes t n type)
    (hsub : d.enumerationNames ⊆ m.enumerations.keys) : type.KnownTo t m := by
  cases h with
  | builtin b hb => exact .builtin b hb
  | enumeration _ hfree hn => exact .enumeration n (hsub hn) hfree

theorem Clause.Describes.wellTyped {type : FieldType} {c : Clause} {r : Rule} (h : c.Describes r)
    (hc : c.WellFormed type) : r.WellTyped type := by
  obtain ⟨k, hk, hcarries, hfits⟩ := hc
  have hkind : r.constraint = k := Constraint.name_injective (h.constraint.trans hk.symm)
  refine ⟨?_, ?_⟩
  · rw [hkind]
    exact hcarries
  · rw [hkind, h.argument]
    exact hfits

theorem FieldDecl.Describes.wellTyped {f : FieldDecl} {field : Field} (h : f.Describes t d field)
    (hf : f.WellFormed t d) (hown : f.name ≠ reservedField) (hsub : d.enumerationNames ⊆ m.enumerations.keys) :
    field.WellTyped t m := by
  obtain ⟨type, htype, hclauses⟩ := hf.typed
  -- the clauses were checked against the type that the field has
  cases htype.unique h.type
  refine ⟨?_, ?_, h.type.knownTo hsub, fun k r => Keyed.find?_eq_some_iff, fun r hr => ?_⟩
  · rw [h.name]
    exact hf.named
  · rw [h.name]
    exact hown
  · obtain ⟨c, hc, hcr⟩ := forall₂_exists_of_mem_right h.rules hr
    exact hcr.wellTyped (hclauses c hc)

theorem EntityDecl.Describes.table_ne {e : EntityDecl} {entity : Entity} (h : e.Describes t d entity)
    (hnamed : e.name ≠ "") : entity.table ≠ "" := by
  cases ht : e.table with
  | none =>
    rw [h.ownTable (.inl ht)]
    exact hnamed
  | some table =>
    by_cases hempty : table = ""
    · rw [h.ownTable (.inr (hempty ▸ ht))]
      exact hnamed
    · rw [h.declaredTable table ht hempty]
      exact hempty

theorem EntityDecl.Describes.wellTyped {e : EntityDecl} {entity : Entity} (h : e.Describes t d entity)
    (he : e.WellFormed t d) (hsub : d.enumerationNames ⊆ m.enumerations.keys) : entity.WellTyped t m := by
  refine ⟨?_, h.table_ne he.named, fun n f => Keyed.find?_eq_some_iff, fun field hfield => ?_⟩
  · rw [h.name]
    exact he.named
  · obtain ⟨f, hf, hff⟩ := forall₂_exists_of_mem_right h.fields hfield
    exact hff.wellTyped (he.fields f hf) (EntityDecl.name_of_mem_ownFields hf) hsub

/-- a well-formed document describes a well-typed model -/
theorem Document.Describes.wellTyped (h : d.Describes t m) (hd : d.WellFormed t) : m.WellTyped t := by
  have hsub : d.enumerationNames ⊆ m.enumerations.keys := by
    intro n hn
    rwa [h.enumerationNames, List.mem_eraseDups]
  refine ⟨fun n e => Keyed.find?_eq_some_iff, fun entity hentity => ?_, fun n e => Keyed.find?_eq_some_iff,
    fun enumeration henumeration => ?_⟩
  · obtain ⟨e, he, hdescribes⟩ := h.entity_row hentity
    exact hdescribes.wellTyped (hd.entities e he) hsub
  · have hname : enumeration.name ∈ d.enumerationNames := by
      rw [← List.mem_eraseDups, ← h.enumerationNames]
      exact List.mem_map_of_mem henumeration
    obtain ⟨e, he, -, hfound⟩ := h.enumerations enumeration.name hname
    have hself : m.enumeration? enumeration.name = some enumeration :=
      Keyed.find?_eq_some_iff.2 ⟨henumeration, rfl⟩
    have hvalues : enumeration.values = e.values := congrArg Enumeration.values (Option.some.inj (hself.symm.trans hfound))
    obtain ⟨-, hinhabited, hnonempty, hdistinct⟩ := hd.enumerations e he.mem
    rw [← hvalues] at hinhabited hnonempty hdistinct
    exact ⟨hinhabited, hnonempty, hdistinct⟩

/-! ## Compiled models -/

/-- **Well typed.** Every model that is compiled is well typed for the technology that it is compiled for: entities and
fields have names, and fields the names and types that they may have; enumerations have values; every rule is one that
the type of its field carries, with an argument that fits. -/
theorem compile_wellTyped {document : Option Document} {storage : Option String} {m : Model}
    (h : compile document storage = .ok m) : ∃ t : Storage, storage = some t.name ∧ m.WellTyped t := by
  match document, storage with
  | none, _ => cases h
  | some _, none => cases h
  | some d, some s =>
    obtain ⟨t, rfl, hd, rfl⟩ := compile_eq_ok.1 h
    exact ⟨t, rfl, (Document.describes_build hd).wellTyped hd⟩

/-- an enumeration with the name of a builtin type that only other technologies have, another with the name of one that
this one has, and a field of each type -/
def shadowed : Document where
  entities := [
    { name := "A", fields := [{ name := "gone", type := "Size", clauses := [{ key := "required" }] }] },
    { name := "A", table := some "", fields := [
      { name := "id", type := "None" },
      { name := "d", type := "LocalDate", clauses := [{ key := "required" }] },
      { name := "s", type := "String", clauses := [
        { key := "minlength", argument := some (.number (.integer 0)) },
        { key := "pattern", argument := some (.text "(?=a)\\1") }] },
      { name := "n", type := "Long", clauses := [{ key := "min", argument := some (.number (.integer (-5))) }] }] }]
  enumerations := [
    { name := "LocalDate", values := ["today"] },
    { name := "String", values := ["x"] },
    { name := "Size", values := ["small", "large"] }]

theorem shadowed_wellTyped :
    compile (some shadowed) (some "cassandra") = .ok (shadowed.build .cassandra) ∧
      ∃ t : Storage, some "cassandra" = some t.name ∧ (shadowed.build .cassandra).WellTyped t := by
  have h : compile (some shadowed) (some "cassandra") = .ok (shadowed.build .cassandra) :=
    compile_eq_ok.2 ⟨.cassandra, rfl, by decide +kernel, rfl⟩
  exact ⟨h, compile_wellTyped h⟩

end EntitySchema
