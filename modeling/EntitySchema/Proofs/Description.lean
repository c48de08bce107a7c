/-
A model says what its document says, no less and no more. Entities and enumerations are declared any number of times and
in any mixture: the first declaration of a name gives its place, the last one its content. Every field but the reserved
one, every clause, relationship and directive has exactly one counterpart, in the order of the document.

- `Document.Describes`: what a document says of a model, part by part (`EntityDecl.Describes` and so on).
- `Document.describes_build`: what is built from a well-formed document is what the document describes.
- `Document.Describes.unique`: a document describes at most one model, so that nothing can be added to it.
- `compile_describes`: a compiled model is the one that its document describes, and has the names that validation
  reports.
-/
import EntitySchema.Proofs.Acceptance
import EntitySchema.Proofs.Build

namespace EntitySchema

/-! ## What declarations say -/

/-- the constraint that the key names, with the argument of the clause -/
structure Clause.Describes (c : Clause) (rule : Rule) : Prop where
  constraint : rule.constraint.name = c.key
  argument : rule.argument = c.argument

/-- name, type name and comment of the declaration, the type that the name means, and one rule for each clause, in
order -/
structure FieldDecl.Describes (t : Storage) (d : Document) (f : FieldDecl) (field : Field) : Prop where
  name : field.name = f.name
  typeName : field.type.name = f.type
  type : d.Denotes t f.type field.type
  comment : field.comment = f.comment
  rules : List.Forall₂ Clause.Describes f.clauses field.rules.rows

/-- name and comment of the declaration, its table name unless that is empty or absent, and one field for each declared
field other than the reserved one, in order -/
structure EntityDecl.Describes (t : Storage) (d : Document) (e : EntityDecl) (entity : Entity) : Prop where
  name : entity.name = e.name
  declaredTable : ∀ table, e.table = some table → table ≠ "" → entity.table = table
  ownTable : e.table = none ∨ e.table = some "" → entity.table = e.name
  comment : entity.comment = e.comment
  fields : List.Forall₂ (FieldDecl.Describes t d) e.ownFields entity.fields.rows

/-- entity, injected field, comment and mark of the declaration -/
structure EndDecl.Describes (e : EndDecl) (x : End) : Prop where
  entity : x.entity = e.entity
  injected : x.injected = e.injected
  comment : x.comment = e.comment
  required : x.required = e.required

/-- the cardinality that is named, and both ends -/
structure RelationshipDecl.Describes (r : RelationshipDecl) (relationship : Relationship) : Prop where
  cardinality : Cardinality.ofName? r.cardinality = some relationship.cardinality
  source : r.source.Describes relationship.source
  target : r.target.Describes relationship.target

/-- name, value and exceptions of the declaration; as targets either the entities there are, less the exceptions, or those
that are listed -/
structure DirectiveDecl.Describes (entities : List String) (x : DirectiveDecl) (directive : Directive) : Prop where
  name : directive.subject.topic.name = x.name
  value : directive.subject.value? = x.value
  excluded : directive.excluded.keys = x.excluded.eraseDups
  targets : directive.targets.keys =
    if wildcard ∈ x.targets then entities.filter fun e => e ∉ x.excluded else x.targets.eraseDups

/-- names in order of first declaration; under each name what its last declaration says; relationships and directives one
by one -/
structure Document.Describes (t : Storage) (d : Document) (m : Model) : Prop where
  entityNames : m.entities.keys = d.entityNames.eraseDups
  enumerationNames : m.enumerations.keys = d.enumerationNames.eraseDups
  entities : ∀ n ∈ d.entityNames, ∃ e, LastOf EntityDecl.name d.entities e ∧ e.name = n ∧
    ∃ entity, m.entity? n = some entity ∧ e.Describes t d entity
  enumerations : ∀ n ∈ d.enumerationNames, ∃ e, LastOf EnumDecl.name d.enumerations e ∧ e.name = n ∧
    m.enumeration? n = some ⟨n, e.values⟩
  relationships : List.Forall₂ RelationshipDecl.Describes d.relationships m.relationships
  directives : List.Forall₂ (DirectiveDecl.Describes m.entityNames) d.directives m.directives

/-! ## What is built -/

variable {t : Storage} {d : Document}

theorem Document.Denotes.name_eq {n : String} {type : FieldType} (h : d.Denotes t n type) : type.name = n := by
  cases h <;> rfl

theorem Clause.describes_of_wellFormed {type : FieldType} {c : Clause} (h : c.WellFormed type) :
    ∃ rule, Rule.ofClause? c = some rule ∧ c.Describes rule := by
  obtain ⟨k, hk, hof⟩ := Rule.ofClause?_of_wellFormed h
  exact ⟨_, hof, hk, rfl⟩

theorem FieldDecl.describes_of_wellFormed {f : FieldDecl} (h : f.WellFormed t d) :
    ∃ field, Field.ofDecl? t d.names f = some field ∧ f.Describes t d field := by
  obtain ⟨type, htype, hwf⟩ := h.typed
  have hof := Field.ofDecl?_of_denotes htype
  refine ⟨_, hof, rfl, htype.name_eq, htype, rfl, ?_⟩
  have hclauses : List.Forall₂ Clause.Describes f.clauses (f.clauses.filterMap Rule.ofClause?) :=
    filterMap_forall₂ fun c hc => Clause.describes_of_wellFormed (hwf c hc)
  rw [Keyed.rows_ofList h.rules_distinct]
  exact hclauses

theorem EntityDecl.describes_of_wellFormed {e : EntityDecl} (h : e.WellFormed t d) :
    e.Describes t d (Entity.ofDecl t d.names e) := by
  rw [Entity.ofDecl_eq]
  have hfields : List.Forall₂ (FieldDecl.Describes t d) e.ownFields
      (e.ownFields.filterMap (Field.ofDecl? t d.names)) :=
    filterMap_forall₂ fun f hf => FieldDecl.describes_of_wellFormed (h.fields f hf)
  refine ⟨rfl, ?_, ?_, rfl, ?_⟩
  · intro table ht hne
    simp [EntityDecl.tableName, ht, hne]
  · rintro (ht | ht) <;> simp [EntityDecl.tableName, ht]
  · rw [Keyed.rows_ofList (h.map_name_fields ▸ h.distinct)]
    exact hfields

theorem RelationshipDecl.describes_of_wellFormed {r : RelationshipDecl} (h : r.WellFormed d) :
    ∃ relationship, Relationship.ofDecl? r = some relationship ∧ r.Describes relationship := by
  obtain ⟨c, hc, hof⟩ := Relationship.ofDecl?_of_wellFormed h
  exact ⟨_, hof, hc, ⟨rfl, rfl, rfl, rfl⟩, ⟨rfl, rfl, rfl, rfl⟩⟩

theorem DirectiveDecl.describes_of_wellFormed {x : DirectiveDecl} (h : x.WellFormed d) {entities : List String}
    (hnd : entities.Nodup) : ∃ directive, Directive.ofDecl? entities x = some directive ∧ x.Describes entities directive := by
  obtain ⟨subject, hn, hv, hof⟩ := Directive.ofDecl?_of_wellFormed h
  refine ⟨_, hof entities, hn, hv, ?_, ?_⟩
  · rw [Keyed.keys_ofList, List.map_id']
  · rw [Keyed.keys_ofList, List.map_id', DirectiveDecl.resolvedTargets]
    split_ifs
    · exact eraseDups_of_nodup (hnd.filter _)
    · rfl

/-- what is built from a well-formed document is what the document describes -/
theorem Document.describes_build (h : d.WellFormed t) : d.Describes t (d.build t) := by
  have hnames : (d.build t).entityNames.Nodup := (d.build t).entities.distinct
  refine ⟨d.keys_entities_build t, d.keys_enumerations_build t, ?_, ?_, ?_, ?_⟩
  · intro n hn
    obtain ⟨e, he, rfl⟩ := exists_lastOf hn
    refine ⟨e, he, rfl, Entity.ofDecl t d.names e, ?_, EntityDecl.describes_of_wellFormed (h.entities e he.mem)⟩
    have hlast := Keyed.find?_ofList_of_last (he.map fun x => Entity.name_ofDecl t d.names x)
    rwa [Entity.name_ofDecl] at hlast
  · intro n hn
    obtain ⟨e, he, rfl⟩ := exists_lastOf hn
    have hkey : ∀ x, (Enumeration.ofDecl x).name = x.name := fun _ => rfl
    exact ⟨e, he, rfl, Keyed.find?_ofList_of_last (he.map hkey)⟩
  · exact filterMap_forall₂ fun r hr => RelationshipDecl.describes_of_wellFormed (h.relationships r hr)
  · exact filterMap_forall₂ fun x hx => DirectiveDecl.describes_of_wellFormed (h.directives x hx) hnames

/-- a row of a model stands under its name, and there stands what the last declaration of the name describes -/
theorem Document.Describes.entity_row {m : Model} (h : d.Describes t m) {entity : Entity}
    (hrow : entity ∈ m.entities.rows) : ∃ e ∈ d.entities, e.Describes t d entity := by
  have hname : entity.name ∈ d.entityNames := by
    rw [← List.mem_eraseDups, ← h.entityNames]
    exact List.mem_map_of_mem hrow
  obtain ⟨e, he, -, entity', hfound, hdescribes⟩ := h.entities entity.name hname
  have hself : m.entity? entity.name = some entity := Keyed.find?_eq_some_iff.2 ⟨hrow, rfl⟩
  cases hself.symm.trans hfound
  exact ⟨e, he.mem, hdescribes⟩

/-! ## One model -/

theorem Clause.Describes.unique : Relator.RightUnique Clause.Describes := by
  intro c r s hr hs
  have hk : r.constraint = s.constraint := Constraint.name_injective (hr.constraint.trans hs.constraint.symm)
  rw [Rule.mk.injEq]
  exact ⟨hk, hr.argument.trans hs.argument.symm⟩

theorem FieldDecl.Describes.unique : Relator.RightUnique (FieldDecl.Describes t d) := by
  intro f x y hx hy
  have hrules : x.rules.rows = y.rules.rows := List.right_unique_forall₂' Clause.Describes.unique hx.rules hy.rules
  rw [Field.mk.injEq]
  exact ⟨hx.name.trans hy.name.symm, hx.type.unique hy.type, Keyed.ext_rows hrules, hx.comment.trans hy.comment.symm⟩

theorem EntityDecl.Describes.unique : Relator.RightUnique (EntityDecl.Describes t d) := by
  intro e x y hx hy
  have htable : x.table = y.table := by
    cases ht : e.table with
    | none => rw [hx.ownTable (.inl ht), hy.ownTable (.inl ht)]
    | some table =>
      by_cases hempty : table = ""
      · subst hempty
        rw [hx.ownTable (.inr ht), hy.ownTable (.inr ht)]
      · rw [hx.declaredTable table ht hempty, hy.declaredTable table ht hempty]
  have hfields : x.fields.rows = y.fields.rows :=
    List.right_unique_forall₂' FieldDecl.Describes.unique hx.fields hy.fields
  rw [Entity.mk.injEq]
  exact ⟨hx.name.trans hy.name.symm, htable, Keyed.ext_rows hfields, hx.comment.trans hy.comment.symm⟩

theorem EndDecl.Describes.unique : Relator.RightUnique EndDecl.Describes := by
  intro e x y hx hy
  rw [End.mk.injEq]
  exact ⟨hx.entity.trans hy.entity.symm, hx.injected.trans hy.injected.symm, hx.comment.trans hy.comment.symm,
    hx.required.trans hy.required.symm⟩

theorem RelationshipDecl.Describes.unique : Relator.RightUnique RelationshipDecl.Describes := by
  intro r x y hx hy
  have hcardinality := Option.some.inj (hx.cardinality.symm.trans hy.cardinality)
  rw [Relationship.mk.injEq]
  exact ⟨hcardinality, EndDecl.Describes.unique hx.source hy.source, EndDecl.Describes.unique hx.target hy.target⟩

theorem DirectiveDecl.Describes.unique {entities : List String} :
    Relator.RightUnique (DirectiveDecl.Describes entities) := by
  intro x a b ha hb
  have hsubject : a.subject = b.subject :=
    Subject.eq_of_name (ha.name.trans hb.name.symm) (ha.value.trans hb.value.symm)
  rw [Directive.mk.injEq]
  exact ⟨hsubject, NameSet.ext_keys (ha.targets.trans hb.targets.symm),
    NameSet.ext_keys (ha.excluded.trans hb.excluded.symm)⟩

/-- a document describes at most one model -/
theorem Document.Describes.unique {m n : Model} (hm : d.Describes t m) (hn : d.Describes t n) : m = n := by
  have hentities : m.entities = n.entities := by
    refine Keyed.ext_find? (hm.entityNames.trans hn.entityNames.symm) fun k hk => ?_
    rw [hm.entityNames, List.mem_eraseDups] at hk
    obtain ⟨e, he, rfl, x, hx, hex⟩ := hm.entities k hk
    obtain ⟨e', he', hname, y, hy, hey⟩ := hn.entities e.name hk
    cases he'.unique he hname
    cases EntityDecl.Describes.unique hex hey
    exact hx.trans hy.symm
  have henumerations : m.enumerations = n.enumerations := by
    refine Keyed.ext_find? (hm.enumerationNames.trans hn.enumerationNames.symm) fun k hk => ?_
    rw [hm.enumerationNames, List.mem_eraseDups] at hk
    obtain ⟨e, he, rfl, hx⟩ := hm.enumerations k hk
    obtain ⟨e', he', hname, hy⟩ := hn.enumerations e.name hk
    cases he'.unique he hname
    exact hx.trans hy.symm
  have hrelationships : m.relationships = n.relationships :=
    List.right_unique_forall₂' RelationshipDecl.Describes.unique hm.relationships hn.relationships
  have hdirectives : m.directives = n.directives := by
    have hm' := hm.directives
    rw [Model.entityNames, hentities] at hm'
    exact List.right_unique_forall₂' DirectiveDecl.Describes.unique hm' hn.directives
  rw [Model.mk.injEq]
  exact ⟨hentities, henumerations, hrelationships, hdirectives⟩

/-- **Nothing lost, nothing invented.** Exactly the documents that are well formed for a known technology are compiled.
The model is the only one that the document describes: the names in order of first declaration, which are the names that
validation reports, under each name what its last declaration says, and one relationship and one directive for each that
is declared. -/
theorem compile_describes (d : Document) (s : String) :
    ((∃ m, compile (some d) (some s) = .ok m) ↔ ∃ t, Storage.name t = s ∧ d.WellFormed t) ∧
      ∀ m, compile (some d) (some s) = .ok m →
        ∃ t names, Storage.name t = s ∧ d.validate t = .ok names ∧ names.entities.keys = m.entities.keys ∧
          names.enumerations.keys = m.enumerations.keys ∧ d.Describes t m ∧ ∀ n, d.Describes t n → n = m := by
  refine ⟨?_, ?_⟩
  · simp only [compile_eq_ok]
    constructor
    · rintro ⟨m, t, ht, hwf, -⟩
      exact ⟨t, ht, hwf⟩
    · rintro ⟨t, ht, hwf⟩
      exact ⟨d.build t, t, ht, hwf, rfl⟩
  · intro m hm
    obtain ⟨t, ht, hwf, rfl⟩ := compile_eq_ok.1 hm
    have hdescribes := Document.describes_build hwf
    refine ⟨t, d.names, ht, Document.validate_eq_ok.2 ⟨hwf, rfl⟩, ?_, ?_, hdescribes, ?_⟩
    · rw [d.keys_entities_build t, Document.names, Keyed.keys_ofList, List.map_id']
    · rw [d.keys_enumerations_build t, Document.names, Keyed.keys_ofList, List.map_id']
    · intro n hn
      exact hn.unique hdescribes

/-- `A` and `B` in turns, each declared twice; the first `A` has a field of a type that is declared later, the last one a
table of its own and a reserved field of no known type -/
def inTurns : Document where
  entities := [
    { name := "A", fields := [{ name := "c", type := "Colour", clauses := [{ key := "required" }] }] },
    { name := "B", table := some "" },
    { name := "A", table := some "a", fields := [
      { name := "id", type := "None" },
      { name := "n", type := "String", comment := some "",
        clauses := [{ key := "pattern", argument := some (.text "a+") }, { key := "required" }] }] },
    { name := "B", comment := some "last" }]
  enumerations := [{ name := "Colour", values := ["red"] }, { name := "Colour", values := ["blue", "red"] }]
  relationships := [{ cardinality := "one-to-many", source := { entity := "B" }, target := { entity := "A" } }]
  directives := [{ name := "dto", value := some "mapstruct", targets := ["A", "*"], excluded := ["B", "B"] }]

theorem inTurns_described :
    compile (some inTurns) (some "sql") = .ok (inTurns.build .sql) ∧
      ∃ t names, Storage.name t = "sql" ∧ inTurns.validate t = .ok names ∧
        names.entities.keys = (inTurns.build .sql).entities.keys ∧
        names.enumerations.keys = (inTurns.build .sql).enumerations.keys ∧
        inTurns.Describes t (inTurns.build .sql) ∧ ∀ n, inTurns.Describes t n → n = inTurns.build .sql := by
  have h : compile (some inTurns) (some "sql") = .ok (inTurns.build .sql) :=
    compile_eq_ok.2 ⟨.sql, rfl, by decide +kernel, rfl⟩
  exact ⟨h, (compile_describes inTurns "sql").2 _ h⟩

end EntitySchema
