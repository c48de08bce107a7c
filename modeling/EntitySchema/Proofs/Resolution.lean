/-
Building a document that passed its check meets no gap. The check goes by the names that the document declares, building
by the table of entities that it has made by then; the two agree on what is declared, on which fields are left out and
on which targets are looked up.

- `Document.Resolves`: every look-up of the builder finds something.
- `Document.buildStrict_eq_ok`: strict building succeeds exactly then, and its model is the one that is built leniently.
- `Document.WellFormed.resolves`: in a well-formed document every look-up finds something.
- `validate_resolves`: so it does in a document that passed its check, which strict building turns into its model.
-/
import EntitySchema.Model.Strict
import EntitySchema.Proofs.Acceptance
import EntitySchema.Proofs.Build
import EntitySchema.Proofs.Traversal

namespace EntitySchema

open Outcome

/-! ## Look-ups -/

/-- the type of the field and the constraints of its clauses are found -/
structure FieldDecl.Resolves (t : Storage) (names : Names) (f : FieldDecl) : Prop where
  type : (names.fieldType? t f.type).isSome
  constraints : ∀ c ∈ f.clauses, (Constraint.ofName? c.key).isSome

/-- the topic is found, a setting has a value, and targets that are listed one by one are among the entities -/
structure DirectiveDecl.Resolves (entities : List String) (x : DirectiveDecl) : Prop where
  topic : (Topic.ofName? x.name).isSome
  value : ∀ o, Topic.ofName? x.name = some (.setting o) → x.value.isSome
  targets : wildcard ∉ x.targets → ∀ n ∈ x.targets, n ∈ entities

/-- every look-up finds something: those for the fields of all entities, replaced ones among them, for relationships and,
in the finished table of entities, for directives -/
structure Document.Resolves (t : Storage) (names : Names) (d : Document) : Prop where
  fields : ∀ e ∈ d.entities, ∀ f ∈ e.fields, f.name ≠ reservedField → f.Resolves t names
  cardinalities : ∀ r ∈ d.relationships, (Cardinality.ofName? r.cardinality).isSome
  directives : ∀ x ∈ d.directives, x.Resolves (d.build t).entities.keys

/-! ## Strict and lenient building -/

theorem found_eq_ok {α : Type} {gap : Gap} {o : Option α} {a : α} : found gap o = .ok a ↔ o = some a := by
  cases o <;> simp [found]

variable {t : Storage} {names : Names} {d : Document}

theorem Rule.ofClauseStrict_eq_ok {c : Clause} {r : Rule} :
    Rule.ofClauseStrict c = .ok r ↔ True ∧ Rule.ofClause? c = some r := by
  rw [Rule.ofClauseStrict, map_eq_ok, Rule.ofClause?, Option.map_eq_some_iff, true_and]
  simp only [found_eq_ok]

theorem Field.ofDeclStrict_eq_ok {f : FieldDecl} {field : Field} :
    Field.ofDeclStrict t names f = .ok field ↔
      (∀ c ∈ f.clauses, (Constraint.ofName? c.key).isSome) ∧ Field.ofDecl? t names f = some field := by
  have hknown : ∀ c : Clause, (Rule.ofClause? c).isSome = (Constraint.ofName? c.key).isSome := by
    intro c
    rw [Rule.ofClause?, Option.isSome_map]
  rw [Field.ofDeclStrict, bind_eq_ok, Field.ofDecl?]
  simp only [found_eq_ok, map_eq_ok, mapM_eq_ok_filterMap fun _ _ => Rule.ofClauseStrict_eq_ok, true_and, hknown,
    Option.map_eq_some_iff]
  constructor
  · rintro ⟨type, htype, rules, ⟨hclauses, rfl⟩, rfl⟩
    exact ⟨hclauses, type, htype, rfl⟩
  · rintro ⟨hclauses, type, htype, rfl⟩
    exact ⟨type, htype, _, ⟨hclauses, rfl⟩, rfl⟩

theorem Entity.ofDeclStrict_eq_ok {e : EntityDecl} {entity : Entity} :
    Entity.ofDeclStrict t names e = .ok entity ↔
      (∀ f ∈ e.ownFields, f.Resolves t names) ∧ some (Entity.ofDecl t names e) = some entity := by
  have hresolves : ∀ f : FieldDecl, f.Resolves t names ↔
      (∀ c ∈ f.clauses, (Constraint.ofName? c.key).isSome) ∧ (Field.ofDecl? t names f).isSome := by
    intro f
    rw [Field.ofDecl?, Option.isSome_map]
    exact ⟨fun h => ⟨h.constraints, h.type⟩, fun h => ⟨h.2, h.1⟩⟩
  rw [Entity.ofDeclStrict, map_eq_ok, Entity.ofDecl]
  simp only [mapM_eq_ok_filterMap fun _ _ => Field.ofDeclStrict_eq_ok, hresolves, Option.some.injEq]
  constructor
  · rintro ⟨fields, ⟨hfields, rfl⟩, rfl⟩
    exact ⟨hfields, rfl⟩
  · rintro ⟨hfields, rfl⟩
    exact ⟨_, ⟨hfields, rfl⟩, rfl⟩

theorem Relationship.ofDeclStrict_eq_ok {r : RelationshipDecl} {relationship : Relationship} :
    Relationship.ofDeclStrict r = .ok relationship ↔ True ∧ Relationship.ofDecl? r = some relationship := by
  rw [Relationship.ofDeclStrict, map_eq_ok, Relationship.ofDecl?, Option.map_eq_some_iff, true_and]
  simp only [found_eq_ok]

theorem DirectiveDecl.checkTargets_eq_ok {entities : List String} {x : DirectiveDecl} :
    x.checkTargets entities = .ok () ↔ (wildcard ∉ x.targets → ∀ n ∈ x.targets, n ∈ entities) := by
  rw [DirectiveDecl.checkTargets]
  split_ifs with hw
  · simp [hw]
  · simp [hw, each_eq_ok]

theorem Subject.ofTopicStrict_eq_ok {topic : Topic} {value : Option String} {subject : Subject} :
    Subject.ofTopicStrict topic value = .ok subject ↔ Subject.ofTopic? topic value = some subject := by
  cases topic with
  | flag f => simp [Subject.ofTopicStrict, Subject.ofTopic?]
  | setting o => simp [Subject.ofTopicStrict, Subject.ofTopic?, map_eq_ok, found_eq_ok]

theorem Directive.isSome_ofDecl? {entities : List String} {x : DirectiveDecl} :
    (Directive.ofDecl? entities x).isSome ↔
      (Topic.ofName? x.name).isSome ∧ ∀ o, Topic.ofName? x.name = some (.setting o) → x.value.isSome := by
  rw [Directive.ofDecl?, Option.isSome_map]
  cases Topic.ofName? x.name with
  | none => simp
  | some topic => cases topic <;> simp [Subject.ofTopic?]

/-- looking up the topic and resolving the directive, one after the other -/
theorem Directive.resolve_eq_ok {entities : List String} {x : DirectiveDecl} {directive : Directive} :
    (x.withTopic.bind fun p => Directive.resolve entities p.1 p.2) = .ok directive ↔
      (wildcard ∉ x.targets → ∀ n ∈ x.targets, n ∈ entities) ∧ Directive.ofDecl? entities x = some directive := by
  simp only [DirectiveDecl.withTopic, Directive.resolve, Directive.ofDecl?, bind_eq_ok, map_eq_ok, found_eq_ok,
    Subject.ofTopicStrict_eq_ok, Option.map_eq_some_iff, Option.bind_eq_some_iff]
  constructor
  · rintro ⟨_, ⟨topic, htopic, rfl⟩, _, htargets, subject, hsubject, rfl⟩
    exact ⟨DirectiveDecl.checkTargets_eq_ok.1 htargets, subject, ⟨topic, htopic, hsubject⟩, rfl⟩
  · rintro ⟨htargets, subject, ⟨topic, htopic, hsubject⟩, rfl⟩
    exact ⟨_, ⟨topic, htopic, rfl⟩, (), DirectiveDecl.checkTargets_eq_ok.2 htargets, subject, hsubject, rfl⟩

/-! ## Documents -/

theorem Document.mapM_entities_eq_ok {rows : List Entity} :
    d.entities.mapM (Entity.ofDeclStrict t names) = .ok rows ↔
      (∀ e ∈ d.entities, ∀ f ∈ e.fields, f.name ≠ reservedField → f.Resolves t names) ∧
        d.entities.map (Entity.ofDecl t names) = rows := by
  rw [mapM_eq_ok_filterMap fun _ _ => Entity.ofDeclStrict_eq_ok]
  simp [EntityDecl.ownFields]

theorem Document.mapM_relationships_eq_ok {relationships : List Relationship} :
    d.relationships.mapM Relationship.ofDeclStrict = .ok relationships ↔
      (∀ r ∈ d.relationships, (Cardinality.ofName? r.cardinality).isSome) ∧
        d.relationships.filterMap Relationship.ofDecl? = relationships := by
  have hknown : ∀ r : RelationshipDecl, (Relationship.ofDecl? r).isSome = (Cardinality.ofName? r.cardinality).isSome := by
    intro r
    rw [Relationship.ofDecl?, Option.isSome_map]
  rw [mapM_eq_ok_filterMap fun _ _ => Relationship.ofDeclStrict_eq_ok]
  simp only [true_and, hknown]

theorem Document.mapM_directives_eq_ok {entities : List String} {directives : List Directive} :
    (∃ pending, d.directives.mapM DirectiveDecl.withTopic = .ok pending ∧
        pending.mapM (fun p => Directive.resolve entities p.1 p.2) = .ok directives) ↔
      (∀ x ∈ d.directives, x.Resolves entities) ∧
        d.directives.filterMap (Directive.ofDecl? entities) = directives := by
  have hresolves : ∀ x : DirectiveDecl, x.Resolves entities ↔
      (wildcard ∉ x.targets → ∀ n ∈ x.targets, n ∈ entities) ∧ (Directive.ofDecl? entities x).isSome := by
    intro x
    rw [Directive.isSome_ofDecl?]
    exact ⟨fun h => ⟨h.targets, h.topic, h.value⟩, fun ⟨htargets, htopic, hvalue⟩ => ⟨htopic, hvalue, htargets⟩⟩
  rw [mapM_mapM_eq_ok, mapM_eq_ok_filterMap fun _ _ => Directive.resolve_eq_ok]
  simp only [hresolves]

/-- strict building succeeds exactly when every look-up finds something, and then builds the same as lenient building -/
theorem Document.buildStrict_eq_ok {m : Model} :
    d.buildStrict t d.names = .ok m ↔ d.Resolves t d.names ∧ d.build t = m := by
  simp only [Document.buildStrict, bind_eq_ok, map_eq_ok, mapM_entities_eq_ok, mapM_relationships_eq_ok]
  constructor
  · rintro ⟨_, ⟨hfields, rfl⟩, _, ⟨hcardinalities, rfl⟩, pending, hpending, directives, hdirectives, rfl⟩
    obtain ⟨hresolves, rfl⟩ := mapM_directives_eq_ok.1 ⟨pending, hpending, hdirectives⟩
    exact ⟨⟨hfields, hcardinalities, hresolves⟩, rfl⟩
  · rintro ⟨h, rfl⟩
    obtain ⟨pending, hpending, hdirectives⟩ := mapM_directives_eq_ok.2 ⟨h.directives, rfl⟩
    exact ⟨_, ⟨h.fields, rfl⟩, _, ⟨h.cardinalities, rfl⟩, pending, hpending, _, hdirectives, rfl⟩

/-! ## Documents that passed their check -/

theorem FieldDecl.WellFormed.resolves {f : FieldDecl} (h : f.WellFormed t d) : f.Resolves t d.names := by
  obtain ⟨type, htype, hclauses⟩ := h.typed
  refine ⟨Option.isSome_iff_exists.2 ⟨type, Document.fieldType?_iff.2 htype⟩, fun c hc => ?_⟩
  obtain ⟨k, hk, -, -⟩ := hclauses c hc
  exact Option.isSome_iff_exists.2 ⟨k, Constraint.ofName?_iff.2 hk⟩

theorem DirectiveDecl.WellFormed.resolves {x : DirectiveDecl} (h : x.WellFormed d) {entities : List String}
    (hentities : d.entityNames ⊆ entities) : x.Resolves entities := by
  obtain ⟨topic, hname, htakes⟩ := h.known
  have htopic := Topic.ofName?_iff.2 hname
  refine ⟨Option.isSome_iff_exists.2 ⟨topic, htopic⟩, fun o ho => ?_, fun hw n hn => ?_⟩
  · cases htopic.symm.trans ho
    obtain ⟨v, hv, -⟩ := htakes
    exact Option.isSome_iff_exists.2 ⟨v, hv⟩
  · rcases h.targets n hn with rfl | hdeclared
    · exact absurd hn hw
    · exact hentities hdeclared

theorem Document.WellFormed.resolves (h : d.WellFormed t) : d.Resolves t d.names := by
  have hentities : d.entityNames ⊆ (d.build t).entities.keys := by
    intro n hn
    rwa [d.keys_entities_build t, List.mem_eraseDups]
  refine ⟨fun e he f hf hown => ?_, fun r hr => ?_, fun x hx => (h.directives x hx).resolves hentities⟩
  · have hfield : f ∈ e.ownFields := List.mem_filter.2 ⟨hf, by simpa using hown⟩
    exact ((h.entities e he).fields f hfield).resolves
  · exact Option.isSome_iff_exists.2 (h.relationships r hr).known

/-- **Nothing missing.** Once a document has passed its check, every look-up of the builder finds something among the
names that the check reports, and strict building, which fails where one does not, makes the model. -/
theorem validate_resolves {names : Names} (h : d.validate t = .ok names) :
    d.Resolves t names ∧ d.buildStrict t names = .ok (d.build t) := by
  obtain ⟨hwf, rfl⟩ := Document.validate_eq_ok.1 h
  exact ⟨hwf.resolves, Document.buildStrict_eq_ok.2 ⟨hwf.resolves, rfl⟩⟩

/-- an `A` that is replaced, with a field of a type that is declared later; directives about it, before and beside the
wildcard -/
def replaced : Document where
  entities := [
    { name := "A", fields := [
      { name := "id", type := "None", clauses := [{ key := "none" }] },
      { name := "c", type := "Colour", clauses := [{ key := "required" }] }] },
    { name := "A" }]
  enumerations := [{ name := "Colour", values := ["red"] }]
  relationships := [{ cardinality := "many-to-one", source := { entity := "A" }, target := { entity := "A" } }]
  directives := [
    { name := "dto", value := some "mapstruct", targets := ["A", "A"], excluded := ["A"] },
    { name := "skipServer", targets := ["A", "*"] }]

theorem replaced_resolves :
    replaced.validate .sql = .ok replaced.names ∧ replaced.Resolves .sql replaced.names ∧
      replaced.buildStrict .sql replaced.names = .ok (replaced.build .sql) := by
  have h : replaced.validate .sql = .ok replaced.names := Document.validate_eq_ok.2 ⟨by decide +kernel, rfl⟩
  exact ⟨h, validate_resolves h⟩

end EntitySchema
