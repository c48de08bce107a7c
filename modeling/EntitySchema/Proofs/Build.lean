/-
What is built from each declaration. The tables of a field and of an entity are made in one go from lists; nothing of a
well-formed declaration is dropped on the way.

- `Field.ofDecl?_eq`, `Entity.ofDecl_eq`: the parts of a field and of an entity.
- `Rule.ofClause?_of_wellFormed`, `Field.ofDecl?_of_denotes`, `Relationship.ofDecl?_of_wellFormed`,
  `Directive.ofDecl?_of_wellFormed`: building does not give up on well-formed declarations.
- `FieldDecl.WellFormed.rules_distinct`, `EntityDecl.WellFormed.map_name_fields`: what is built is as distinct as what is
  declared.
- `Entity.ofDecl_mono`: more enumerations in the document change nothing in an entity that was well formed before.
-/
import EntitySchema.Model.Build
import EntitySchema.Proofs.WellFormed

namespace EntitySchema

/-! ## Fields and entities -/

theorem Rule.ofClause?_of_wellFormed {type : FieldType} {c : Clause} (h : c.WellFormed type) :
    ∃ k : Constraint, k.name = c.key ∧ Rule.ofClause? c = some ⟨k, c.argument⟩ := by
  obtain ⟨k, hk, -, -⟩ := h
  exact ⟨k, hk, by rw [Rule.ofClause?, Constraint.ofName?_iff.2 hk]; rfl⟩

/-- the rules of a field are about different constraints, since two of one constraint would come from clauses of one
key -/
theorem FieldDecl.WellFormed.rules_distinct {t : Storage} {d : Document} {f : FieldDecl} (h : f.WellFormed t d) :
    ((f.clauses.filterMap Rule.ofClause?).map Rule.constraint).Nodup := by
  obtain ⟨type, -, hwf⟩ := h.typed
  have hrules : List.Forall₂ (fun c r => c.key = r.constraint.name) f.clauses (f.clauses.filterMap Rule.ofClause?) := by
    refine filterMap_forall₂ fun c hc => ?_
    obtain ⟨k, hk, hof⟩ := Rule.ofClause?_of_wellFormed (hwf c hc)
    exact ⟨_, hof, hk.symm⟩
  have hkeys : f.clauses.map Clause.key = (f.clauses.filterMap Rule.ofClause?).map fun r => r.constraint.name :=
    map_eq_of_forall₂ hrules fun _ _ hcr => hcr
  refine List.Nodup.of_map Constraint.name ?_
  rw [List.map_map]
  exact hkeys ▸ h.distinct

theorem Field.foldl_withRule (rs : List Rule) (f : Field) :
    rs.foldl Field.withRule f = { f with rules := rs.foldl Keyed.insert f.rules } := by
  induction rs generalizing f with
  | nil => rfl
  | cons r rs ih => rw [List.foldl_cons, ih]; rfl

theorem Field.ofDecl?_eq (t : Storage) (names : Names) (f : FieldDecl) :
    Field.ofDecl? t names f =
      (names.fieldType? t f.type).map fun type =>
        ⟨f.name, type, .ofList (f.clauses.filterMap Rule.ofClause?), f.comment⟩ := by
  simp only [Field.ofDecl?, Field.foldl_withRule]
  rfl

theorem Field.ofDecl?_of_denotes {t : Storage} {d : Document} {f : FieldDecl} {type : FieldType}
    (h : d.Denotes t f.type type) :
    Field.ofDecl? t d.names f = some ⟨f.name, type, .ofList (f.clauses.filterMap Rule.ofClause?), f.comment⟩ := by
  rw [Field.ofDecl?_eq, Document.fieldType?_iff.2 h]
  rfl

theorem Field.name_of_ofDecl? {t : Storage} {names : Names} {f : FieldDecl} {field : Field}
    (h : Field.ofDecl? t names f = some field) : field.name = f.name := by
  rw [Field.ofDecl?_eq] at h
  obtain ⟨type, -, rfl⟩ := Option.map_eq_some_iff.1 h
  rfl

theorem Entity.foldl_withField (fs : List Field) (hfs : ∀ f ∈ fs, f.name ≠ reservedField) (e : Entity) :
    fs.foldl Entity.withField e = { e with fields := fs.foldl Keyed.insert e.fields } := by
  induction fs generalizing e with
  | nil => rfl
  | cons f fs ih =>
    rw [List.foldl_cons, ih fun g hg => hfs g (List.mem_cons_of_mem f hg), Entity.withField,
      if_neg (hfs f List.mem_cons_self)]
    rfl

theorem EntityDecl.name_of_mem_ownFields {e : EntityDecl} {f : FieldDecl} (h : f ∈ e.ownFields) :
    f.name ≠ reservedField := by
  simpa using (List.mem_filter.1 h).2

/-- the fields that are built have the names of the fields that are declared -/
theorem EntityDecl.WellFormed.map_name_fields {t : Storage} {d : Document} {e : EntityDecl} (h : e.WellFormed t d) :
    (e.ownFields.filterMap (Field.ofDecl? t d.names)).map Field.name = e.ownFields.map FieldDecl.name := by
  have hfields : List.Forall₂ (fun f field => f.name = field.name) e.ownFields
      (e.ownFields.filterMap (Field.ofDecl? t d.names)) := by
    refine filterMap_forall₂ fun f hf => ?_
    obtain ⟨type, htype, -⟩ := (h.fields f hf).typed
    exact ⟨_, Field.ofDecl?_of_denotes htype, rfl⟩
  exact (map_eq_of_forall₂ hfields fun _ _ hff => hff).symm

theorem Entity.ofDecl_eq (t : Storage) (names : Names) (e : EntityDecl) :
    Entity.ofDecl t names e =
      ⟨e.name, e.tableName, .ofList (e.ownFields.filterMap (Field.ofDecl? t names)), e.comment⟩ := by
  have hfs : ∀ field ∈ e.ownFields.filterMap (Field.ofDecl? t names), field.name ≠ reservedField := by
    intro field hfield
    obtain ⟨f, hf, hof⟩ := List.mem_filterMap.1 hfield
    rw [Field.name_of_ofDecl? hof]
    exact EntityDecl.name_of_mem_ownFields hf
  rw [Entity.ofDecl, Entity.foldl_withField _ hfs]
  rfl

theorem Entity.name_ofDecl (t : Storage) (names : Names) (e : EntityDecl) : (Entity.ofDecl t names e).name = e.name := by
  rw [Entity.ofDecl_eq]

/-- **Enumerations elsewhere do not matter.** An entity that is well formed in one document is built the same way in any
other that declares at least the same enumerations. -/
theorem Entity.ofDecl_mono {t : Storage} {d d' : Document} {e : EntityDecl} (h : e.WellFormed t d)
    (hsub : d.enumerationNames ⊆ d'.enumerationNames) :
    Entity.ofDecl t d'.names e = Entity.ofDecl t d.names e := by
  have hfields : e.ownFields.filterMap (Field.ofDecl? t d'.names) = e.ownFields.filterMap (Field.ofDecl? t d.names) := by
    refine List.filterMap_congr fun f hf => ?_
    obtain ⟨type, htype, -⟩ := (h.fields f hf).typed
    rw [Field.ofDecl?_of_denotes htype, Field.ofDecl?_of_denotes (htype.mono hsub)]
  rw [Entity.ofDecl_eq, Entity.ofDecl_eq, hfields]

/-! ## Relationships and directives -/

theorem Relationship.ofDecl?_of_wellFormed {d : Document} {r : RelationshipDecl} (h : r.WellFormed d) :
    ∃ c, Cardinality.ofName? r.cardinality = some c ∧
      Relationship.ofDecl? r = some ⟨c, .ofDecl r.source, .ofDecl r.target⟩ := by
  obtain ⟨c, hc⟩ := h.known
  exact ⟨c, hc, by rw [Relationship.ofDecl?, hc]; rfl⟩

theorem Subject.ofTopic?_of_takes {topic : Topic} {value : Option String} (h : topic.Takes value) :
    ∃ subject, Subject.ofTopic? topic value = some subject ∧ subject.topic = topic ∧ subject.value? = value := by
  cases topic with
  | flag f => exact ⟨.flag f, rfl, rfl, h.symm⟩
  | setting o =>
    obtain ⟨v, rfl, -⟩ := h
    exact ⟨.setting o v, rfl, rfl, rfl⟩

/-- a subject is settled by its name and its value -/
theorem Subject.eq_of_name {a b : Subject} (hn : a.topic.name = b.topic.name) (hv : a.value? = b.value?) : a = b := by
  have htopic := Topic.name_injective hn
  cases a <;> cases b <;> simp_all [Subject.topic, Subject.value?]

/-- what a directive says does not depend on the entities there are; only its targets do -/
theorem Directive.ofDecl?_of_wellFormed {d : Document} {x : DirectiveDecl} (h : x.WellFormed d) :
    ∃ subject : Subject, subject.topic.name = x.name ∧ subject.value? = x.value ∧
      ∀ entities, Directive.ofDecl? entities x =
        some ⟨subject, .ofList (x.resolvedTargets entities), .ofList x.excluded⟩ := by
  obtain ⟨topic, hn, hv⟩ := h.known
  obtain ⟨subject, hs, rfl, hvalue⟩ := Subject.ofTopic?_of_takes hv
  refine ⟨subject, hn, hvalue, fun entities => ?_⟩
  rw [Directive.ofDecl?, Topic.ofName?_iff.2 hn, Option.bind_some, hs]
  rfl

/-! ## Models -/

variable (t : Storage) (d : Document)

theorem Document.keys_entities_build : (d.build t).entities.keys = d.entityNames.eraseDups := by
  simp only [Document.build, Keyed.keys_ofList, List.map_map]
  congr 1
  exact List.map_congr_left fun e _ => Entity.name_ofDecl t d.names e

theorem Document.keys_enumerations_build : (d.build t).enumerations.keys = d.enumerationNames.eraseDups := by
  simp only [Document.build, Keyed.keys_ofList, List.map_map]
  rfl

/-- directives are resolved among all entities of the model -/
theorem Document.directives_build :
    (d.build t).directives = d.directives.filterMap (Directive.ofDecl? (d.build t).entityNames) := rfl

end EntitySchema
