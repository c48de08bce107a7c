/-
The order of declarations. Entities and enumerations go anywhere as long as those of one name stay in order; fields,
clauses, relationships, directives and the names in a directive go anywhere at all. A document is then accepted for the
same technologies as before, and its model says the same: tables agree in any order of their rows, relationships and
directives are those of before in the new order.

- `Document.Reordered`: a document in another order, from clauses to declarations.
- `Document.Reordered.wellFormed_iff`: the rules of declarations know no order.
- `Entity.agrees_of_reordered`, `Directive.agrees_of_reordered`: what is built from reordered declarations agrees.
- `Document.Reordered.build`: the two models.
- `compile_reordered`: a document in another order compiles when the document does, and to the same model.
-/
import EntitySchema.Model.Agreement
import EntitySchema.Proofs.Acceptance
import EntitySchema.Proofs.Build
import EntitySchema.Proofs.Orders

namespace EntitySchema

/-! ## Other orders -/

/-- the field with its clauses in another order -/
structure FieldDecl.Reordered (f g : FieldDecl) : Prop where
  name : f.name = g.name
  type : f.type = g.type
  comment : f.comment = g.comment
  clauses : f.clauses.Perm g.clauses

/-- the entity with its fields in another order, and each field with its clauses in another order -/
structure EntityDecl.Reordered (a b : EntityDecl) : Prop where
  name : a.name = b.name
  table : a.table = b.table
  comment : a.comment = b.comment
  fields : ∃ fs, a.fields.Perm fs ∧ List.Forall₂ FieldDecl.Reordered fs b.fields

/-- the directive with the names in it in another order -/
structure DirectiveDecl.Reordered (x y : DirectiveDecl) : Prop where
  name : x.name = y.name
  value : x.value = y.value
  targets : x.targets.Perm y.targets
  excluded : x.excluded.Perm y.excluded

/-- the document with all declarations in another order: entities and enumerations of one name stay in order, `p` and `q`
say where relationships and directives go -/
structure Document.Reordered (p q : List ℕ) (d e : Document) : Prop where
  entities : ∃ es, KeepsOrder EntityDecl.name d.entities es ∧ List.Forall₂ EntityDecl.Reordered es e.entities
  enumerations : KeepsOrder EnumDecl.name d.enumerations e.enumerations
  relationshipPlaces : p.Perm (List.range d.relationships.length)
  relationships : e.relationships = arrange p d.relationships
  directivePlaces : q.Perm (List.range d.directives.length)
  directives : List.Forall₂ DirectiveDecl.Reordered (arrange q d.directives) e.directives

/-- tables that agree, and relationships and directives in the order of `p` and `q` -/
structure Model.Reordered (p q : List ℕ) (m n : Model) : Prop where
  entities : m.entities.agrees Entity.agrees n.entities = true
  enumerations : m.enumerations.agrees (fun a b => a == b) n.enumerations = true
  relationshipPlaces : p.Perm (List.range m.relationships.length)
  relationships : n.relationships = arrange p m.relationships
  directivePlaces : q.Perm (List.range m.directives.length)
  directives : List.Forall₂ (fun a b => Directive.agrees a b = true) (arrange q m.directives) n.directives

/-! ## Acceptance -/

variable {t : Storage} {d e : Document}

theorem forall₂_forall_iff {α β : Type} {R : α → β → Prop} {P : α → Prop} {Q : β → Prop} {xs : List α} {ys : List β}
    (h : List.Forall₂ R xs ys) (hPQ : ∀ x y, R x y → (P x ↔ Q y)) : (∀ x ∈ xs, P x) ↔ ∀ y ∈ ys, Q y := by
  induction h with
  | nil => simp
  | cons hxy _ ih => rw [List.forall_mem_cons, List.forall_mem_cons, hPQ _ _ hxy, ih]

theorem FieldDecl.Reordered.symm {f g : FieldDecl} (h : f.Reordered g) : g.Reordered f :=
  ⟨h.name.symm, h.type.symm, h.comment.symm, h.clauses.symm⟩

theorem FieldDecl.Reordered.wellFormed {f g : FieldDecl} (h : f.Reordered g)
    (hsub : d.enumerationNames ⊆ e.enumerationNames) (hf : f.WellFormed t d) : g.WellFormed t e := by
  obtain ⟨hnamed, ⟨type, htype, hclauses⟩, hdistinct⟩ := hf.mono hsub
  refine ⟨h.name ▸ hnamed, ⟨type, h.type ▸ htype, ?_⟩, ?_⟩
  · intro c hc
    exact hclauses c (h.clauses.mem_iff.2 hc)
  · exact (h.clauses.map Clause.key).nodup_iff.1 hdistinct

theorem FieldDecl.Reordered.wellFormed_iff {f g : FieldDecl} (h : f.Reordered g)
    (hn : d.enumerationNames.Perm e.enumerationNames) : f.WellFormed t d ↔ g.WellFormed t e :=
  ⟨h.wellFormed hn.subset, h.symm.wellFormed hn.symm.subset⟩

theorem EntityDecl.Reordered.ownFields {a b : EntityDecl} (h : a.Reordered b) :
    ∃ fs, a.ownFields.Perm fs ∧ List.Forall₂ FieldDecl.Reordered fs b.ownFields := by
  obtain ⟨fs, hperm, hfs⟩ := h.fields
  refine ⟨fs.filter fun f => f.name != reservedField, hperm.filter _, ?_⟩
  exact List.rel_filter (fun f g hfg => by simp [hfg.name]) hfs

theorem EntityDecl.Reordered.wellFormed_iff {a b : EntityDecl} (h : a.Reordered b)
    (hn : d.enumerationNames.Perm e.enumerationNames) : a.WellFormed t d ↔ b.WellFormed t e := by
  obtain ⟨fs, hperm, hfs⟩ := h.ownFields
  have hfields : (∀ f ∈ a.ownFields, f.WellFormed t d) ↔ ∀ g ∈ b.ownFields, g.WellFormed t e := by
    simp only [hperm.mem_iff]
    exact forall₂_forall_iff hfs fun f g hfg => hfg.wellFormed_iff hn
  have hnames : (a.ownFields.map FieldDecl.name).Nodup ↔ (b.ownFields.map FieldDecl.name).Nodup := by
    rw [← map_eq_of_forall₂ hfs fun f g hfg => hfg.name]
    exact (hperm.map FieldDecl.name).nodup_iff
  constructor
  · intro ha
    exact ⟨h.name ▸ ha.named, hfields.1 ha.fields, hnames.1 ha.distinct⟩
  · intro hb
    exact ⟨h.name ▸ hb.named, hfields.2 hb.fields, hnames.2 hb.distinct⟩

theorem DirectiveDecl.Reordered.symm {x y : DirectiveDecl} (h : x.Reordered y) : y.Reordered x :=
  ⟨h.name.symm, h.value.symm, h.targets.symm, h.excluded.symm⟩

theorem DirectiveDecl.Reordered.wellFormed {x y : DirectiveDecl} (h : x.Reordered y)
    (hsub : d.entityNames ⊆ e.entityNames) (hx : x.WellFormed d) : y.WellFormed e := by
  obtain ⟨hknown, haimed, htargets, hexcluded⟩ := hx.mono hsub
  refine ⟨?_, ?_, ?_, ?_⟩
  · rw [← h.name, ← h.value]
    exact hknown
  · intro hy
    exact haimed (List.perm_nil.1 (hy ▸ h.targets))
  · intro n hn
    exact htargets n (h.targets.mem_iff.2 hn)
  · intro n hn
    exact hexcluded n (h.excluded.mem_iff.2 hn)

theorem DirectiveDecl.Reordered.wellFormed_iff {x y : DirectiveDecl} (h : x.Reordered y)
    (hn : d.entityNames.Perm e.entityNames) : x.WellFormed d ↔ y.WellFormed e :=
  ⟨h.wellFormed hn.subset, h.symm.wellFormed hn.symm.subset⟩

namespace Document.Reordered

variable {p q : List ℕ}

theorem entityNames (h : d.Reordered p q e) : d.entityNames.Perm e.entityNames := by
  obtain ⟨es, hes, hfs⟩ := h.entities
  rw [Document.entityNames, Document.entityNames, ← map_eq_of_forall₂ hfs fun a b hab => hab.name]
  exact hes.perm.map EntityDecl.name

theorem enumerationNames (h : d.Reordered p q e) : d.enumerationNames.Perm e.enumerationNames :=
  h.enumerations.perm.map EnumDecl.name

/-- **The rules know no order.** -/
theorem wellFormed_iff (h : d.Reordered p q e) : d.WellFormed t ↔ e.WellFormed t := by
  have hen := h.entityNames
  have hentities : (∀ a ∈ d.entities, a.WellFormed t d) ↔ ∀ b ∈ e.entities, b.WellFormed t e := by
    obtain ⟨es, hes, hfs⟩ := h.entities
    simp only [hes.perm.mem_iff]
    exact forall₂_forall_iff hfs fun a b hab => hab.wellFormed_iff h.enumerationNames
  have henumerations : (∀ a ∈ d.enumerations, a.WellFormed) ↔ ∀ b ∈ e.enumerations, b.WellFormed := by
    simp only [h.enumerations.perm.mem_iff]
  have hrelationships : (∀ r ∈ d.relationships, r.WellFormed d) ↔ ∀ r ∈ e.relationships, r.WellFormed e := by
    -- of the document only its entity names matter, which are the same both ways
    rw [h.relationships]
    simp only [(arrange_perm h.relationshipPlaces).mem_iff]
    exact forall₂_congr fun r _ => ⟨fun hr => hr.mono hen.subset, fun hr => hr.mono hen.symm.subset⟩
  have hdirectives : (∀ x ∈ d.directives, x.WellFormed d) ↔ ∀ y ∈ e.directives, y.WellFormed e := by
    simp only [← (arrange_perm h.directivePlaces).mem_iff]
    exact forall₂_forall_iff h.directives fun x y hxy => hxy.wellFormed_iff hen
  constructor
  · intro hd
    exact ⟨hentities.1 hd.entities, henumerations.1 hd.enumerations, hrelationships.1 hd.relationships,
      hdirectives.1 hd.directives⟩
  · intro he
    exact ⟨hentities.2 he.entities, henumerations.2 he.enumerations, hrelationships.2 he.relationships,
      hdirectives.2 he.directives⟩

end Document.Reordered

/-! ## What is built -/

theorem NameSet.agrees_of_perm {xs ys : List String} (h : xs.Perm ys) :
    NameSet.agrees (.ofList xs) (.ofList ys) = true := by
  refine Keyed.agrees_ofList (KeepsOrder.of_perm h fun a _ b _ hab => hab) ?_
  exact List.forall₂_same.2 fun n _ => ⟨rfl, beq_self_eq_true n⟩

theorem FieldDecl.Reordered.agrees_rules {f g : FieldDecl} (h : f.Reordered g) (hf : f.WellFormed t d) :
    Keyed.agrees (fun r s => r == s) (.ofList (f.clauses.filterMap Rule.ofClause?) : Keyed Rule.constraint)
      (.ofList (g.clauses.filterMap Rule.ofClause?)) = true := by
  have hperm : (f.clauses.filterMap Rule.ofClause?).Perm (g.clauses.filterMap Rule.ofClause?) :=
    h.clauses.filterMap Rule.ofClause?
  refine Keyed.agrees_ofList (KeepsOrder.of_perm_of_nodup hperm hf.rules_distinct) ?_
  exact List.forall₂_same.2 fun r _ => ⟨rfl, beq_self_eq_true r⟩

theorem Field.agrees_of_reordered {f g : FieldDecl} (h : f.Reordered g) (hf : f.WellFormed t d)
    (hsub : d.enumerationNames ⊆ e.enumerationNames) :
    ∃ a b, Field.ofDecl? t d.names f = some a ∧ Field.ofDecl? t e.names g = some b ∧ a.name = b.name ∧
      a.agrees b = true := by
  obtain ⟨type, htype, -⟩ := hf.typed
  refine ⟨_, _, Field.ofDecl?_of_denotes htype, Field.ofDecl?_of_denotes (h.type ▸ htype.mono hsub), h.name, ?_⟩
  simp only [Field.agrees, Bool.and_eq_true, beq_iff_eq]
  exact ⟨⟨⟨h.name, trivial⟩, h.agrees_rules hf⟩, h.comment⟩

theorem EntityDecl.Reordered.tableName {a b : EntityDecl} (h : a.Reordered b) : a.tableName = b.tableName := by
  rw [EntityDecl.tableName, EntityDecl.tableName, h.name, h.table]

theorem Entity.agrees_of_reordered {a b : EntityDecl} (h : a.Reordered b) (ha : a.WellFormed t d)
    (hsub : d.enumerationNames ⊆ e.enumerationNames) :
    (Entity.ofDecl t d.names a).agrees (Entity.ofDecl t e.names b) = true := by
  obtain ⟨fs, hperm, hfs⟩ := h.ownFields
  have hwf : ∀ f ∈ fs, f.WellFormed t d := fun f hf => ha.fields f (hperm.mem_iff.2 hf)
  have hkeeps : KeepsOrder Field.name (a.ownFields.filterMap (Field.ofDecl? t d.names))
      (fs.filterMap (Field.ofDecl? t d.names)) :=
    KeepsOrder.of_perm_of_nodup (hperm.filterMap _) (ha.map_name_fields ▸ ha.distinct)
  have hfields : List.Forall₂ (fun x y => x.name = y.name ∧ Field.agrees x y = true)
      (fs.filterMap (Field.ofDecl? t d.names)) (b.ownFields.filterMap (Field.ofDecl? t e.names)) := by
    refine List.rel_filterMap (fun f g hfg => ?_) ((List.forall₂_and_left _ _).2 ⟨hwf, hfs⟩)
    obtain ⟨x, y, hx, hy, hxy⟩ := Field.agrees_of_reordered hfg.2 hfg.1 hsub
    rw [hx, hy]
    exact .some hxy
  rw [Entity.ofDecl_eq, Entity.ofDecl_eq]
  simp only [Entity.agrees, Bool.and_eq_true, beq_iff_eq]
  exact ⟨⟨⟨h.name, h.tableName⟩, Keyed.agrees_ofList hkeeps hfields⟩, h.comment⟩

theorem DirectiveDecl.Reordered.resolvedTargets {x y : DirectiveDecl} (h : x.Reordered y) {ns ns' : List String}
    (hn : ns.Perm ns') : (x.resolvedTargets ns).Perm (y.resolvedTargets ns') := by
  simp only [DirectiveDecl.resolvedTargets, h.targets.mem_iff, h.excluded.mem_iff]
  split_ifs
  · exact hn.filter _
  · exact h.targets

/-- directives resolved among the same entities -/
theorem Directive.agrees_of_reordered {x y : DirectiveDecl} (h : x.Reordered y) (hx : x.WellFormed d)
    (hy : y.WellFormed e) {ns ns' : List String} (hn : ns.Perm ns') :
    ∃ a b, Directive.ofDecl? ns x = some a ∧ Directive.ofDecl? ns' y = some b ∧ a.agrees b = true := by
  obtain ⟨subject, hname, hvalue, hofx⟩ := Directive.ofDecl?_of_wellFormed hx
  obtain ⟨subject', hname', hvalue', hofy⟩ := Directive.ofDecl?_of_wellFormed hy
  have hsubject : subject = subject' := by
    apply Subject.eq_of_name
    · rw [hname, hname', h.name]
    · rw [hvalue, hvalue', h.value]
  refine ⟨_, _, hofx ns, hofy ns', ?_⟩
  simp only [Directive.agrees, Bool.and_eq_true, beq_iff_eq]
  exact ⟨⟨hsubject, NameSet.agrees_of_perm (h.resolvedTargets hn)⟩, NameSet.agrees_of_perm h.excluded⟩

/-! ## Models -/

namespace Document.Reordered

variable {p q : List ℕ}

theorem agrees_entities (h : d.Reordered p q e) (hd : d.WellFormed t) :
    (d.build t).entities.agrees Entity.agrees (e.build t).entities = true := by
  obtain ⟨es, hes, hfs⟩ := h.entities
  have hwf : ∀ a ∈ es, a.WellFormed t d := fun a ha => hd.entities a (hes.perm.mem_iff.2 ha)
  refine Keyed.agrees_ofList (hes.map (Entity.name_ofDecl t d.names)) ?_
  refine List.rel_map (fun a b hab => ?_) ((List.forall₂_and_left _ _).2 ⟨hwf, hfs⟩)
  rw [Entity.name_ofDecl, Entity.name_ofDecl]
  exact ⟨hab.2.name, Entity.agrees_of_reordered hab.2 hab.1 h.enumerationNames.subset⟩

theorem agrees_enumerations (h : d.Reordered p q e) :
    (d.build t).enumerations.agrees (fun a b => a == b) (e.build t).enumerations = true := by
  have hname : ∀ a, (Enumeration.ofDecl a).name = a.name := fun _ => rfl
  refine Keyed.agrees_ofList (h.enumerations.map hname) ?_
  exact List.forall₂_same.2 fun a _ => ⟨rfl, beq_self_eq_true a⟩

theorem agrees_directives (h : d.Reordered p q e) (hd : d.WellFormed t) :
    List.Forall₂ (fun a b => Directive.agrees a b = true)
      ((arrange q d.directives).filterMap (Directive.ofDecl? (d.build t).entityNames)) (e.build t).directives := by
  have he := h.wellFormed_iff.1 hd
  -- the wildcard stands for the entities of the whole document, and these are the same in another order
  have hnames : (d.build t).entityNames.Perm (e.build t).entityNames := (Keyed.agrees_iff.1 (h.agrees_entities hd)).1
  have hwf : ∀ x ∈ arrange q d.directives, x.WellFormed d :=
    fun x hx => hd.directives x ((arrange_perm h.directivePlaces).mem_iff.1 hx)
  rw [e.directives_build]
  refine List.rel_filterMap (fun x y hxy => ?_) ((List.forall₂_and_left _ _).2 ⟨hwf, h.directives⟩)
  have hy : y.WellFormed e := hxy.2.wellFormed h.entityNames.subset hxy.1
  obtain ⟨a, b, ha, hb, hab⟩ := Directive.agrees_of_reordered hxy.2 hxy.1 hy hnames
  rw [ha, hb]
  exact .some hab

theorem build (h : d.Reordered p q e) (hd : d.WellFormed t) : Model.Reordered p q (d.build t) (e.build t) := by
  have hrelationships : ∀ r ∈ d.relationships, ∃ x, Relationship.ofDecl? r = some x := by
    intro r hr
    obtain ⟨c, -, hof⟩ := Relationship.ofDecl?_of_wellFormed (hd.relationships r hr)
    exact ⟨_, hof⟩
  have hdirectives : ∀ x ∈ d.directives, ∃ v, Directive.ofDecl? (d.build t).entityNames x = some v := by
    intro x hx
    obtain ⟨subject, -, -, hof⟩ := Directive.ofDecl?_of_wellFormed (hd.directives x hx)
    exact ⟨_, hof _⟩
  refine ⟨h.agrees_entities hd, h.agrees_enumerations, ?_, ?_, ?_, ?_⟩
  · have hlength : (d.build t).relationships.length = d.relationships.length := length_filterMap hrelationships
    rw [hlength]
    exact h.relationshipPlaces
  · calc (e.build t).relationships = (arrange p d.relationships).filterMap Relationship.ofDecl? := by
          rw [← h.relationships]; rfl
      _ = arrange p (d.build t).relationships := arrange_filterMap hrelationships p
  · have hlength : (d.build t).directives.length = d.directives.length := length_filterMap hdirectives
    rw [hlength]
    exact h.directivePlaces
  · have hvs := h.agrees_directives hd
    rwa [arrange_filterMap hdirectives] at hvs

end Document.Reordered

/-- **The order of declarations does not matter.** A document in another order is accepted for the same technologies, and
its model is that of the document in another order. -/
theorem compile_reordered {p q : List ℕ} (h : d.Reordered p q e) (s : String) :
    ((∃ n, compile (some e) (some s) = .ok n) ↔ ∃ m, compile (some d) (some s) = .ok m) ∧
      ∀ m n, compile (some d) (some s) = .ok m → compile (some e) (some s) = .ok n → Model.Reordered p q m n := by
  refine ⟨?_, ?_⟩
  · simp only [compile_eq_ok]
    constructor
    · rintro ⟨n, t, ht, he, -⟩
      exact ⟨d.build t, t, ht, h.wellFormed_iff.2 he, rfl⟩
    · rintro ⟨m, t, ht, hd, -⟩
      exact ⟨e.build t, t, ht, h.wellFormed_iff.1 hd, rfl⟩
  · intro m n hm hn
    obtain ⟨t, rfl, hd, rfl⟩ := compile_eq_ok.1 hm
    obtain ⟨t', ht, -, rfl⟩ := compile_eq_ok.1 hn
    cases Storage.name_injective ht
    exact h.build hd

/-- `A` twice and `B`, and two each of enumerations, relationships and directives -/
def inOrder : Document where
  entities := [
    { name := "A" },
    { name := "A", fields := [
      { name := "n", type := "String",
        clauses := [{ key := "required" }, { key := "pattern", argument := some (.text "a+") }] },
      { name := "c", type := "Colour" }] },
    { name := "B" }]
  enumerations := [{ name := "Colour", values := ["red"] }, { name := "Size", values := ["small"] }]
  relationships := [
    { cardinality := "OneToOne", source := { entity := "A" }, target := { entity := "B" } },
    { cardinality := "OneToMany", source := { entity := "B" }, target := { entity := "B" } }]
  directives := [
    { name := "skipClient", targets := ["A", "*"], excluded := ["B"] },
    { name := "dto", value := some "mapstruct", targets := ["B"] }]

/-- the same with the last first wherever order is free -/
def outOfOrder : Document where
  entities := [
    { name := "B" },
    { name := "A" },
    { name := "A", fields := [
      { name := "c", type := "Colour" },
      { name := "n", type := "String",
        clauses := [{ key := "pattern", argument := some (.text "a+") }, { key := "required" }] }] }]
  enumerations := [{ name := "Size", values := ["small"] }, { name := "Colour", values := ["red"] }]
  relationships := [
    { cardinality := "OneToMany", source := { entity := "B" }, target := { entity := "B" } },
    { cardinality := "OneToOne", source := { entity := "A" }, target := { entity := "B" } }]
  directives := [
    { name := "dto", value := some "mapstruct", targets := ["B"] },
    { name := "skipClient", targets := ["*", "A"], excluded := ["B"] }]

theorem inOrder_reordered : inOrder.Reordered [1, 0] [1, 0] outOfOrder := by
  have hfields : EntityDecl.Reordered (inOrder.entities[1]) (outOfOrder.entities[2]) := by
    refine ⟨rfl, rfl, rfl, _, List.Perm.swap _ _ [], ?_⟩
    exact .cons ⟨rfl, rfl, rfl, .nil⟩ (.cons ⟨rfl, rfl, rfl, List.Perm.swap _ _ []⟩ .nil)
  have hempty : ∀ name, EntityDecl.Reordered { name } { name } := fun name => ⟨rfl, rfl, rfl, [], .nil, .nil⟩
  refine ⟨⟨[inOrder.entities[2], inOrder.entities[0], inOrder.entities[1]], ?_, ?_⟩, ?_, ?_, ?_, ?_, ?_⟩
  · decide +kernel
  · exact .cons (hempty "B") (.cons (hempty "A") (.cons hfields .nil))
  · decide +kernel
  · decide
  · rfl
  · decide
  · exact .cons ⟨rfl, rfl, .refl _, .refl _⟩ (.cons ⟨rfl, rfl, List.Perm.swap _ _ [], .refl _⟩ .nil)

theorem inOrder_compiles_as_outOfOrder :
    ((∃ n, compile (some outOfOrder) (some "sql") = .ok n) ↔ ∃ m, compile (some inOrder) (some "sql") = .ok m) ∧
      compile (some inOrder) (some "sql") = .ok (inOrder.build .sql) ∧
      compile (some outOfOrder) (some "sql") = .ok (outOfOrder.build .sql) ∧
      Model.Reordered [1, 0] [1, 0] (inOrder.build .sql) (outOfOrder.build .sql) := by
  have hin : compile (some inOrder) (some "sql") = .ok (inOrder.build .sql) :=
    compile_eq_ok.2 ⟨.sql, rfl, by decide +kernel, rfl⟩
  have hout : compile (some outOfOrder) (some "sql") = .ok (outOfOrder.build .sql) :=
    compile_eq_ok.2 ⟨.sql, rfl, by decide +kernel, rfl⟩
  obtain ⟨haccepted, hmodels⟩ := compile_reordered inOrder_reordered "sql"
  exact ⟨haccepted, hin, hout, hmodels _ _ hin hout⟩

end EntitySchema
