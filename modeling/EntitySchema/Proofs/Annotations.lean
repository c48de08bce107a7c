/-
Annotations: comments, names of tables, and what an end of a relationship says besides its entity, namely a field to
inject, a comment and whether it is required. They are handed on to generators and mean nothing to the compiler. So it
makes no difference whether they are left out of a document or of its model, and documents that differ in nothing else
are refused with the same problem or have models that differ in nothing else.

- `Document.bare`, `Model.bare`: documents and models without annotations.
- `Document.check_bare`: no check looks at one.
- `Document.build_bare`: building hands them on.
- `compile_bare`: the outcome without annotations.
- `compile_sameBare`: two documents that differ in annotations.
-/
import EntitySchema.Proofs.Build
import EntitySchema.Proofs.Correspondence

namespace EntitySchema

/-! ## Documents without annotations -/

/-- the field without its comment -/
def FieldDecl.bare (f : FieldDecl) : FieldDecl := { f with comment := none }

/-- the entity without its table, its comment and those of its fields -/
def EntityDecl.bare (e : EntityDecl) : EntityDecl :=
  { e with table := none, fields := e.fields.map FieldDecl.bare, comment := none }

/-- the end with its entity only -/
def EndDecl.bare (e : EndDecl) : EndDecl := { entity := e.entity }

/-- the relationship with the entities of its ends only -/
def RelationshipDecl.bare (r : RelationshipDecl) : RelationshipDecl :=
  { r with source := r.source.bare, target := r.target.bare }

/-- the document without annotations -/
def Document.bare (d : Document) : Document :=
  { d with entities := d.entities.map EntityDecl.bare, relationships := d.relationships.map RelationshipDecl.bare }

/-! ## Models without annotations -/

def Field.bare (f : Field) : Field := { f with comment := none }

theorem Field.name_bare (f : Field) : f.bare.name = f.name := rfl

/-- the entity without its comment and those of its fields; its table has its name -/
def Entity.bare (e : Entity) : Entity :=
  { e with table := e.name, fields := e.fields.mapRows Field.bare Field.name_bare, comment := none }

theorem Entity.name_bare (e : Entity) : e.bare.name = e.name := rfl

def End.bare (e : End) : End := { entity := e.entity }

def Relationship.bare (r : Relationship) : Relationship :=
  { r with source := r.source.bare, target := r.target.bare }

/-- the model without annotations -/
def Model.bare (m : Model) : Model :=
  { m with
    entities := m.entities.mapRows Entity.bare Entity.name_bare
    relationships := m.relationships.map Relationship.bare }

/-! ## Checks -/

section Checks

variable {t : Storage} {names : Names}

theorem EntityDecl.ownFields_bare (e : EntityDecl) : e.bare.ownFields = e.ownFields.map FieldDecl.bare := by
  rw [ownFields, bare, List.filter_map]
  rfl

theorem Document.checkEntity_bare (e : EntityDecl) : checkEntity t names e.bare = checkEntity t names e := by
  have hfield : ∀ earlier earlier' (f g : FieldDecl), List.Forall₂ (fun f g => f.bare = g) earlier earlier' →
      f.bare = g → checkNamedField t names e.name earlier f = checkNamedField t names e.name earlier' g := by
    intro earlier earlier' f g hearlier hfg
    -- of the earlier fields only the names matter
    have hnames : earlier.map FieldDecl.name = earlier'.map FieldDecl.name := by
      apply map_eq_of_forall₂ hearlier
      intro f g hfg
      rw [← hfg]
      rfl
    rw [← hfg, checkNamedField, checkNamedField, hnames]
    rfl
  have hfields : List.Forall₂ (fun f g => f.bare = g) e.ownFields (e.ownFields.map FieldDecl.bare) :=
    List.forall₂_map_right_iff.2 (List.forall₂_same.2 fun _ _ => rfl)
  rw [checkEntity, checkEntity, e.ownFields_bare]
  exact (Outcome.eachAfter_congr hfield .nil hfields).symm

theorem Document.checkRelationship_bare (r : RelationshipDecl) :
    checkRelationship names r.bare = checkRelationship names r := rfl

/-- **No check looks at an annotation.** -/
theorem Document.check_bare (d : Document) : d.bare.check t = d.check t := by
  have hentities : List.Forall₂ (fun a b => a.name = b.name ∧ ∀ names, checkEntity t names a = checkEntity t names b)
      d.bare.entities d.entities := by
    apply List.forall₂_map_left_iff.2
    exact List.forall₂_same.2 fun e _ => ⟨rfl, fun _ => checkEntity_bare e⟩
  have hrelationships : List.Forall₂ (fun r s => ∀ names, checkRelationship names r = checkRelationship names s)
      d.bare.relationships d.relationships := by
    apply List.forall₂_map_left_iff.2
    exact List.forall₂_same.2 fun r _ _ => checkRelationship_bare r
  exact Document.check_congr hentities rfl hrelationships rfl

end Checks

/-! ## Building -/

section Building

variable {t : Storage} {names : Names}

theorem filterMap_map_comm {α β : Type} {f : α → α} {g : β → β} {build : α → Option β}
    (h : ∀ a, build (f a) = (build a).map g) (xs : List α) :
    (xs.map f).filterMap build = (xs.filterMap build).map g := by
  rw [List.filterMap_map, List.map_filterMap]
  exact List.filterMap_congr fun a _ => h a

theorem Field.ofDecl?_bare (f : FieldDecl) :
    Field.ofDecl? t names f.bare = (Field.ofDecl? t names f).map Field.bare := by
  rw [Field.ofDecl?_eq, Field.ofDecl?_eq, Option.map_map]
  rfl

theorem Entity.ofDecl_bare (e : EntityDecl) : Entity.ofDecl t names e.bare = (Entity.ofDecl t names e).bare := by
  rw [Entity.ofDecl_eq, Entity.ofDecl_eq, e.ownFields_bare, filterMap_map_comm Field.ofDecl?_bare,
    Keyed.ofList_map Field.name_bare]
  rfl

theorem Relationship.ofDecl?_bare (r : RelationshipDecl) :
    Relationship.ofDecl? r.bare = (Relationship.ofDecl? r).map Relationship.bare := by
  rw [Relationship.ofDecl?, Relationship.ofDecl?, Option.map_map]
  rfl

theorem Document.names_bare (d : Document) : d.bare.names = d.names := by
  have hentities : d.bare.entityNames = d.entityNames := by
    rw [entityNames, entityNames, bare, List.map_map]
    rfl
  exact names_congr hentities rfl

/-- **Building hands annotations on.** Without them a document has the model without them. -/
theorem Document.build_bare (d : Document) : d.bare.build t = (d.build t).bare := by
  have hrows : d.bare.entities.map (Entity.ofDecl t d.bare.names) =
      (d.entities.map (Entity.ofDecl t d.names)).map Entity.bare := by
    rw [d.names_bare, bare, List.map_map, List.map_map]
    exact List.map_congr_left fun e _ => Entity.ofDecl_bare e
  have hentities : (d.bare.build t).entities = (d.build t).bare.entities := by
    simp only [build, hrows]
    exact Keyed.ofList_map Entity.name_bare _
  have hrelationships : (d.bare.build t).relationships = (d.build t).bare.relationships :=
    filterMap_map_comm Relationship.ofDecl?_bare d.relationships
  have hdirectives : (d.bare.build t).directives = (d.build t).bare.directives := by
    have hnames : (d.bare.build t).entityNames = (d.build t).entityNames := by
      rw [Model.entityNames, hentities, Model.bare, Keyed.keys_mapRows]
      rfl
    rw [directives_build, hnames]
    rfl
  rw [Model.mk.injEq]
  exact ⟨hentities, rfl, hrelationships, hdirectives⟩

end Building

/-! ## Compiling -/

variable {d e : Document}

/-- **Annotations and meaning.** What comes out without annotations is what comes out with them, less the annotations of
the model. -/
theorem compile_bare (d : Document) (storage : Option String) :
    compile (some d.bare) storage = (compile (some d) storage).map Model.bare := by
  cases storage with
  | none => rfl
  | some name =>
    rw [compile_eq_bind, compile_eq_bind]
    cases Storage.select name with
    | error p => rfl
    | ok t =>
      simp only [Except.bind, d.check_bare, d.build_bare]
      cases d.check t <;> rfl

/-- **Annotations make no difference.** Two documents that differ in annotations only are both refused, with the same
problem, or both accepted, and then their models differ in annotations only. -/
theorem compile_sameBare (h : d.bare = e.bare) (storage : Option String) :
    (∃ p, compile (some d) storage = .error p ∧ compile (some e) storage = .error p) ∨
      ∃ m n, compile (some d) storage = .ok m ∧ compile (some e) storage = .ok n ∧ m.bare = n.bare := by
  have houtcomes : (compile (some d) storage).map Model.bare = (compile (some e) storage).map Model.bare := by
    rw [← compile_bare, ← compile_bare, h]
  cases hd : compile (some d) storage with
  | error p =>
    rw [hd] at houtcomes
    exact .inl ⟨p, rfl, Outcome.map_eq_error.1 houtcomes.symm⟩
  | ok m =>
    rw [hd] at houtcomes
    obtain ⟨n, hn, hbare⟩ := Outcome.map_eq_ok.1 houtcomes.symm
    exact .inr ⟨m, n, rfl, hn, hbare.symm⟩

/-- `A`, its field of this type and its relationship to itself, with the note wherever there may be one -/
def noted (type : String) (note : Option String) (required : Bool) : Document where
  entities := [{ name := "A", table := note, fields := [{ name := "n", type, comment := note }], comment := note }]
  relationships := [{
    cardinality := "OneToMany"
    source := { entity := "A", injected := note, comment := note, required }
    target := { entity := "A" } }]

theorem noted_alike :
    (∃ m n, compile (some (noted "String" (some "a") true)) (some "sql") = .ok m ∧
      compile (some (noted "String" none false)) (some "sql") = .ok n ∧ m ≠ n ∧ m.bare = n.bare) ∧
    ∃ p, compile (some (noted "Text" (some "a") true)) (some "sql") = .error p ∧
      compile (some (noted "Text" none false)) (some "sql") = .error p := by
  have hbare : ∀ type, (noted type (some "a") true).bare = (noted type none false).bare := fun _ => rfl
  have haccepted : compile (some (noted "String" (some "a") true)) (some "sql") =
      .ok ((noted "String" (some "a") true).build .sql) := by
    decide +kernel
  have hrefused : compile (some (noted "Text" none false)) (some "sql") =
      .error (.unknownType .sql "A" "n" "Text") := by
    decide +kernel
  constructor
  · rcases compile_sameBare (hbare "String") (some "sql") with ⟨p, hp, -⟩ | ⟨m, n, hm, hn, hmn⟩
    · rw [haccepted] at hp
      cases hp
    · refine ⟨m, n, hm, hn, ?_, hmn⟩
      intro hsame
      rw [hsame, ← hn] at hm
      exact absurd hm (by decide +kernel)
  · rcases compile_sameBare (hbare "Text") (some "sql") with h | ⟨m, n, -, hn, -⟩
    · exact h
    · rw [hrefused] at hn
      cases hn

end EntitySchema
