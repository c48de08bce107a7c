/-
What the technology has to do with a model. A type name may be that of a builtin type for one technology and of an
enumeration for another, so the models of one document may differ in the types of their fields. They differ in nothing
else, and a model is written with the names of its types, so that its text is the same.

Two technologies that can hold the same types accept the same documents, with the same models, and refuse the others
with problems of the same kind.

- `Model.retyped`: a model with other types in its fields.
- `Document.build_retyped`: for another technology, the types of the fields are other types of the same names.
- `Model.toValue_retyped`: this does not show in the text.
- `Document.check_sameTypes`: the same types, the same refusals.
- `compile_acrossStorages`: text, model and refusals of a document for different technologies.
-/
import EntitySchema.Model.Text
import EntitySchema.Proofs.Agreement
import EntitySchema.Proofs.Correspondence
import EntitySchema.Proofs.Refusals
import EntitySchema.Proofs.WellTyped

namespace EntitySchema

open Outcome

/-! ## Other types -/

def Field.retyped (g : FieldType → FieldType) (f : Field) : Field := { f with type := g f.type }

theorem Field.name_retyped (g : FieldType → FieldType) (f : Field) : (f.retyped g).name = f.name := rfl

def Entity.retyped (g : FieldType → FieldType) (e : Entity) : Entity :=
  { e with fields := e.fields.mapRows (Field.retyped g) (Field.name_retyped g) }

theorem Entity.name_retyped (g : FieldType → FieldType) (e : Entity) : (e.retyped g).name = e.name := rfl

/-- the model with other types in the fields of its entities -/
def Model.retyped (g : FieldType → FieldType) (m : Model) : Model :=
  { m with entities := m.entities.mapRows (Entity.retyped g) (Entity.name_retyped g) }

variable {g : FieldType → FieldType}

theorem Field.toValue_retyped (hg : ∀ type, (g type).name = type.name) (f : Field) :
    (f.retyped g).toValue = f.toValue := by
  simp only [Field.toValue, Field.retyped, hg]

theorem Entity.toValue_retyped (hg : ∀ type, (g type).name = type.name) (e : Entity) :
    (e.retyped g).toValue = e.toValue := by
  have hfields : (e.retyped g).fields.rows.map (fun f => (f.name, f.toValue)) =
      e.fields.rows.map fun f => (f.name, f.toValue) := by
    simp only [Entity.retyped, Keyed.mapRows, List.map_map]
    exact List.map_congr_left fun f _ => congrArg (Prod.mk f.name) (Field.toValue_retyped hg f)
  rw [Entity.toValue, hfields]
  rfl

/-- **A model is written with the names of its types.** -/
theorem Model.toValue_retyped (hg : ∀ type, (g type).name = type.name) (m : Model) :
    (m.retyped g).toValue = m.toValue := by
  have hentities : (m.retyped g).entities.rows.map (fun e => (e.name, e.toValue)) =
      m.entities.rows.map fun e => (e.name, e.toValue) := by
    simp only [Model.retyped, Keyed.mapRows, List.map_map]
    exact List.map_congr_left fun e _ => congrArg (Prod.mk e.name) (Entity.toValue_retyped hg e)
  rw [Model.toValue, hentities]
  rfl

/-! ## Agreement with a model of other types -/

theorem Field.agrees_retyped {f : Field} : f.agrees (f.retyped g) = true ↔ g f.type = f.type := by
  have hrules : f.rules.agrees (fun r s => r == s) f.rules = true := Keyed.agrees_self.2 fun r _ => beq_self_eq_true r
  simp only [Field.agrees, Field.retyped, hrules, BEq.rfl, Bool.true_and, Bool.and_true, beq_iff_eq]
  exact eq_comm

theorem Entity.agrees_retyped {e : Entity} :
    e.agrees (e.retyped g) = true ↔ ∀ f ∈ e.fields.rows, g f.type = f.type := by
  simp only [Entity.agrees, Entity.retyped, BEq.rfl, Bool.true_and, Bool.and_true]
  rw [Keyed.agrees_mapRows]
  exact forall₂_congr fun f _ => Field.agrees_retyped

theorem Model.agrees_retyped {m : Model} :
    m.agrees (m.retyped g) = true ↔ ∀ e ∈ m.entities.rows, ∀ f ∈ e.fields.rows, g f.type = f.type := by
  have henumerations : m.enumerations.agrees (fun a b => a == b) m.enumerations = true :=
    Keyed.agrees_self.2 fun e _ => beq_self_eq_true e
  have hdirectives : agreeInOrder Directive.agrees m.directives m.directives = true :=
    agreeInOrder_iff.2 (List.forall₂_same.2 fun x _ => x.agrees_self)
  simp only [Model.agrees, Model.retyped, henumerations, hdirectives, BEq.rfl, Bool.and_true]
  rw [Keyed.agrees_mapRows]
  exact forall₂_congr fun e _ => Entity.agrees_retyped

/-- types that stay as they are leave the model as it is -/
theorem Model.retyped_eq_self {m : Model} (h : ∀ e ∈ m.entities.rows, ∀ f ∈ e.fields.rows, g f.type = f.type) :
    m.retyped g = m := by
  have hentity : ∀ e ∈ m.entities.rows, e.retyped g = e := by
    intro e he
    have hfield : ∀ f ∈ e.fields.rows, f.retyped g = f := by
      intro f hf
      rw [Field.retyped, h e he f hf]
    have hfields : e.fields.mapRows (Field.retyped g) (Field.name_retyped g) = e.fields :=
      Keyed.ext_rows ((List.map_congr_left hfield).trans (List.map_id _))
    rw [Entity.retyped, hfields]
  have hentities : m.entities.mapRows (Entity.retyped g) (Entity.name_retyped g) = m.entities :=
    Keyed.ext_rows ((List.map_congr_left hentity).trans (List.map_id _))
  rw [Model.retyped, hentities]

/-! ## The types of another technology -/

/-- the type that the technology knows under the name of a type, if it knows one -/
def Document.typeFor (t : Storage) (d : Document) (type : FieldType) : FieldType :=
  (d.names.fieldType? t type.name).getD type

variable {t t' : Storage} {d : Document}

theorem Document.typeFor_of_denotes {type type' : FieldType} (h : d.Denotes t' type.name type') :
    d.typeFor t' type = type' := by
  rw [typeFor, fieldType?_iff.2 h]
  rfl

theorem Document.name_typeFor (type : FieldType) : (d.typeFor t' type).name = type.name := by
  unfold typeFor
  cases h : d.names.fieldType? t' type.name with
  | none => rfl
  | some type' => exact (fieldType?_iff.1 h).name_eq

theorem Field.ofDecl?_retyped {f : FieldDecl} (h : f.WellFormed t d) (h' : f.WellFormed t' d) :
    Field.ofDecl? t' d.names f = (Field.ofDecl? t d.names f).map (Field.retyped (d.typeFor t')) := by
  obtain ⟨type, htype, -⟩ := h.typed
  obtain ⟨type', htype', -⟩ := h'.typed
  have hother : d.typeFor t' type = type' := Document.typeFor_of_denotes (htype.name_eq ▸ htype')
  rw [Field.ofDecl?_of_denotes htype, Field.ofDecl?_of_denotes htype', Option.map_some, Field.retyped, hother]

theorem Entity.ofDecl_retyped {e : EntityDecl} (h : e.WellFormed t d) (h' : e.WellFormed t' d) :
    Entity.ofDecl t' d.names e = (Entity.ofDecl t d.names e).retyped (d.typeFor t') := by
  have hfields : e.ownFields.filterMap (Field.ofDecl? t' d.names) =
      (e.ownFields.filterMap (Field.ofDecl? t d.names)).map (Field.retyped (d.typeFor t')) := by
    rw [List.map_filterMap]
    exact List.filterMap_congr fun f hf => Field.ofDecl?_retyped (h.fields f hf) (h'.fields f hf)
  rw [Entity.ofDecl_eq, Entity.ofDecl_eq, hfields, Keyed.ofList_map (Field.name_retyped _)]
  rfl

/-- **Only types differ.** The model of a document for another technology has the types in its fields that this one knows
under their names. -/
theorem Document.build_retyped (h : d.WellFormed t) (h' : d.WellFormed t') :
    d.build t' = (d.build t).retyped (d.typeFor t') := by
  have hrows : d.entities.map (Entity.ofDecl t' d.names) =
      (d.entities.map (Entity.ofDecl t d.names)).map (Entity.retyped (d.typeFor t')) := by
    rw [List.map_map]
    exact List.map_congr_left fun e he => Entity.ofDecl_retyped (h.entities e he) (h'.entities e he)
  have hdirectives : (d.build t').directives = (d.build t).directives := by
    rw [d.directives_build, d.directives_build, Model.entityNames, Model.entityNames, d.keys_entities_build,
      d.keys_entities_build]
  have hentities : (d.build t').entities = ((d.build t).retyped (d.typeFor t')).entities := by
    simp only [Document.build, hrows]
    exact Keyed.ofList_map (Entity.name_retyped _) _
  rw [Model.mk.injEq]
  exact ⟨hentities, rfl, rfl, hdirectives⟩

/-! ## Names that only one of two technologies knows -/

/-- an enumeration of the model has the name, and so has a builtin type of one of the two technologies, not of both -/
def Model.Contested (t t' : Storage) (m : Model) (n : String) : Prop :=
  n ∈ m.enumerations.keys ∧ t.isBuiltin n ≠ t'.isBuiltin n

instance (t t' : Storage) (m : Model) (n : String) : Decidable (m.Contested t t' n) := by
  unfold Model.Contested
  infer_instance

theorem Storage.isBuiltin_iff {n : String} : t.isBuiltin n = true ↔ ∃ b ∈ t.types, b.name = n := by
  simp only [isBuiltin, Option.isSome_iff_exists, builtin?_iff]

theorem Document.Denotes.isBuiltin_iff {n : String} {type : FieldType} (h : d.Denotes t n type) :
    t.isBuiltin n = true ↔ ∃ b, type = .builtin b := by
  rw [Storage.isBuiltin_iff]
  cases h with
  | builtin b hb => exact ⟨fun _ => ⟨b, rfl⟩, fun _ => ⟨b, hb, rfl⟩⟩
  | enumeration _ hfree =>
    constructor
    · rintro ⟨b, hb, hn⟩
      exact absurd hn (hfree b hb)
    · rintro ⟨b, hb⟩
      cases hb

theorem Document.Denotes.mem_enumerationNames {n s : String} (h : d.Denotes t n (.enumeration s)) :
    n ∈ d.enumerationNames := by
  cases h with
  | enumeration _ _ hn => exact hn

/-- a name means the same for two technologies unless an enumeration and a builtin type of just one of them have it -/
theorem Document.Denotes.eq_iff {n : String} {type type' : FieldType} (h : d.Denotes t n type)
    (h' : d.Denotes t' n type') :
    type' = type ↔ ¬(n ∈ d.enumerationNames ∧ t.isBuiltin n ≠ t'.isBuiltin n) := by
  have hname : type'.name = type.name := h'.name_eq.trans h.name_eq.symm
  rw [Ne, Bool.eq_iff_iff, h.isBuiltin_iff, h'.isBuiltin_iff]
  cases type with
  | builtin b =>
    cases type' with
    | builtin b' => simpa using Builtin.name_injective hname
    | enumeration s => simpa using h'.mem_enumerationNames
  | enumeration s =>
    cases type' with
    | builtin b' => simpa using h.mem_enumerationNames
    | enumeration s' => simpa [FieldType.name] using hname

/-- **Where models differ.** The types of a model are those that another technology knows under their names, unless a name
is contested. -/
theorem Document.typeFor_eq_iff (h : d.WellFormed t) (h' : d.WellFormed t') {e : Entity}
    (he : e ∈ (d.build t).entities.rows) {f : Field} (hf : f ∈ e.fields.rows) :
    d.typeFor t' f.type = f.type ↔ ¬ (d.build t).Contested t t' f.type.name := by
  obtain ⟨decl, hdecl, hdescribes⟩ := (describes_build h).entity_row he
  obtain ⟨field, hfield, hff⟩ := forall₂_exists_of_mem_right hdescribes.fields hf
  obtain ⟨type', htype', -⟩ := ((h'.entities decl hdecl).fields field hfield).typed
  rw [typeFor_of_denotes (hff.typeName ▸ htype'), hff.type.eq_iff htype', Model.Contested, d.keys_enumerations_build,
    List.mem_eraseDups, hff.typeName]

/-! ## The same types -/

theorem Names.fieldType?_sameTypes (htypes : t.types = t'.types) (names : Names) (n : String) :
    names.fieldType? t n = names.fieldType? t' n := by
  simp only [Names.fieldType?, Storage.builtin?, htypes]

/-- the problems differ in the technology that they name, not in their kinds -/
theorem Document.checkNamedField_sameTypes (htypes : t.types = t'.types) (names : Names) (entity : String)
    (earlier : List FieldDecl) (f : FieldDecl) :
    (checkNamedField t names entity earlier f).mapError Problem.kind =
      (checkNamedField t' names entity earlier f).mapError Problem.kind := by
  simp only [checkNamedField, mapError_andThen, checkField, Names.fieldType?_sameTypes htypes]
  cases names.fieldType? t' f.type <;> rfl

/-- **The same types, the same refusals.** Where two technologies can hold the same types, a document passes both checks
or fails them with problems of the same kind. -/
theorem Document.check_sameTypes (htypes : t.types = t'.types) (d : Document) :
    (d.check t).mapError Problem.kind = (d.check t').mapError Problem.kind := by
  have hentity : ∀ e, (checkEntity t d.names e).mapError Problem.kind =
      (checkEntity t' d.names e).mapError Problem.kind := by
    intro e
    simp only [checkEntity, mapError_eachAfter, checkNamedField_sameTypes htypes]
  simp only [check, checkUses, mapError_andThen, each, mapError_eachAfter, hentity]

theorem Document.build_sameTypes (htypes : t.types = t'.types) (d : Document) : d.build t = d.build t' := by
  have hfield : Field.ofDecl? t d.names = Field.ofDecl? t' d.names := by
    funext f
    rw [Field.ofDecl?, Field.ofDecl?, Names.fieldType?_sameTypes htypes]
  have hentity : Entity.ofDecl t d.names = Entity.ofDecl t' d.names := by
    funext e
    rw [Entity.ofDecl, Entity.ofDecl, hfield]
  rw [Document.build, Document.build, hentity]

/-! ## Compiled models -/

/-- for a technology there is, compiling is checking and building -/
theorem compile_name (d : Document) (t : Storage) :
    compile (some d) (some t.name) = (d.check t).map fun _ => d.build t := by
  have hselected : Storage.select t.name = .ok t := Storage.select_eq_ok.2 rfl
  rw [compile_eq_bind, hselected]
  rfl

/-- **Technologies.** The models of a document for two technologies have the same text. They are the same, and also agree,
exactly when no field has a contested type name. The technologies `sql` and `mongodb` accept the same documents, with the
same models, and refuse the others with problems of the same kind. -/
theorem compile_acrossStorages (document : Option Document) :
    (∀ (t t' : Storage) (m m' : Model),
      compile document (some t.name) = .ok m → compile document (some t'.name) = .ok m' →
        m.render = m'.render ∧
        (m = m' ↔ ∀ e ∈ m.entities.rows, ∀ f ∈ e.fields.rows, ¬ m.Contested t t' f.type.name) ∧
        (m.agrees m' = true ↔ ∀ e ∈ m.entities.rows, ∀ f ∈ e.fields.rows, ¬ m.Contested t t' f.type.name)) ∧
      (compile document (some "sql")).mapError Problem.kind =
        (compile document (some "mongodb")).mapError Problem.kind := by
  rcases document with _ | d
  · refine ⟨?_, rfl⟩
    intro t t' m m' hm
    cases hm
  refine ⟨fun t t' m m' hm hm' => ?_, ?_⟩
  · obtain ⟨s, hs, hwf, rfl⟩ := compile_eq_ok.1 hm
    obtain ⟨s', hs', hwf', rfl⟩ := compile_eq_ok.1 hm'
    cases Storage.name_injective hs
    cases Storage.name_injective hs'
    have htypes : (∀ e ∈ (d.build t).entities.rows, ∀ f ∈ e.fields.rows, d.typeFor t' f.type = f.type) ↔
        ∀ e ∈ (d.build t).entities.rows, ∀ f ∈ e.fields.rows, ¬ (d.build t).Contested t t' f.type.name :=
      forall₂_congr fun e he => forall₂_congr fun f hf => Document.typeFor_eq_iff hwf hwf' he hf
    have hagrees : (d.build t).agrees ((d.build t).retyped (d.typeFor t')) = true ↔ _ := Model.agrees_retyped
    -- the second model is the first one with the type of each field read again from its name
    rw [Document.build_retyped hwf hwf', ← htypes]
    refine ⟨?_, ⟨fun heq => ?_, fun h => (Model.retyped_eq_self h).symm⟩, hagrees⟩
    · rw [Model.render, Model.render, Model.toValue_retyped Document.name_typeFor]
    · -- equal models agree, since a model that is not retyped agrees with itself
      rw [← hagrees, ← heq]
      exact Model.agrees_self _
  · have htypes : Storage.types .sql = Storage.types .mongodb := rfl
    calc (compile (some d) (some "sql")).mapError Problem.kind
        = ((d.check .sql).map fun _ => d.build .sql).mapError Problem.kind := by rw [← compile_name]; rfl
      _ = ((d.check .mongodb).map fun _ => d.build .mongodb).mapError Problem.kind := by
          rw [mapError_map, mapError_map, Document.check_sameTypes htypes, Document.build_sameTypes htypes]
      _ = (compile (some d) (some "mongodb")).mapError Problem.kind := by rw [← compile_name]; rfl

/-- a field whose type is an enumeration for `sql` and a builtin type for `cassandra`, and one of a type that both have -/
def twoReadings : Document where
  entities := [
    { name := "A", fields := [
      { name := "u", type := "UUID", clauses := [{ key := "required" }] },
      { name := "s", type := "String" }] }]
  enumerations := [{ name := "UUID", values := ["unset"] }]

theorem twoReadings_sameText :
    compile (some twoReadings) (some "sql") = .ok (twoReadings.build .sql) ∧
      compile (some twoReadings) (some "cassandra") = .ok (twoReadings.build .cassandra) ∧
      (twoReadings.build .sql).render = (twoReadings.build .cassandra).render ∧
      (twoReadings.build .sql).agrees (twoReadings.build .cassandra) = false := by
  have hsql : compile (some twoReadings) (some Storage.sql.name) = .ok (twoReadings.build .sql) :=
    compile_eq_ok.2 ⟨.sql, rfl, by decide +kernel, rfl⟩
  have hcassandra : compile (some twoReadings) (some Storage.cassandra.name) = .ok (twoReadings.build .cassandra) :=
    compile_eq_ok.2 ⟨.cassandra, rfl, by decide +kernel, rfl⟩
  obtain ⟨htext, -, hagrees⟩ := (compile_acrossStorages (some twoReadings)).1 _ _ _ _ hsql hcassandra
  refine ⟨hsql, hcassandra, htext, ?_⟩
  rw [← Bool.not_eq_true, hagrees]
  decide +kernel

end EntitySchema
