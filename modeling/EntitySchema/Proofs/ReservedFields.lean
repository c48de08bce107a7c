/-
The reserved field. A document may declare it, also several times in one entity, with types that do not exist and with
constraints that make no sense. Nothing of it is looked at: documents that differ in reserved fields only are one to the
compiler, in what it accepts, in the problem it reports and in the model it builds.

- `FieldDecl.UpToReserved`: reserved fields are put in and taken out, at any places.
- `FieldDecl.upToReserved_iff`: that is, the other fields are the same.
- `EntityDecl.UpToReserved.checkEntity_eq`, `EntityDecl.UpToReserved.ofDecl_eq`: an entity passes the same check and is
  built alike.
- `Document.UpToReserved.check_eq`, `Document.UpToReserved.build_eq`: so is a document.
- `compile_upToReserved`: the outcomes are the same.
-/
import EntitySchema.Proofs.Build
import EntitySchema.Proofs.Correspondence

namespace EntitySchema

/-! ## Differences in reserved fields -/

/-- from `fs` to `gs`, reserved fields are put in and taken out; the others stay as they are and in order -/
inductive FieldDecl.UpToReserved : List FieldDecl → List FieldDecl → Prop where
  | nil : UpToReserved [] []
  | keep (f : FieldDecl) {fs gs : List FieldDecl} (h : UpToReserved fs gs) : UpToReserved (f :: fs) (f :: gs)
  | putIn (f : FieldDecl) (hf : f.name = reservedField) {fs gs : List FieldDecl} (h : UpToReserved fs gs) :
    UpToReserved fs (f :: gs)
  | takeOut (f : FieldDecl) (hf : f.name = reservedField) {fs gs : List FieldDecl} (h : UpToReserved fs gs) :
    UpToReserved (f :: fs) gs

/-- the entities are the same but for reserved fields -/
structure EntityDecl.UpToReserved (a b : EntityDecl) : Prop where
  name : a.name = b.name
  table : a.table = b.table
  fields : FieldDecl.UpToReserved a.fields b.fields
  comment : a.comment = b.comment

/-- the documents are the same but for reserved fields of their entities -/
structure Document.UpToReserved (d e : Document) : Prop where
  entities : List.Forall₂ EntityDecl.UpToReserved d.entities e.entities
  enumerations : d.enumerations = e.enumerations
  relationships : d.relationships = e.relationships
  directives : d.directives = e.directives

/-! ## Fields -/

section Fields

variable {f : FieldDecl} {fs gs : List FieldDecl}

def FieldDecl.isOwn (f : FieldDecl) : Bool := f.name != reservedField

theorem FieldDecl.not_isOwn_iff : ¬ f.isOwn = true ↔ f.name = reservedField := by
  simp [isOwn]

theorem FieldDecl.filter_of_reserved (hf : f.name = reservedField) : (f :: fs).filter isOwn = fs.filter isOwn :=
  List.filter_cons_of_neg (not_isOwn_iff.2 hf)

theorem FieldDecl.UpToReserved.filter_eq (h : UpToReserved fs gs) : fs.filter isOwn = gs.filter isOwn := by
  induction h with
  | nil => rfl
  | keep f _ ih => rw [List.filter_cons, List.filter_cons, ih]
  | putIn f hf _ ih => rw [filter_of_reserved hf, ih]
  | takeOut f hf _ ih => rw [filter_of_reserved hf, ih]

theorem FieldDecl.UpToReserved.putIn_all {before : List FieldDecl} (hbefore : ∀ f ∈ before, ¬ f.isOwn = true)
    (h : UpToReserved fs gs) : UpToReserved fs (before ++ gs) := by
  induction before with
  | nil => exact h
  | cons f before ih =>
    have hf : f.name = reservedField := not_isOwn_iff.1 (hbefore f List.mem_cons_self)
    exact .putIn f hf (ih fun g hg => hbefore g (List.mem_cons_of_mem f hg))

/-- **What makes no difference.** The differences are in reserved fields only when the other fields are the same. -/
theorem FieldDecl.upToReserved_iff : UpToReserved fs gs ↔ fs.filter isOwn = gs.filter isOwn := by
  constructor
  · exact UpToReserved.filter_eq
  · intro h
    induction fs generalizing gs with
    | nil =>
      have hreserved : ∀ g ∈ gs, ¬ g.isOwn = true := List.filter_eq_nil_iff.1 h.symm
      have hall : UpToReserved [] (gs ++ []) := UpToReserved.nil.putIn_all hreserved
      rwa [List.append_nil] at hall
    | cons f fs ih =>
      by_cases hf : f.isOwn = true
      · -- the field has its place in the other list, and before it stand reserved fields only
        rw [List.filter_cons_of_pos hf] at h
        obtain ⟨before, after, rfl, hbefore, -, hafter⟩ := List.filter_eq_cons_iff.1 h.symm
        exact (UpToReserved.keep f (ih hafter.symm)).putIn_all hbefore
      · rw [List.filter_cons_of_neg hf] at h
        exact .takeOut f (not_isOwn_iff.1 hf) (ih h)

instance : Decidable (FieldDecl.UpToReserved fs gs) := decidable_of_iff _ FieldDecl.upToReserved_iff.symm

end Fields

/-! ## Entities -/

section Entities

variable {a b : EntityDecl} {t : Storage} {names : Names}

theorem EntityDecl.UpToReserved.ownFields_eq (h : a.UpToReserved b) : a.ownFields = b.ownFields :=
  h.fields.filter_eq

theorem EntityDecl.UpToReserved.checkEntity_eq (h : a.UpToReserved b) :
    Document.checkEntity t names a = Document.checkEntity t names b := by
  rw [Document.checkEntity, Document.checkEntity, h.name, h.ownFields_eq]

theorem EntityDecl.UpToReserved.ofDecl_eq (h : a.UpToReserved b) :
    Entity.ofDecl t names a = Entity.ofDecl t names b := by
  have htable : a.tableName = b.tableName := by rw [tableName, tableName, h.name, h.table]
  rw [Entity.ofDecl_eq, Entity.ofDecl_eq, h.name, htable, h.ownFields_eq, h.comment]

end Entities

/-! ## Documents -/

section Documents

variable {d e : Document} {t : Storage}

theorem Document.UpToReserved.names_eq (h : d.UpToReserved e) : d.names = e.names := by
  apply names_congr _ h.enumerations
  exact map_eq_of_forall₂ h.entities fun _ _ hab => hab.name

theorem Document.UpToReserved.check_eq (h : d.UpToReserved e) : d.check t = e.check t := by
  apply Document.check_congr _ h.enumerations _ h.directives
  · exact h.entities.imp fun _ _ hab => ⟨hab.name, fun _ => hab.checkEntity_eq⟩
  · rw [h.relationships]
    exact List.forall₂_same.2 fun _ _ _ => rfl

theorem Document.UpToReserved.build_eq (h : d.UpToReserved e) : d.build t = e.build t := by
  have hentities : d.entities.map (Entity.ofDecl t d.names) = e.entities.map (Entity.ofDecl t e.names) := by
    rw [h.names_eq]
    exact map_eq_of_forall₂ h.entities fun _ _ hab => hab.ofDecl_eq
  simp only [build, hentities, h.enumerations, h.relationships, h.directives]

/-- **Reserved fields are inert.** Put in or taken out at any places and with anything said of them, they change nothing:
neither whether a document is accepted, nor the problem that is reported, nor the model, its order included. -/
theorem compile_upToReserved (h : d.UpToReserved e) (storage : Option String) :
    compile (some d) storage = compile (some e) storage := by
  cases storage with
  | none => rfl
  | some name =>
    rw [compile_eq_bind, compile_eq_bind]
    refine congrArg _ (funext fun t => ?_)
    rw [h.check_eq, h.build_eq]

end Documents

/-- reserved fields of types that there are not, with constraints that are unknown, repeated and without argument -/
def malformed : List FieldDecl := [
  { name := "id", type := "Nowhere", clauses := [{ key := "min" }, { key := "min" }, { key := "unheard" }] },
  { name := "id", type := "", comment := some "again" }]

/-- `A` with a field of this type, and `B`; other fields stand before and after it, and in `B` -/
def amid (type : String) (before after others : List FieldDecl) : Document where
  entities := [
    { name := "A", fields := before ++ { name := "n", type } :: after },
    { name := "B", fields := others }]
  relationships := [{ cardinality := "OneToOne", source := { entity := "A" }, target := { entity := "B" } }]

theorem malformed_inert :
    (∀ type, (amid type malformed [] malformed).UpToReserved (amid type [] malformed [])) ∧
      compile (some (amid "String" malformed [] malformed)) (some "sql") =
        .ok ((amid "String" [] [] []).build .sql) ∧
      compile (some (amid "Nowhere" malformed [] malformed)) (some "sql") =
        .error (.unknownType .sql "A" "n" "Nowhere") := by
  have h : ∀ type, (amid type malformed [] malformed).UpToReserved (amid type [] malformed []) := by
    intro type
    have hfirst : FieldDecl.UpToReserved (malformed ++ [{ name := "n", type }]) ({ name := "n", type } :: malformed) :=
      .takeOut _ rfl (.takeOut _ rfl (.keep _ (.putIn _ rfl (.putIn _ rfl .nil))))
    have hsecond : FieldDecl.UpToReserved malformed [] := by decide
    exact ⟨.cons ⟨rfl, rfl, hfirst, rfl⟩ (.cons ⟨rfl, rfl, hsecond, rfl⟩ .nil), rfl, rfl, rfl⟩
  refine ⟨h, ?_, ?_⟩
  · rw [compile_upToReserved (h "String")]
    decide +kernel
  · rw [compile_upToReserved (h "Nowhere")]
    decide +kernel

end EntitySchema
