/-
The check of a document accepts exactly the well-formed ones. Each check is settled on its own; the checks that look at
a declaration together with its predecessors come down to a rule for every item and keys that differ.

- `eachAfter_distinct`: going through a list with an eye on what came before, as a rule without order.
- `checkEnumeration_iff`, `checkEntity_iff`, `checkRelationship_iff`, `checkDirective_iff`: one check each.
- `validate_eq_ok`: a document passes exactly when it is well formed, and then its names are the outcome.
- `compile_eq_ok`: a model is made exactly for a technology that is known and a document that is well formed for it.
- `validate_accepts_iff`: which documents are accepted.
-/
import EntitySchema.Compilation
import EntitySchema.Proofs.WellFormed

namespace EntitySchema

open Outcome

/-! ## Checks of lists -/

/-- **A check against predecessors as a rule without order.** Where an item passes when it satisfies `P` and no earlier
item has its key, a list passes when all items satisfy `P` and their keys differ. -/
theorem Outcome.eachAfter_distinct {ε α κ : Type} {check : List α → α → Except ε Unit} {P : α → Prop} {key : α → κ}
    (hcheck : ∀ earlier x, check earlier x = .ok () ↔ P x ∧ key x ∉ earlier.map key) {xs : List α} :
    eachAfter check [] xs = .ok () ↔ (∀ x ∈ xs, P x) ∧ (xs.map key).Nodup := by
  rw [eachAfter_eq_ok]
  simp only [List.nil_append, hcheck]
  constructor
  · intro h
    refine ⟨fun x hx => ?_, ?_⟩
    · obtain ⟨before, after, rfl⟩ := List.append_of_mem hx
      exact (h before x after rfl).1
    · induction xs using List.reverseRecOn with
      | nil => simp
      | append_singleton xs x ih =>
        have hxs := ih fun before y after e => h before y (after ++ [x]) (by simp [e])
        rw [List.map_append, List.map_singleton]
        exact hxs.append (List.nodup_singleton _) (by simpa using (h xs x [] rfl).2)
  · rintro ⟨hP, hnd⟩ before x after rfl
    refine ⟨hP x (by simp), fun hm => ?_⟩
    rw [List.map_append, List.map_cons] at hnd
    exact List.disjoint_of_nodup_append hnd hm List.mem_cons_self

theorem require_not_empty {ε : Type} {s : String} {e : ε} : require (!s.isEmpty) e = .ok () ↔ s ≠ "" := by
  simp

namespace Document

/-! ## Names and enumerations -/

theorem checkEntityName_iff {e : EntityDecl} : checkEntityName e = .ok () ↔ e.name ≠ "" :=
  require_not_empty

theorem checkValues_iff {enumeration : String} {values : List String} :
    eachAfter (checkValue enumeration) [] values = .ok () ↔ (∀ v ∈ values, v ≠ "") ∧ values.Nodup := by
  have hvalue : ∀ earlier v, checkValue enumeration earlier v = .ok () ↔ v ≠ "" ∧ id v ∉ earlier.map id := by
    intro earlier v
    rw [checkValue, andThen_eq_ok, require_not_empty]
    simp
  rw [eachAfter_distinct hvalue, List.map_id]

theorem checkEnumeration_iff {e : EnumDecl} : checkEnumeration e = .ok () ↔ e.WellFormed := by
  rw [checkEnumeration, andThen_eq_ok, andThen_eq_ok, require_not_empty, require_eq_ok, checkValues_iff]
  constructor
  · rintro ⟨hn, hi, hv, hd⟩
    exact ⟨hn, by simpa using hi, hv, hd⟩
  · intro h
    exact ⟨h.named, by simpa using h.inhabited, h.values, h.distinct⟩

/-! ## Fields -/

theorem supports_iff {type : FieldType} {k : Constraint} : type.supports k = true ↔ type.Carries k := by
  cases type <;> simp [FieldType.supports, FieldType.Carries, Builtin.supports, enumerationConstraints]

/-- the two looks at an argument together: its shape, and the syntax of a pattern -/
theorem fits_iff {k : Constraint} {a : Option Argument} :
    k.Fits a ↔ k.shape.accepts a = true ∧ ∀ s, k = .pattern → a = some (.text s) → Pattern.isPattern s = true := by
  rcases a with _ | (n | m | x) | b | s <;> cases k <;> simp [Constraint.Fits, Constraint.shape, Shape.accepts]

theorem checkPattern_iff {k : Constraint} {a : Option Argument} :
    checkPattern k a = .ok () ↔ ∀ s, k = .pattern → a = some (.text s) → Pattern.isPattern s = true := by
  unfold checkPattern
  split
  · rename_i s
    cases hf : Pattern.fault? s.toList <;> simp [Pattern.isPattern, hf]
  · rename_i hno
    simp only [true_iff]
    rintro s rfl rfl
    exact absurd rfl (hno s rfl)

theorem checkConstraint_iff {type : FieldType} {c : Clause} {k : Constraint} :
    checkConstraint type c = .ok k ↔ k.name = c.key ∧ type.Carries k ∧ k.Fits c.argument := by
  unfold checkConstraint
  cases hk : Constraint.ofName? c.key with
  | none =>
    simp only [reduceCtorEq, false_iff]
    rintro ⟨hn, -⟩
    exact Constraint.ofName?_eq_none.1 hk k hn
  | some k' =>
    simp only [andThen_eq_ok, require_eq_ok, mapConst_eq_ok, supports_iff, checkPattern_iff]
    rw [fits_iff, ← Constraint.ofName?_iff, hk, Option.some.injEq]
    constructor
    · rintro ⟨hs, ha, hp, rfl⟩
      exact ⟨rfl, hs, ha, hp⟩
    · rintro ⟨rfl, hs, ha, hp⟩
      exact ⟨hs, ha, hp, rfl⟩

theorem checkClause_iff {type : FieldType} {earlier : List Clause} {c : Clause} :
    checkClause type earlier c = .ok () ↔ c.WellFormed type ∧ c.key ∉ earlier.map Clause.key := by
  rw [checkClause, bind_eq_ok]
  simp only [require_eq_ok, decide_eq_true_eq, checkConstraint_iff]
  exact exists_and_right

theorem checkClauses_iff {type : FieldType} {clauses : List Clause} :
    eachAfter (checkClause type) [] clauses = .ok () ↔
      (∀ c ∈ clauses, c.WellFormed type) ∧ (clauses.map Clause.key).Nodup :=
  eachAfter_distinct fun _ _ => checkClause_iff

theorem checkField_iff {t : Storage} {d : Document} {entity : String} {f : FieldDecl} :
    checkField t d.names entity f = .ok () ↔
      (∃ type, d.Denotes t f.type type ∧ ∀ c ∈ f.clauses, c.WellFormed type) ∧ (f.clauses.map Clause.key).Nodup := by
  unfold checkField
  cases htype : d.names.fieldType? t f.type with
  | none =>
    simp only [reduceCtorEq, false_iff]
    rintro ⟨⟨type, hd, -⟩, -⟩
    exact fieldType?_eq_none.1 htype type hd
  | some type =>
    simp only [← fieldType?_iff, htype, Option.some.injEq, exists_eq_left', mapError_eq_ok, checkClauses_iff]

theorem checkNamedField_iff {t : Storage} {d : Document} {entity : String} {earlier : List FieldDecl}
    {f : FieldDecl} :
    checkNamedField t d.names entity earlier f = .ok () ↔
      f.WellFormed t d ∧ f.name ∉ earlier.map FieldDecl.name := by
  rw [checkNamedField, andThen_eq_ok, andThen_eq_ok, require_not_empty, require_eq_ok, decide_eq_true_eq,
    checkField_iff]
  constructor
  · rintro ⟨hn, hnew, ht, hd⟩
    exact ⟨⟨hn, ht, hd⟩, hnew⟩
  · rintro ⟨h, hnew⟩
    exact ⟨h.named, hnew, h.typed, h.distinct⟩

theorem checkFields_iff {t : Storage} {d : Document} {entity : String} {fields : List FieldDecl} :
    eachAfter (checkNamedField t d.names entity) [] fields = .ok () ↔
      (∀ f ∈ fields, f.WellFormed t d) ∧ (fields.map FieldDecl.name).Nodup :=
  eachAfter_distinct fun _ _ => checkNamedField_iff

theorem checkEntity_iff {t : Storage} {d : Document} {e : EntityDecl} :
    (checkEntityName e = .ok () ∧ checkEntity t d.names e = .ok ()) ↔ e.WellFormed t d := by
  rw [checkEntityName_iff, checkEntity, checkFields_iff]
  constructor
  · rintro ⟨hn, hf, hd⟩
    exact ⟨hn, hf, hd⟩
  · intro h
    exact ⟨h.named, h.fields, h.distinct⟩

/-! ## Relationships and directives -/

/-- an end passes when its entity is declared; an empty name is not, where no entity has one -/
theorem checkEnd_iff {d : Document} (hnames : ∀ e ∈ d.entities, e.name ≠ "") {r : RelationshipDecl} {entity : String} :
    checkEnd d.names r entity = .ok () ↔ entity ∈ d.entityNames := by
  rw [checkEnd, andThen_eq_ok, require_not_empty, require_eq_ok, isEntity_iff, and_iff_right_iff_imp]
  intro hm
  obtain ⟨e, he, rfl⟩ := List.mem_map.1 hm
  exact hnames e he

theorem checkRelationship_iff {d : Document} (hnames : ∀ e ∈ d.entities, e.name ≠ "") {r : RelationshipDecl} :
    checkRelationship d.names r = .ok () ↔ r.WellFormed d := by
  rw [checkRelationship, andThen_eq_ok, andThen_eq_ok, checkEnd_iff hnames, checkEnd_iff hnames, require_eq_ok,
    Option.isSome_iff_exists]
  constructor
  · rintro ⟨hk, hs, ht⟩
    exact ⟨hk, hs, ht⟩
  · intro h
    exact ⟨h.known, h.source, h.target⟩

theorem checkDirectiveValue_iff {topic : Topic} {value : Option String} :
    checkDirectiveValue topic value = .ok () ↔ topic.Takes value := by
  cases topic <;> cases value <;> simp [checkDirectiveValue, Topic.Takes]

theorem checkDirective_iff {d : Document} {x : DirectiveDecl} :
    checkDirective d.names x = .ok () ↔ x.WellFormed d := by
  unfold checkDirective
  cases htopic : Topic.ofName? x.name with
  | none =>
    simp only [reduceCtorEq, false_iff]
    intro h
    obtain ⟨topic, hn, -⟩ := h.known
    exact Topic.ofName?_eq_none.1 htopic topic hn
  | some topic =>
    simp only [andThen_eq_ok, checkDirectiveValue_iff, require_eq_ok, each_eq_ok, isEntity_iff, Bool.or_eq_true,
      beq_iff_eq]
    constructor
    · rintro ⟨hv, ha, ht, hx⟩
      exact ⟨⟨topic, Topic.ofName?_iff.1 htopic, hv⟩, by simpa using ha, ht, hx⟩
    · intro h
      obtain ⟨topic', hn, hv⟩ := h.known
      rw [Topic.ofName?_iff.2 hn] at htopic
      cases htopic
      exact ⟨hv, by simpa using h.aimed, h.targets, h.excluded⟩

/-! ## Documents -/

theorem check_iff {t : Storage} {d : Document} : d.check t = .ok () ↔ d.WellFormed t := by
  rw [check, checkNames, checkUses, andThen_eq_ok, andThen_eq_ok, andThen_eq_ok, andThen_eq_ok]
  simp only [each_eq_ok, checkEnumeration_iff, checkDirective_iff]
  constructor
  · rintro ⟨⟨hn, hm⟩, he, hr, hx⟩
    have hnames : ∀ e ∈ d.entities, e.name ≠ "" := fun e h => checkEntityName_iff.1 (hn e h)
    exact ⟨fun e h => checkEntity_iff.1 ⟨hn e h, he e h⟩, hm, fun r h => (checkRelationship_iff hnames).1 (hr r h), hx⟩
  · intro h
    have hnames : ∀ e ∈ d.entities, e.name ≠ "" := fun e he => (h.entities e he).named
    exact ⟨⟨fun e he => checkEntityName_iff.2 (hnames e he), h.enumerations⟩,
      fun e he => (checkEntity_iff.2 (h.entities e he)).2,
      fun r hr => (checkRelationship_iff hnames).2 (h.relationships r hr), h.directives⟩

instance (t : Storage) (d : Document) : Decidable (d.WellFormed t) :=
  decidable_of_iff _ check_iff

theorem validate_eq_ok {t : Storage} {d : Document} {names : Names} :
    d.validate t = .ok names ↔ d.WellFormed t ∧ d.names = names := by
  rw [validate, mapConst_eq_ok, check_iff]

/-- **Exact acceptance.** A document passes validation for a technology exactly when every declaration in it, wherever
it stands and whether or not a later one replaces it, satisfies its rules. -/
theorem validate_accepts_iff (t : Storage) (d : Document) : (∃ names, d.validate t = .ok names) ↔ d.WellFormed t := by
  simp only [validate_eq_ok, exists_and_left, exists_eq', and_true]

/-- an entity whose field has the enumeration `Colour` as its type, declared and then declared again without fields -/
example :
    let a : EntityDecl := { name := "A", fields := [{ name := "c", type := "Colour" }] }
    let b : EntityDecl := { name := "A" }
    let colour : EnumDecl := { name := "Colour", values := ["red"] }
    Document.WellFormed .sql { entities := [a, b], enumerations := [colour] } ∧
      ¬ Document.WellFormed .sql { entities := [a, b] } := by
  decide +kernel

end Document

/-! ## From validation to the model -/

theorem Compilation.validate_eq_ok {c : Compilation} {m : Model} :
    c.validate.map Validated.build = .ok m ↔ c.document.WellFormed c.storage ∧ c.document.build c.storage = m := by
  unfold Compilation.validate
  split
  · rename_i names h
    have hw := (Document.validate_eq_ok.1 h).1
    simp [Except.map, Validated.build, hw]
  · rename_i p h
    have hw : ¬ c.document.WellFormed c.storage := by
      intro hw
      rw [Document.validate_eq_ok.2 ⟨hw, rfl⟩] at h
      cases h
    simp [Except.map, hw]

theorem Storage.select_eq_ok {s : String} {t : Storage} : Storage.select s = .ok t ↔ t.name = s := by
  rw [← Storage.ofName?_iff]
  unfold Storage.select
  split_ifs with hs
  · have hempty : s = "" := by simpa using hs
    subst hempty
    rw [Storage.ofName?_iff]
    cases t <;> decide
  · cases Storage.ofName? s <;> simp

/-- a model is made for a known technology and a document that is well formed for it, and for no others -/
theorem compile_eq_ok {d : Document} {s : String} {m : Model} :
    compile (some d) (some s) = .ok m ↔ ∃ t : Storage, t.name = s ∧ d.WellFormed t ∧ d.build t = m := by
  unfold compile Compilation.withStorageName
  simp only [bind_eq_ok, map_eq_ok, Storage.select_eq_ok]
  constructor
  · rintro ⟨c, ⟨t, ht, rfl⟩, hm⟩
    exact ⟨t, ht, Compilation.validate_eq_ok.1 (map_eq_ok.2 hm)⟩
  · rintro ⟨t, ht, hm⟩
    exact ⟨⟨d, t⟩, ⟨t, ht, rfl⟩, map_eq_ok.1 (Compilation.validate_eq_ok.2 hm)⟩

end EntitySchema
