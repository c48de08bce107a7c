/-
Agreement of models is what look-up can tell. Two models agree exactly when every name, field name and constraint finds
the same in both, and relationships and directives say the same place by place. This is an equivalence: a table holds
one row under each key, so what it finds settles it up to the order of its rows.

- `Keyed.agrees_iff_find?`: tables agree when look-up finds rows that agree, or nothing in either.
- `Model.Indistinguishable`: no question to the one model has another answer than to the other; likewise for fields,
  entities and directives.
- `Model.agrees_iff`: agreement of models is that they cannot be told apart; level by level below it.
- `Model.agreement`: so it is an equivalence.
-/
import EntitySchema.Proofs.Agreement

namespace EntitySchema

/-! ## Relations on options and lists -/

section Relations

variable {α : Type} {R : α → α → Prop}

theorem optionRel_eq {x y : Option α} : Option.Rel (· = ·) x y ↔ x = y := by
  constructor
  · intro h
    cases h with
    | some hab => rw [hab]
    | none => rfl
  · rintro rfl
    cases x with
    | none => exact .none
    | some a => exact .some rfl

theorem optionRel_equivalence (h : Equivalence R) : Equivalence (Option.Rel R) where
  refl x := by
    cases x with
    | none => exact .none
    | some a => exact .some (h.refl a)
  symm hxy := by
    cases hxy with
    | none => exact .none
    | some hab => exact .some (h.symm hab)
  trans hxy hyz := by
    cases hxy with
    | none => exact hyz
    | some hab =>
      cases hyz with
      | some hbc => exact .some (h.trans hab hbc)

theorem forall₂_trans (h : Equivalence R) {xs ys zs : List α} (hxy : List.Forall₂ R xs ys)
    (hyz : List.Forall₂ R ys zs) : List.Forall₂ R xs zs := by
  induction hxy generalizing zs with
  | nil => exact hyz
  | cons hab _ ih =>
    cases hyz with
    | cons hbc hrest => exact .cons (h.trans hab hbc) (ih hrest)

theorem forall₂_equivalence (h : Equivalence R) : Equivalence (List.Forall₂ R) where
  refl _ := List.forall₂_same.2 fun a _ => h.refl a
  symm hxy := hxy.flip.imp fun _ _ hba => h.symm hba
  trans := forall₂_trans h

end Relations

/-! ## Tables -/

namespace Keyed

variable {α κ : Type} {key : α → κ} [DecidableEq κ]

/-- **Agreement by look-up.** Tables agree when every key finds rows that agree, or nothing in either. -/
theorem agrees_iff_find? {same : α → α → Bool} {s t : Keyed key} :
    s.agrees same t = true ↔ ∀ k, Option.Rel (fun a b => same a b = true) (s.find? k) (t.find? k) := by
  rw [agrees_iff]
  constructor
  · rintro ⟨hkeys, hrows⟩ k
    have hmem : (∃ a, s.find? k = some a) ↔ ∃ b, t.find? k = some b := by
      rw [← mem_keys_iff, ← mem_keys_iff, hkeys.mem_iff]
    cases ha : s.find? k with
    | none =>
      cases hb : t.find? k with
      | none => exact .none
      | some b =>
        obtain ⟨a, ha'⟩ := hmem.2 ⟨b, hb⟩
        rw [ha] at ha'
        cases ha'
    | some a =>
      obtain ⟨b, hb⟩ := hmem.1 ⟨a, ha⟩
      obtain ⟨has, rfl⟩ := find?_eq_some_iff.1 ha
      obtain ⟨hbt, hba⟩ := find?_eq_some_iff.1 hb
      rw [hb]
      exact .some (hrows a has b hbt hba.symm)
  · intro h
    refine ⟨(List.perm_ext_iff_of_nodup s.distinct t.distinct).2 fun k => ?_, fun a ha b hb hab => ?_⟩
    · -- what one table finds under a key, the other finds too
      change k ∈ s.keys ↔ k ∈ t.keys
      rw [mem_keys_iff, mem_keys_iff]
      generalize hx : s.find? k = x, hy : t.find? k = y
      have hxy := h k
      rw [hx, hy] at hxy
      cases hxy <;> simp
    · have hs : s.find? (key a) = some a := find?_eq_some_iff.2 ⟨ha, rfl⟩
      have ht : t.find? (key a) = some b := find?_eq_some_iff.2 ⟨hb, hab.symm⟩
      have hab := h (key a)
      rw [hs, ht] at hab
      cases hab with
      | some hsame => exact hsame

/-- tables whose rows only agree with themselves agree when look-up finds the same -/
theorem agrees_beq_iff [DecidableEq α] {s t : Keyed key} :
    s.agrees (fun a b => a == b) t = true ↔ ∀ k, s.find? k = t.find? k := by
  simp only [agrees_iff_find?, beq_iff_eq, optionRel_eq]

theorem contains_eq_isSome (t : Keyed key) (k : κ) : t.contains k = (t.find? k).isSome := by
  rw [Bool.eq_iff_iff, Option.isSome_iff_exists, contains, decide_eq_true_eq, mem_keys_iff]

end Keyed

theorem NameSet.find?_eq_some_iff {s : NameSet} {n a : String} : s.find? n = some a ↔ s.contains n = true ∧ a = n := by
  rw [Keyed.contains, decide_eq_true_eq, Keyed.mem_keys_iff]
  constructor
  · intro h
    exact ⟨⟨a, h⟩, (Keyed.find?_eq_some_iff.1 h).2⟩
  · rintro ⟨⟨b, hb⟩, rfl⟩
    have hba : b = a := (Keyed.find?_eq_some_iff.1 hb).2
    rwa [hba] at hb

/-- sets of names agree when they hold the same names -/
theorem NameSet.agrees_iff {s t : NameSet} : s.agrees t = true ↔ ∀ n, s.contains n = t.contains n := by
  rw [NameSet.agrees, Keyed.agrees_beq_iff]
  refine forall_congr' fun n => ?_
  constructor
  · intro h
    rw [Keyed.contains_eq_isSome, Keyed.contains_eq_isSome, h]
  · intro h
    ext a
    rw [NameSet.find?_eq_some_iff, NameSet.find?_eq_some_iff, h]

/-! ## What can be asked -/

/-- no question to the one field has another answer than to the other -/
structure Field.Indistinguishable (f g : Field) : Prop where
  name : f.name = g.name
  type : f.type = g.type
  comment : f.comment = g.comment
  rule : ∀ k : Constraint, f.rule? k = g.rule? k

/-- no question to the one entity, or to a field of it, has another answer than to the other -/
structure Entity.Indistinguishable (d e : Entity) : Prop where
  name : d.name = e.name
  table : d.table = e.table
  comment : d.comment = e.comment
  field : ∀ n : String, Option.Rel Field.Indistinguishable (d.field? n) (e.field? n)

/-- no question to the one directive has another answer than to the other -/
structure Directive.Indistinguishable (x y : Directive) : Prop where
  topic : x.subject.topic = y.subject.topic
  value : x.subject.value? = y.subject.value?
  excluded : ∀ n : String, x.excluded.contains n = y.excluded.contains n
  appliesTo : ∀ n : String, x.appliesTo n = y.appliesTo n

/-- no question to the one model has another answer than to the other -/
structure Model.Indistinguishable (m n : Model) : Prop where
  containsEntity : ∀ name : String, m.containsEntity name = n.containsEntity name
  entity : ∀ name : String, Option.Rel Entity.Indistinguishable (m.entity? name) (n.entity? name)
  enumeration : ∀ name : String, m.enumeration? name = n.enumeration? name
  relationships : m.relationships = n.relationships
  directives : List.Forall₂ Directive.Indistinguishable m.directives n.directives

theorem Field.indistinguishable_equivalence : Equivalence Field.Indistinguishable where
  refl _ := ⟨rfl, rfl, rfl, fun _ => rfl⟩
  symm h := ⟨h.name.symm, h.type.symm, h.comment.symm, fun k => (h.rule k).symm⟩
  trans h h' :=
    ⟨h.name.trans h'.name, h.type.trans h'.type, h.comment.trans h'.comment, fun k => (h.rule k).trans (h'.rule k)⟩

theorem Entity.indistinguishable_equivalence : Equivalence Entity.Indistinguishable :=
  have hfields : Equivalence (Option.Rel Field.Indistinguishable) :=
    optionRel_equivalence Field.indistinguishable_equivalence
  { refl := fun _ => ⟨rfl, rfl, rfl, fun _ => hfields.refl _⟩
    symm := fun h => ⟨h.name.symm, h.table.symm, h.comment.symm, fun n => hfields.symm (h.field n)⟩
    trans := fun h h' => ⟨h.name.trans h'.name, h.table.trans h'.table, h.comment.trans h'.comment,
      fun n => hfields.trans (h.field n) (h'.field n)⟩ }

theorem Directive.indistinguishable_equivalence : Equivalence Directive.Indistinguishable where
  refl _ := ⟨rfl, rfl, fun _ => rfl, fun _ => rfl⟩
  symm h := ⟨h.topic.symm, h.value.symm, fun n => (h.excluded n).symm, fun n => (h.appliesTo n).symm⟩
  trans h h' := ⟨h.topic.trans h'.topic, h.value.trans h'.value,
    fun n => (h.excluded n).trans (h'.excluded n), fun n => (h.appliesTo n).trans (h'.appliesTo n)⟩

theorem Model.indistinguishable_equivalence : Equivalence Model.Indistinguishable :=
  have hentities : Equivalence (Option.Rel Entity.Indistinguishable) :=
    optionRel_equivalence Entity.indistinguishable_equivalence
  have hdirectives : Equivalence (List.Forall₂ Directive.Indistinguishable) :=
    forall₂_equivalence Directive.indistinguishable_equivalence
  { refl := fun _ => ⟨fun _ => rfl, fun _ => hentities.refl _, fun _ => rfl, rfl, hdirectives.refl _⟩
    symm := fun h => ⟨fun k => (h.containsEntity k).symm, fun k => hentities.symm (h.entity k),
      fun k => (h.enumeration k).symm, h.relationships.symm, hdirectives.symm h.directives⟩
    trans := fun h h' => ⟨fun k => (h.containsEntity k).trans (h'.containsEntity k),
      fun k => hentities.trans (h.entity k) (h'.entity k), fun k => (h.enumeration k).trans (h'.enumeration k),
      h.relationships.trans h'.relationships, hdirectives.trans h.directives h'.directives⟩ }

/-! ## Agreement is what can be asked -/

theorem Field.agrees_iff {f g : Field} : f.agrees g = true ↔ f.Indistinguishable g := by
  simp only [Field.agrees, Bool.and_eq_true, beq_iff_eq, Keyed.agrees_beq_iff]
  constructor
  · rintro ⟨⟨⟨hname, htype⟩, hrules⟩, hcomment⟩
    exact ⟨hname, htype, hcomment, hrules⟩
  · intro h
    exact ⟨⟨⟨h.name, h.type⟩, h.rule⟩, h.comment⟩

theorem Entity.agrees_iff {d e : Entity} : d.agrees e = true ↔ d.Indistinguishable e := by
  simp only [Entity.agrees, Bool.and_eq_true, beq_iff_eq, Keyed.agrees_iff_find?, Field.agrees_iff]
  constructor
  · rintro ⟨⟨⟨hname, htable⟩, hfields⟩, hcomment⟩
    exact ⟨hname, htable, hcomment, hfields⟩
  · intro h
    exact ⟨⟨⟨h.name, h.table⟩, h.field⟩, h.comment⟩

theorem Subject.ext_topic {s t : Subject} (htopic : s.topic = t.topic) (hvalue : s.value? = t.value?) : s = t := by
  cases s <;> cases t <;> simp_all [Subject.topic, Subject.value?]

theorem Directive.agrees_iff {x y : Directive} : x.agrees y = true ↔ x.Indistinguishable y := by
  simp only [Directive.agrees, Bool.and_eq_true, beq_iff_eq, NameSet.agrees_iff]
  constructor
  · rintro ⟨⟨hsubject, htargets⟩, hexcluded⟩
    exact ⟨congrArg Subject.topic hsubject, congrArg Subject.value? hsubject, hexcluded, htargets⟩
  · intro h
    exact ⟨⟨Subject.ext_topic h.topic h.value, h.appliesTo⟩, h.excluded⟩

theorem Model.agrees_iff {m n : Model} : m.agrees n = true ↔ m.Indistinguishable n := by
  simp only [Model.agrees, Bool.and_eq_true, beq_iff_eq, Keyed.agrees_iff_find?, optionRel_eq,
    agreeInOrder_iff, Entity.agrees_iff, Directive.agrees_iff]
  constructor
  · rintro ⟨⟨⟨hentities, henumerations⟩, hrelationships⟩, hdirectives⟩
    refine ⟨fun name => ?_, hentities, henumerations, hrelationships, hdirectives⟩
    have hname := hentities name
    rw [Model.containsEntity, Model.containsEntity, Keyed.contains_eq_isSome, Keyed.contains_eq_isSome]
    generalize m.entities.find? name = d, n.entities.find? name = e at hname
    cases hname <;> rfl
  · intro h
    exact ⟨⟨⟨h.entity, h.enumeration⟩, h.relationships⟩, h.directives⟩

/-- **Agreement of models.** It is an equivalence, and two models agree exactly when no question to the one has another
answer than to the other. -/
theorem Model.agreement :
    Equivalence (fun m n : Model => m.agrees n = true) ∧
      ∀ m n : Model, m.agrees n = true ↔ m.Indistinguishable n := by
  have hagrees : (fun m n : Model => m.agrees n = true) = Model.Indistinguishable :=
    funext fun m => funext fun n => propext Model.agrees_iff
  rw [hagrees]
  exact ⟨Model.indistinguishable_equivalence, fun m n => Model.agrees_iff⟩

end EntitySchema
