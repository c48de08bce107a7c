/-
What is reported is really wrong, and nothing that is looked at before it is. Each check is settled on its own: it fails
with a problem of some kind exactly where the relation for its declaration says so.

- `eachAfter_eq_error_iff`, `eachAfter_fails_iff`: a list fails with what its first refused item fails with.
- `checkEnumeration_fails_iff`, `checkClause_eq_error`, `checkNamedField_fails_iff`, `checkRelationship_fails_iff`,
  `checkDirective_fails_iff`: one check each.
- `check_fails_iff`: a whole document.
- `compile_refuses_iff`: why no model is made, for everything that can be given.
-/
import EntitySchema.Proofs.Acceptance
import EntitySchema.Proofs.Violations

namespace EntitySchema

open Outcome

/-! ## Failures -/

/-- the outcome is this problem, of this kind -/
def Fails {α : Type} (K : Kind) (p : Problem) (x : Except Problem α) : Prop := x = .error p ∧ p.kind = K

variable {K : Kind} {p : Problem}

theorem fails_error {α : Type} {q : Problem} :
    Fails K p (.error q : Except Problem α) ↔ q = p ∧ p.kind = K := by
  simp [Fails]

theorem fails_require {condition : Bool} {q : Problem} :
    Fails K p (require condition q) ↔ condition = false ∧ q = p ∧ p.kind = K := by
  rw [Fails, require_eq_error, and_assoc]

theorem fails_require_not_empty {s : String} {q : Problem} :
    Fails K p (require (!s.isEmpty) q) ↔ s = "" ∧ q = p ∧ p.kind = K := by
  rw [fails_require]
  simp

/-- of two checks in turn, the first failure is the outcome -/
theorem fails_andThen {α : Type} {x : Except Problem Unit} {y : Except Problem α} :
    Fails K p (x.bind fun _ => y) ↔ Fails K p x ∨ (x = .ok () ∧ Fails K p y) := by
  simp only [Fails, andThen_eq_error, or_and_right, and_assoc]

theorem Outcome.eachAfter_eq_error_iff {ε α : Type} {check : List α → α → Except ε Unit} {fine : List α → Prop}
    (hfine : ∀ xs, eachAfter check [] xs = .ok () ↔ fine xs) {xs : List α} {e : ε} :
    eachAfter check [] xs = .error e ↔ FirstOf fine (fun before x => check before x = .error e) xs := by
  rw [eachAfter_eq_error]
  simp only [List.nil_append, hfine, FirstOf]
  constructor
  · rintro ⟨before, x, after, rfl, hx, hbefore⟩
    exact ⟨before, x, after, rfl, hbefore, hx⟩
  · rintro ⟨before, x, after, rfl, hbefore, hx⟩
    exact ⟨before, x, after, rfl, hx, hbefore⟩

theorem eachAfter_fails_iff {α : Type} {check : List α → α → Except Problem Unit} {fine : List α → Prop}
    (hfine : ∀ xs, eachAfter check [] xs = .ok () ↔ fine xs) {xs : List α} :
    Fails K p (eachAfter check [] xs) ↔ FirstOf fine (fun before x => Fails K p (check before x)) xs := by
  rw [Fails, eachAfter_eq_error_iff hfine]
  constructor
  · rintro ⟨⟨before, x, after, rfl, hbefore, hx⟩, hkind⟩
    exact ⟨before, x, after, rfl, hbefore, hx, hkind⟩
  · rintro ⟨before, x, after, rfl, hbefore, hx, hkind⟩
    exact ⟨⟨before, x, after, rfl, hbefore, hx⟩, hkind⟩

/-- the same where every item is judged on its own -/
theorem each_fails_iff {α : Type} {check : α → Except Problem Unit} {good : α → Prop} {xs : List α}
    (hgood : ∀ x ∈ xs, check x = .ok () ↔ good x) :
    Fails K p (each check xs) ↔ FirstOf (fun ys => ∀ y ∈ ys, good y) (fun _ x => Fails K p (check x)) xs := by
  rw [each, eachAfter_fails_iff fun ys => each_eq_ok]
  constructor
  · rintro ⟨before, x, after, rfl, hbefore, hx⟩
    exact ⟨before, x, after, rfl, fun y hy => (hgood y (by simp [hy])).1 (hbefore y hy), hx⟩
  · rintro ⟨before, x, after, rfl, hbefore, hx⟩
    exact ⟨before, x, after, rfl, fun y hy => (hgood y (by simp [hy])).2 (hbefore y hy), hx⟩

namespace Document

/-! ## Enumerations -/

theorem checkValue_fails_iff {enumeration value : String} {earlier : List String} :
    Fails K p (checkValue enumeration earlier value) ↔
      (value = "" ∧ .emptyValue enumeration = p ∧ p.kind = K) ∨
        (value ≠ "" ∧ value ∈ earlier ∧ .repeatedValue enumeration value = p ∧ p.kind = K) := by
  rw [checkValue, fails_andThen, fails_require_not_empty, fails_require, require_not_empty]
  simp

theorem checkEnumeration_fails_iff {e : EnumDecl} : Fails K p (checkEnumeration e) ↔ e.Violation K p := by
  rw [checkEnumeration, fails_andThen, fails_andThen, eachAfter_fails_iff fun _ => checkValues_iff,
    fails_require_not_empty, fails_require, require_not_empty, require_eq_ok]
  simp only [checkValue_fails_iff]
  constructor
  · rintro (⟨hempty, rfl, rfl⟩ | ⟨hnamed, ⟨hnone, rfl, rfl⟩ | ⟨-, before, v, after, hvalues, hbefore, hv⟩⟩)
    · exact .nameless hempty
    · exact .noValues hnamed (by simpa using hnone)
    · rcases hv with ⟨hempty, rfl, rfl⟩ | ⟨hne, hmem, rfl, rfl⟩
      · exact .emptyValue hnamed ⟨before, v, after, hvalues, hbefore, hempty⟩
      · exact .repeatedValue hnamed ⟨before, v, after, hvalues, hbefore, rfl, hne, hmem⟩
  · intro h
    cases h with
    | nameless hempty => exact .inl ⟨hempty, rfl, rfl⟩
    | noValues hnamed hnone => exact .inr ⟨hnamed, .inl ⟨by simp [hnone], rfl, rfl⟩⟩
    | emptyValue hnamed hfirst =>
      obtain ⟨before, v, after, hvalues, hbefore, hempty⟩ := hfirst
      refine .inr ⟨hnamed, .inr ⟨by simp [hvalues], before, v, after, hvalues, hbefore, ?_⟩⟩
      exact .inl ⟨hempty, rfl, rfl⟩
    | repeatedValue hnamed hfirst =>
      obtain ⟨before, v, after, hvalues, hbefore, rfl, hne, hmem⟩ := hfirst
      refine .inr ⟨hnamed, .inr ⟨by simp [hvalues], before, v, after, hvalues, hbefore, ?_⟩⟩
      exact .inr ⟨hne, hmem, rfl, rfl⟩

/-! ## Fields -/

theorem shaped_iff {k : Constraint} {a : Option Argument} : k.Shaped a ↔ k.shape.accepts a = true := by
  rcases a with _ | (n | m | x) | b | s <;> cases k <;>
    simp [Constraint.Shaped, Constraint.Fits, Constraint.shape, Shape.accepts]

theorem checkPattern_eq_error {k : Constraint} {a : Option Argument} {problem : ClauseProblem} :
    checkPattern k a = .error problem ↔
      ∃ s fault, k = .pattern ∧ a = some (.text s) ∧ Pattern.fault? s.toList = some fault ∧
        .badPattern s fault = problem := by
  unfold checkPattern
  split
  · rename_i s
    cases hf : Pattern.fault? s.toList <;> simp [hf]
  · rename_i hno
    simp only [reduceCtorEq, false_iff]
    rintro ⟨s, fault, rfl, rfl, -⟩
    exact hno s rfl rfl

theorem checkConstraint_eq_error {type : FieldType} {c : Clause} {problem : ClauseProblem} :
    checkConstraint type c = .error problem ↔ c.Misfit type problem := by
  unfold checkConstraint
  cases hk : Constraint.ofName? c.key with
  | none =>
    have hunknown := Constraint.ofName?_eq_none.1 hk
    constructor
    · intro h
      cases h
      exact .unknown hunknown
    · intro h
      cases h with
      | unknown => rfl
      | unsupported hn | wrongShape hn | badPattern hn => exact absurd hn (hunknown _)
  | some k =>
    have hname := Constraint.ofName?_iff.1 hk
    -- each misfit brings a constraint of its own with this key; it can only be `k`
    have hsame : ∀ {k' : Constraint}, k'.name = c.key → k' = k := by
      intro k' hn
      exact Constraint.name_injective (hn.trans hname.symm)
    simp only [andThen_eq_error, require_eq_error, require_eq_ok, map_eq_error, checkPattern_eq_error, ← shaped_iff,
      supports_iff, ← Bool.not_eq_true]
    constructor
    · rintro (⟨hnot, rfl⟩ | ⟨hcarried, ⟨hnot, rfl⟩ | ⟨hshaped, s, fault, rfl, ha, hf, rfl⟩⟩)
      · exact .unsupported hname hnot
      · exact .wrongShape hname hcarried hnot
      · rw [ha] at hshaped
        obtain ⟨s', hs', hne⟩ := hshaped
        cases hs'
        exact .badPattern hname hcarried ha hne hf
    · intro h
      cases h with
      | unknown h => exact absurd hname (h k)
      | unsupported hn h =>
        cases hsame hn
        exact .inl ⟨h, rfl⟩
      | wrongShape hn hcarried h =>
        cases hsame hn
        exact .inr ⟨hcarried, .inl ⟨h, rfl⟩⟩
      | badPattern hn hcarried ha hne h =>
        cases hsame hn
        exact .inr ⟨hcarried, .inr ⟨⟨_, ha, hne⟩, _, _, rfl, ha, h, rfl⟩⟩

theorem checkClause_eq_error {type : FieldType} {earlier : List Clause} {c : Clause} {problem : ClauseProblem} :
    checkClause type earlier c = .error problem ↔ c.Violation type earlier problem := by
  rw [checkClause, bind_eq_error, checkConstraint_eq_error]
  simp only [checkConstraint_iff, require_eq_error]
  constructor
  · rintro (h | ⟨k, ⟨hk, hcarried, hfits⟩, hmem, rfl⟩)
    · exact .misfit h
    · exact .repeated hk hcarried hfits (by simpa using hmem)
  · intro h
    cases h with
    | misfit h => exact .inl h
    | repeated hk hcarried hfits hmem => exact .inr ⟨_, ⟨hk, hcarried, hfits⟩, by simpa using hmem, rfl⟩

/-- the first clause with something wrong is what the field fails with -/
theorem checkClauses_fails_iff {type : FieldType} {clauses : List Clause} {entity field : String} :
    Fails K p ((eachAfter (checkClause type) [] clauses).mapError (.clause entity field)) ↔
      ∃ problem, FirstOf (fun cs => (∀ c ∈ cs, c.WellFormed type) ∧ (cs.map Clause.key).Nodup)
        (fun before c => c.Violation type before problem) clauses ∧ .clause entity field problem = p ∧ p.kind = K := by
  rw [Fails, mapError_eq_error]
  simp only [eachAfter_eq_error_iff fun _ => checkClauses_iff, checkClause_eq_error]
  constructor
  · rintro ⟨⟨problem, hfirst, hp⟩, hkind⟩
    exact ⟨problem, hfirst, hp, hkind⟩
  · rintro ⟨problem, hfirst, hp, hkind⟩
    exact ⟨⟨problem, hfirst, hp⟩, hkind⟩

theorem checkNamedField_fails_iff {t : Storage} {d : Document} {entity : String} {earlier : List FieldDecl}
    {f : FieldDecl} :
    Fails K p (checkNamedField t d.names entity earlier f) ↔ f.Violation t d entity earlier K p := by
  rw [checkNamedField, fails_andThen, fails_andThen, fails_require_not_empty, fails_require, require_not_empty,
    require_eq_ok, decide_eq_false_iff_not, not_not, decide_eq_true_eq, checkField]
  constructor
  · rintro (⟨hempty, rfl, rfl⟩ | ⟨hnamed, ⟨hmem, rfl, rfl⟩ | ⟨hnew, hfield⟩⟩)
    · exact .nameless hempty
    · exact .repeated hnamed hmem
    · split at hfield
      · rename_i hnone
        obtain ⟨rfl, rfl⟩ := fails_error.1 hfield
        exact .unknownType hnamed hnew (fieldType?_eq_none.1 hnone)
      · rename_i type htype
        obtain ⟨problem, hfirst, rfl, rfl⟩ := checkClauses_fails_iff.1 hfield
        exact .clause hnamed hnew (fieldType?_iff.1 htype) hfirst
  · intro h
    cases h with
    | nameless hempty => exact .inl ⟨hempty, rfl, rfl⟩
    | repeated hnamed hmem => exact .inr ⟨hnamed, .inl ⟨hmem, rfl, rfl⟩⟩
    | unknownType hnamed hnew hunknown =>
      refine .inr ⟨hnamed, .inr ⟨hnew, ?_⟩⟩
      rw [fieldType?_eq_none.2 hunknown]
      exact fails_error.2 ⟨rfl, rfl⟩
    | clause hnamed hnew htyped hfirst =>
      refine .inr ⟨hnamed, .inr ⟨hnew, ?_⟩⟩
      rw [fieldType?_iff.2 htyped]
      exact checkClauses_fails_iff.2 ⟨_, hfirst, rfl, rfl⟩

theorem checkEntity_fails_iff {t : Storage} {d : Document} {e : EntityDecl} :
    Fails K p (checkEntity t d.names e) ↔ e.Violation t d K p := by
  rw [checkEntity, eachAfter_fails_iff fun _ => checkFields_iff]
  simp only [checkNamedField_fails_iff]
  rfl

/-! ## Relationships and directives -/

theorem checkEnd_fails_iff {d : Document} {r : RelationshipDecl} {entity : String} :
    Fails K p (checkEnd d.names r entity) ↔
      (entity = "" ∧ .namelessEnd = p ∧ p.kind = K) ∨
        (entity ≠ "" ∧ entity ∉ d.entityNames ∧
          .undeclaredEnd r.source.entity r.target.entity entity = p ∧ p.kind = K) := by
  rw [checkEnd, fails_andThen, fails_require_not_empty, fails_require, require_not_empty, ← Bool.not_eq_true,
    isEntity_iff]

theorem checkRelationship_fails_iff {d : Document} (hnames : ∀ e ∈ d.entities, e.name ≠ "") {r : RelationshipDecl} :
    Fails K p (checkRelationship d.names r) ↔ r.Violation d K p := by
  rw [checkRelationship, fails_andThen, fails_andThen, fails_require, require_eq_ok, checkEnd_iff hnames,
    checkEnd_fails_iff, checkEnd_fails_iff, ← Bool.not_eq_true, Option.isSome_iff_exists]
  constructor
  · rintro (⟨hunknown, rfl, rfl⟩ | ⟨hknown, (⟨hempty, rfl, rfl⟩ | ⟨hnamed, hfree, rfl, rfl⟩) |
      ⟨hsource, ⟨hempty, rfl, rfl⟩ | ⟨hnamed, hfree, rfl, rfl⟩⟩⟩)
    · exact .unknownCardinality hunknown
    · exact .namelessSource hknown hempty
    · exact .undeclaredSource hknown hnamed hfree
    · exact .namelessTarget hknown hsource hempty
    · exact .undeclaredTarget hknown hsource hnamed hfree
  · intro h
    cases h with
    | unknownCardinality hunknown => exact .inl ⟨hunknown, rfl, rfl⟩
    | namelessSource hknown hempty => exact .inr ⟨hknown, .inl (.inl ⟨hempty, rfl, rfl⟩)⟩
    | undeclaredSource hknown hnamed hfree => exact .inr ⟨hknown, .inl (.inr ⟨hnamed, hfree, rfl, rfl⟩)⟩
    | namelessTarget hknown hsource hempty => exact .inr ⟨hknown, .inr ⟨hsource, .inl ⟨hempty, rfl, rfl⟩⟩⟩
    | undeclaredTarget hknown hsource hnamed hfree =>
      exact .inr ⟨hknown, .inr ⟨hsource, .inr ⟨hnamed, hfree, rfl, rfl⟩⟩⟩

theorem checkDirectiveValue_fails_iff {topic : Topic} {value : Option String} :
    Fails K p (checkDirectiveValue topic value) ↔
      (∃ flag v, topic = .flag flag ∧ value = some v ∧ .superfluousValue topic v = p ∧ p.kind = K) ∨
        (∃ setting, topic = .setting setting ∧ value = none ∧ .noValue topic = p ∧ p.kind = K) ∨
          ∃ setting v, topic = .setting setting ∧ value = some v ∧ setting.accepts v = false ∧
            .wrongValue setting v = p ∧ p.kind = K := by
  cases topic <;> cases value <;> simp [checkDirectiveValue, Fails, require_eq_error, and_assoc]

/-- the first target that is refused is the one that is reported -/
theorem eachTarget_fails_iff {good : String → Bool} {problem : String → Problem} {names : List String} :
    Fails K p (each (fun n => require (good n) (problem n)) names) ↔
      ∃ entity, FirstOf (fun ns => ∀ n ∈ ns, good n = true) (fun _ n => n = entity ∧ good n = false) names ∧
        problem entity = p ∧ p.kind = K := by
  rw [each_fails_iff fun n _ => require_eq_ok]
  simp only [fails_require]
  constructor
  · rintro ⟨before, n, after, hnames, hbefore, hn, hp, hkind⟩
    exact ⟨n, ⟨before, n, after, hnames, hbefore, rfl, hn⟩, hp, hkind⟩
  · rintro ⟨_, ⟨before, n, after, hnames, hbefore, rfl, hn⟩, hp, hkind⟩
    exact ⟨before, n, after, hnames, hbefore, hn, hp, hkind⟩

theorem checkDirective_fails_iff {d : Document} {x : DirectiveDecl} :
    Fails K p (checkDirective d.names x) ↔ x.Violation d K p := by
  unfold checkDirective
  cases htopic : Topic.ofName? x.name with
  | none =>
    have hunknown := Topic.ofName?_eq_none.1 htopic
    rw [fails_error]
    constructor
    · rintro ⟨rfl, rfl⟩
      exact .unknown hunknown
    · intro h
      cases h with
      | unknown => exact ⟨rfl, rfl⟩
      | superfluousValue hn | noValue hn | wrongValue hn | noTarget hn | undeclaredTarget hn
      | undeclaredExclusion hn => exact absurd hn (hunknown _)
  | some topic =>
    have hname := Topic.ofName?_iff.1 htopic
    -- each violation brings a topic of its own with this name; it can only be `topic`
    have hsame : ∀ {topic' : Topic}, topic'.name = x.name → topic' = topic := by
      intro topic' hn
      exact Topic.name_injective (hn.trans hname.symm)
    simp only [fails_andThen, checkDirectiveValue_fails_iff, checkDirectiveValue_iff, fails_require, require_eq_ok,
      eachTarget_fails_iff, each_eq_ok, ← Bool.not_eq_true, Bool.or_eq_true, beq_iff_eq, isEntity_iff, not_or]
    constructor
    · rintro ((⟨flag, v, rfl, hv, rfl, rfl⟩ | ⟨setting, rfl, hv, rfl, rfl⟩ | ⟨setting, v, rfl, hv, hnot, rfl, rfl⟩) |
        ⟨hvalue, ⟨hnone, rfl, rfl⟩ | ⟨haimed, ⟨n, hfirst, rfl, rfl⟩ | ⟨htargets, n, hfirst, rfl, rfl⟩⟩⟩)
      · exact .superfluousValue hname hv
      · exact .noValue hname hv
      · exact .wrongValue hname hv (by simpa using hnot)
      · exact .noTarget hname hvalue (by simpa using hnone)
      · exact .undeclaredTarget hname hvalue hfirst
      · exact .undeclaredExclusion hname hvalue (by simpa using haimed) htargets hfirst
    · intro h
      cases h with
      | unknown hunknown => exact absurd hname (hunknown topic)
      | superfluousValue hn hv =>
        cases hsame hn
        exact .inl (.inl ⟨_, _, rfl, hv, rfl, rfl⟩)
      | noValue hn hv =>
        cases hsame hn
        exact .inl (.inr (.inl ⟨_, rfl, hv, rfl, rfl⟩))
      | wrongValue hn hv hnot =>
        cases hsame hn
        exact .inl (.inr (.inr ⟨_, _, rfl, hv, by simpa using hnot, rfl, rfl⟩))
      | noTarget hn hvalue hnone =>
        cases hsame hn
        exact .inr ⟨hvalue, .inl ⟨by simpa using hnone, rfl, rfl⟩⟩
      | undeclaredTarget hn hvalue hfirst =>
        cases hsame hn
        refine .inr ⟨hvalue, .inr ⟨?_, .inl ⟨_, hfirst, rfl, rfl⟩⟩⟩
        obtain ⟨before, n, after, htargets, -⟩ := hfirst
        simp [htargets]
      | undeclaredExclusion hn hvalue haimed htargets hfirst =>
        cases hsame hn
        exact .inr ⟨hvalue, .inr ⟨by simpa using haimed, .inr ⟨htargets, _, hfirst, rfl, rfl⟩⟩⟩

/-! ## Documents -/

/-- the entities that pass the check of their names and the check of their fields are well formed -/
theorem checkEntity_iff_of_named {t : Storage} {d : Document} {e : EntityDecl} (hnamed : e.name ≠ "") :
    checkEntity t d.names e = .ok () ↔ e.WellFormed t d := by
  rw [← checkEntity_iff, and_iff_right (checkEntityName_iff.2 hnamed)]

theorem checkEntityNames_eq_ok {d : Document} :
    each checkEntityName d.entities = .ok () ↔ ∀ e ∈ d.entities, e.name ≠ "" := by
  simp only [each_eq_ok, checkEntityName_iff]

theorem checkEntityNames_fails_iff {d : Document} :
    Fails K p (each checkEntityName d.entities) ↔ (∃ e ∈ d.entities, e.name = "") ∧ .namelessEntity = p ∧ p.kind = K := by
  constructor
  · intro h
    rw [each_fails_iff fun e _ => checkEntityName_iff] at h
    obtain ⟨before, e, after, hentities, -, he⟩ := h
    obtain ⟨hempty, hp, hkind⟩ := fails_require_not_empty.1 he
    exact ⟨⟨e, by simp [hentities], hempty⟩, hp, hkind⟩
  · rintro ⟨⟨e, he, hempty⟩, rfl, rfl⟩
    refine ⟨?_, rfl⟩
    -- every failure of this check is the same problem
    cases hr : each checkEntityName d.entities with
    | ok u => exact absurd hempty (checkEntityNames_eq_ok.1 hr e he)
    | error q =>
      obtain ⟨_, e', _, _, _, he'⟩ := (each_fails_iff fun e _ => checkEntityName_iff).1 ⟨hr, rfl⟩
      exact congrArg _ (fails_require_not_empty.1 he').2.1.symm

theorem check_fails_iff {t : Storage} {d : Document} : Fails K p (d.check t) ↔ d.Violation t K p := by
  rw [check, checkNames, checkUses, fails_andThen, fails_andThen, fails_andThen, fails_andThen, andThen_eq_ok,
    checkEntityNames_fails_iff, checkEntityNames_eq_ok, each_fails_iff fun e _ => checkEnumeration_iff]
  have henumerations : each checkEnumeration d.enumerations = .ok () ↔ ∀ e ∈ d.enumerations, e.WellFormed := by
    simp only [each_eq_ok, checkEnumeration_iff]
  simp only [henumerations, checkEnumeration_fails_iff]
  -- entities and ends are judged by their rules only where every entity has a name; otherwise nothing else is looked at
  by_cases hnames : ∀ e ∈ d.entities, e.name ≠ ""
  · have hentities : each (checkEntity t d.names) d.entities = .ok () ↔ ∀ e ∈ d.entities, e.WellFormed t d := by
      rw [each_eq_ok]
      exact forall₂_congr fun e he => checkEntity_iff_of_named (hnames e he)
    have hrelationships : each (checkRelationship d.names) d.relationships = .ok () ↔
        ∀ r ∈ d.relationships, r.WellFormed d := by
      simp only [each_eq_ok, checkRelationship_iff hnames]
    rw [each_fails_iff fun e he => checkEntity_iff_of_named (hnames e he),
      each_fails_iff fun r _ => checkRelationship_iff hnames, each_fails_iff fun x _ => checkDirective_iff]
    simp only [hentities, hrelationships, checkEntity_fails_iff, checkRelationship_fails_iff hnames,
      checkDirective_fails_iff]
    constructor
    · rintro ((⟨⟨e, he, hempty⟩, -⟩ | ⟨-, hfirst⟩) | ⟨⟨-, hen⟩, hfirst | ⟨he, hfirst | ⟨hr, hfirst⟩⟩⟩)
      · exact absurd hempty (hnames e he)
      · exact .enumeration hnames hfirst
      · exact .entity hnames hen hfirst
      · exact .relationship he hen hfirst
      · exact .directive he hen hr hfirst
    · intro h
      cases h with
      | entityName e he hempty => exact absurd hempty (hnames e he)
      | enumeration _ hfirst => exact .inl (.inr ⟨hnames, hfirst⟩)
      | entity _ hen hfirst => exact .inr ⟨⟨hnames, hen⟩, .inl hfirst⟩
      | relationship he hen hfirst => exact .inr ⟨⟨hnames, hen⟩, .inr ⟨he, .inl hfirst⟩⟩
      | directive he hen hr hfirst => exact .inr ⟨⟨hnames, hen⟩, .inr ⟨he, .inr ⟨hr, hfirst⟩⟩⟩
  · have hempty : ∃ e ∈ d.entities, e.name = "" := by
      simpa using hnames
    simp only [hnames, hempty, true_and, false_and, or_false]
    obtain ⟨e, he, hname⟩ := hempty
    constructor
    · rintro ⟨rfl, rfl⟩
      exact .entityName e he hname
    · intro h
      cases h with
      | entityName => exact ⟨rfl, rfl⟩
      | enumeration h | entity h => exact absurd h hnames
      | relationship h | directive h => exact absurd (fun e he => (h e he).named) hnames

end Document

/-! ## From what is given to the refusal -/

theorem Storage.select_eq_error {name : String} {p : Problem} :
    Storage.select name = .error p ↔
      (name = "" ∧ .noStorage = p) ∨ (name ≠ "" ∧ (∀ t : Storage, t.name ≠ name) ∧ .unknownStorage name = p) := by
  unfold Storage.select
  by_cases hempty : name = ""
  · simp [hempty]
  · have hne : name.isEmpty = false := by
      simpa using hempty
    cases hname : Storage.ofName? name with
    | none =>
      simp [hne, hempty, Storage.ofName?_eq_none.1 hname]
    | some t =>
      have hknown : ¬ ∀ t : Storage, t.name ≠ name := fun h => h t (Storage.ofName?_iff.1 hname)
      simp [hne, hempty, hknown]

theorem Document.validate_eq_error {t : Storage} {d : Document} {p : Problem} :
    d.validate t = .error p ↔ d.check t = .error p :=
  map_eq_error

theorem Compilation.validate_eq_error {c : Compilation} {p : Problem} :
    c.validate = .error p ↔ c.document.check c.storage = .error p := by
  rw [← Document.validate_eq_error]
  unfold Compilation.validate
  split <;> rename_i h <;> simp [h]

/-- with a document and a name, either the name is refused or the document is -/
theorem compile_eq_error {d : Document} {name : String} {p : Problem} :
    compile (some d) (some name) = .error p ↔
      Storage.select name = .error p ∨ ∃ t : Storage, t.name = name ∧ d.check t = .error p := by
  unfold compile Compilation.withStorageName
  simp only [bind_eq_error, map_eq_error, map_eq_ok, Compilation.validate_eq_error, Storage.select_eq_ok]
  constructor
  · rintro (h | ⟨c, ⟨t, ht, rfl⟩, h⟩)
    · exact .inl h
    · exact .inr ⟨t, ht, h⟩
  · rintro (h | ⟨t, ht, h⟩)
    · exact .inl h
    · exact .inr ⟨_, ⟨t, ht, rfl⟩, h⟩

/-- **Refusals.** No model is made exactly where something is wrong with what is given, and what is reported is the first
such thing: the document, the technology, and the declarations in the order of checking, everything before it being in
order. The kind of the problem is the one that goes with what is wrong. -/
theorem compile_refuses_iff (document : Option Document) (storage : Option String) (K : Kind) (p : Problem) :
    compile document storage = .error p ∧ p.kind = K ↔ Refused document storage K p := by
  rcases document with _ | d
  · constructor
    · rintro ⟨h, rfl⟩
      cases h
      exact .noDocument storage
    · intro h
      cases h
      exact ⟨rfl, rfl⟩
  rcases storage with _ | name
  · constructor
    · rintro ⟨h, rfl⟩
      cases h
      exact .noStorage d none (.inl rfl)
    · intro h
      cases h
      exact ⟨rfl, rfl⟩
  rw [compile_eq_error, Storage.select_eq_error]
  constructor
  · rintro ⟨(⟨rfl, rfl⟩ | ⟨hne, hunknown, rfl⟩) | ⟨t, rfl, hcheck⟩, rfl⟩
    · exact .noStorage d _ (.inr rfl)
    · exact .unknownStorage d name hne hunknown
    · exact .document d t (Document.check_fails_iff.1 ⟨hcheck, rfl⟩)
  · intro h
    cases h with
    | noStorage _ _ hempty =>
      have hname : name = "" := by
        simpa using hempty
      exact ⟨.inl (.inl ⟨hname, rfl⟩), rfl⟩
    | unknownStorage _ _ hne hunknown => exact ⟨.inl (.inr ⟨hne, hunknown, rfl⟩), rfl⟩
    | document _ t hviolation =>
      obtain ⟨hcheck, hkind⟩ := Document.check_fails_iff.2 hviolation
      exact ⟨.inr ⟨t, rfl, hcheck⟩, hkind⟩

/-- an unknown type in the first declaration, and an enumeration without values, which is looked at before it -/
example :
    let a : EntityDecl := { name := "A", fields := [{ name := "c", type := "Colour" }] }
    let empty : EnumDecl := { name := "Empty", values := [] }
    Document.check .sql { entities := [a], enumerations := [empty] } = .error (.noValues "Empty") ∧
      Document.check .sql { entities := [a] } = .error (.unknownType .sql "A" "c" "Colour") := by
  decide +kernel

end EntitySchema
