/-
Every reference of a compiled model goes to an entity of the model. References are checked against the names that a
document declares; they still hold in the table that is left once later declarations have replaced earlier ones and the
wildcard has been expanded.

- `Model.Closed`: the references of a model, and what else holds of its directives.
- `DirectiveDecl.Describes.closed`: a well-formed directive describes one without loose references.
- `DirectiveDecl.Describes.targets_ne_nil`: targets that are listed one by one are never none.
- `Document.Describes.closed`: a well-formed document describes a closed model.
- `compile_closed`: so every model that is compiled is closed.
-/
import EntitySchema.Proofs.WellTyped

namespace EntitySchema

/-! ## Closed models -/

/-- the value of a setting is one that it accepts -/
def Subject.Accepted : Subject → Prop
  | .flag _ => True
  | .setting o v => o.accepts v = true

/-- targets and exceptions are entities of the model, none twice; the wildcard is one only as the name of an entity -/
structure Directive.Closed (m : Model) (v : Directive) : Prop where
  accepted : v.subject.Accepted
  targets : ∀ n ∈ v.targets.keys, n ∈ m.entities.keys
  distinctTargets : v.targets.keys.Nodup
  excluded : ∀ n ∈ v.excluded.keys, n ∈ m.entities.keys
  distinctExcluded : v.excluded.keys.Nodup
  expanded : wildcard ∈ v.targets.keys → ∃ e ∈ m.entities.rows, e.name = wildcard

/-- the ends of all relationships are entities of the model, and all directives are closed -/
structure Model.Closed (m : Model) : Prop where
  sources : ∀ r ∈ m.relationships, r.source.entity ∈ m.entities.keys
  targets : ∀ r ∈ m.relationships, r.target.entity ∈ m.entities.keys
  directives : ∀ v ∈ m.directives, v.Closed m

/-! ## What declarations describe -/

variable {t : Storage} {d : Document} {m : Model}

theorem Document.Describes.mem_keys_entities (h : d.Describes t m) {n : String} :
    n ∈ m.entities.keys ↔ n ∈ d.entityNames := by
  rw [h.entityNames, List.mem_eraseDups]

theorem RelationshipDecl.Describes.ends {r : RelationshipDecl} {relationship : Relationship}
    (h : r.Describes relationship) (hr : r.WellFormed d) :
    relationship.source.entity ∈ d.entityNames ∧ relationship.target.entity ∈ d.entityNames := by
  rw [h.source.entity, h.target.entity]
  exact ⟨hr.source, hr.target⟩

theorem DirectiveDecl.Describes.accepted {entities : List String} {x : DirectiveDecl} {v : Directive}
    (h : x.Describes entities v) (hx : x.WellFormed d) : v.subject.Accepted := by
  obtain ⟨topic, hname, htakes⟩ := hx.known
  have htopic : v.subject.topic = topic := Topic.name_injective (h.name.trans hname.symm)
  have hvalue := h.value
  cases hs : v.subject with
  | flag f => trivial
  | setting o value =>
    rw [hs] at htopic hvalue
    subst htopic
    obtain ⟨value', hvalue', haccepts⟩ := htakes
    rw [hvalue'] at hvalue
    cases hvalue
    exact haccepts

/-- the targets of a directive are among the entities there are, whether the wildcard stands for them or they are listed -/
theorem DirectiveDecl.Describes.targets_subset {entities : List String} {x : DirectiveDecl} {v : Directive}
    (h : x.Describes entities v) (hx : x.WellFormed d) (hentities : d.entityNames ⊆ entities) :
    v.targets.keys ⊆ entities := by
  intro n hn
  rw [h.targets] at hn
  split_ifs at hn with hw
  · exact (List.mem_filter.1 hn).1
  · rw [List.mem_eraseDups] at hn
    rcases hx.targets n hn with rfl | hdeclared
    · exact absurd hn hw
    · exact hentities hdeclared

theorem DirectiveDecl.Describes.targets_ne_nil {entities : List String} {x : DirectiveDecl} {v : Directive}
    (h : x.Describes entities v) (hx : x.WellFormed d) (hw : wildcard ∉ x.targets) : v.targets.keys ≠ [] := by
  obtain ⟨n, hn⟩ := List.exists_mem_of_ne_nil _ hx.aimed
  rw [h.targets, if_neg hw]
  exact List.ne_nil_of_mem (List.mem_eraseDups.2 hn)

theorem DirectiveDecl.Describes.closed {x : DirectiveDecl} {v : Directive} (h : x.Describes m.entityNames v)
    (hx : x.WellFormed d) (hentities : d.entityNames ⊆ m.entities.keys) : v.Closed m := by
  have htargets : v.targets.keys ⊆ m.entities.keys := h.targets_subset hx hentities
  refine ⟨h.accepted hx, fun n hn => htargets hn, ?_, fun n hn => ?_, ?_, fun hw => ?_⟩
  · simpa [Keyed.keys] using v.targets.distinct
  · rw [h.excluded, List.mem_eraseDups] at hn
    exact hentities (hx.excluded n hn)
  · simpa [Keyed.keys] using v.excluded.distinct
  · exact List.mem_map.1 (htargets hw)

/-- a well-formed document describes a closed model -/
theorem Document.Describes.closed (h : d.Describes t m) (hd : d.WellFormed t) : m.Closed := by
  have hends : ∀ relationship ∈ m.relationships,
      relationship.source.entity ∈ d.entityNames ∧ relationship.target.entity ∈ d.entityNames := by
    intro relationship hrelationship
    obtain ⟨r, hr, hdescribes⟩ := forall₂_exists_of_mem_right h.relationships hrelationship
    exact hdescribes.ends (hd.relationships r hr)
  refine ⟨fun r hr => h.mem_keys_entities.2 (hends r hr).1, fun r hr => h.mem_keys_entities.2 (hends r hr).2,
    fun v hv => ?_⟩
  obtain ⟨x, hx, hdescribes⟩ := forall₂_exists_of_mem_right h.directives hv
  exact hdescribes.closed (hd.directives x hx) fun n hn => h.mem_keys_entities.2 hn

/-! ## Compiled models -/

/-- **Closed.** Every model that is compiled is closed, and each of its directives whose declaration lists targets one by
one has some. -/
theorem compile_closed {d : Document} {storage : Option String} {m : Model} (h : compile (some d) storage = .ok m) :
    m.Closed ∧ List.Forall₂ (fun x v => wildcard ∉ x.targets → v.targets.keys ≠ []) d.directives m.directives := by
  match storage with
  | none => cases h
  | some s =>
    obtain ⟨t, rfl, hd, rfl⟩ := compile_eq_ok.1 h
    have hdescribes := Document.describes_build hd
    refine ⟨hdescribes.closed hd, ?_⟩
    refine ((List.forall₂_and_left _ _).2 ⟨hd.directives, hdescribes.directives⟩).imp ?_
    rintro x v ⟨hx, hv⟩ hw
    exact hv.targets_ne_nil hx hw

/-- an entity with the name of the wildcard, targets named twice and beside the wildcard, and a wildcard that stands for
nothing -/
def starred : Document where
  entities := [{ name := "*" }, { name := "A" }, { name := "B", table := some "b" }, { name := "A" }]
  relationships := [{ cardinality := "ONE_TO_many", source := { entity := "*" }, target := { entity := "A" } }]
  directives := [
    { name := "service", value := some "serviceImpl", targets := ["A", "*", "A"], excluded := ["B", "B"] },
    { name := "angularSuffix", value := some "x-1", targets := ["B", "A", "B"], excluded := ["B"] },
    { name := "skipClient", targets := ["*"], excluded := ["A", "B", "*"] }]

theorem starred_closed :
    compile (some starred) (some "mongodb") = .ok (starred.build .mongodb) ∧ (starred.build .mongodb).Closed ∧
      List.Forall₂ (fun x v => wildcard ∉ x.targets → v.targets.keys ≠ []) starred.directives
        (starred.build .mongodb).directives := by
  have h : compile (some starred) (some "mongodb") = .ok (starred.build .mongodb) :=
    compile_eq_ok.2 ⟨.mongodb, rfl, by decide +kernel, rfl⟩
  exact ⟨h, compile_closed h⟩

end EntitySchema
