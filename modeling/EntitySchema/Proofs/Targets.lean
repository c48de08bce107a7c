/-
Which entities a directive of a model is about. The wildcard, wherever it stands in a list and whatever stands beside it,
means every entity of the model less the exceptions, in the order of the model; without it the names that are listed
count, each once and in the order in which they are first listed, and exceptions are kept but take nothing away.

- `DirectiveDecl.ResolvesTo`: targets, exceptions and reach of a directive, as its declaration gives them.
- `DirectiveDecl.Describes.resolvesTo`: the directive that a declaration describes has them.
- `Document.build_onlyWildcard`, `Document.WellFormed.onlyWildcard`: what is listed beside the wildcard makes no
  difference.
- `compile_targets`: so it is for every directive of a compiled model.
-/
import EntitySchema.Proofs.References

namespace EntitySchema

/-! ## Reach of directives -/

/-- the entities of the model that a directive is about, by how its declaration lists them, and its exceptions -/
structure DirectiveDecl.ResolvesTo (m : Model) (x : DirectiveDecl) (v : Directive) : Prop where
  everyEntity : wildcard ∈ x.targets → v.targets.keys = m.entityNames.filter fun n => n ∉ x.excluded
  listed : wildcard ∉ x.targets → v.targets.keys = x.targets.eraseDups
  excluded : v.excluded.keys = x.excluded.eraseDups
  applies : ∀ n, v.appliesTo n = true ↔ m.containsEntity n = true ∧
    ((wildcard ∈ x.targets ∧ n ∉ x.excluded) ∨ (wildcard ∉ x.targets ∧ n ∈ x.targets))

/-- the document with nothing but the wildcard listed in the directive at this place -/
def Document.onlyWildcard (d : Document) (place : Nat) : Document :=
  { d with directives := d.directives.modify place fun x => { x with targets := [wildcard] } }

variable {t : Storage} {d : Document} {m : Model}

theorem Directive.appliesTo_iff {v : Directive} {n : String} : v.appliesTo n = true ↔ n ∈ v.targets.keys := by
  rw [Directive.appliesTo, Keyed.contains, decide_eq_true_eq]

theorem Model.containsEntity_iff {n : String} : m.containsEntity n = true ↔ n ∈ m.entityNames := by
  rw [Model.containsEntity, Keyed.contains, decide_eq_true_eq, Model.entityNames]

theorem DirectiveDecl.Describes.resolvesTo {x : DirectiveDecl} {v : Directive} (h : x.Describes m.entityNames v)
    (hx : x.WellFormed d) (hentities : d.entityNames ⊆ m.entityNames) : x.ResolvesTo m v := by
  have htargets := h.targets
  by_cases hw : wildcard ∈ x.targets
  · rw [if_pos hw] at htargets
    refine ⟨fun _ => htargets, fun hno => absurd hw hno, h.excluded, fun n => ?_⟩
    rw [Directive.appliesTo_iff, Model.containsEntity_iff, htargets]
    simp [hw]
  · rw [if_neg hw] at htargets
    refine ⟨fun hyes => absurd hyes hw, fun _ => htargets, h.excluded, fun n => ?_⟩
    -- what is listed one by one is declared, so it is in the model
    have hdeclared : n ∈ x.targets → n ∈ m.entityNames := by
      intro hn
      rcases hx.targets n hn with rfl | hn'
      · exact absurd hn hw
      · exact hentities hn'
    rw [Directive.appliesTo_iff, Model.containsEntity_iff, htargets, List.mem_eraseDups]
    simpa [hw] using hdeclared

/-! ## What stands beside the wildcard -/

theorem Directive.ofDecl?_onlyWildcard {x : DirectiveDecl} (hw : wildcard ∈ x.targets) (entities : List String) :
    Directive.ofDecl? entities { x with targets := [wildcard] } = Directive.ofDecl? entities x := by
  simp [Directive.ofDecl?, DirectiveDecl.resolvedTargets, hw]

theorem DirectiveDecl.WellFormed.onlyWildcard {x : DirectiveDecl} (h : x.WellFormed d) :
    DirectiveDecl.WellFormed d { x with targets := [wildcard] } where
  known := h.known
  aimed := List.cons_ne_nil _ _
  targets _ hn := .inl (List.mem_singleton.1 hn)
  excluded := h.excluded

section

variable {place : Nat} (hplace : place < d.directives.length)
include hplace

theorem Document.WellFormed.onlyWildcard (h : d.WellFormed t) : (d.onlyWildcard place).WellFormed t := by
  obtain ⟨before, x, after, hd, -, hmodified⟩ :=
    List.exists_of_modify (fun x : DirectiveDecl => { x with targets := [wildcard] }) hplace
  refine ⟨fun e he => (h.entities e he).mono fun _ hn => hn, h.enumerations,
    fun r hr => (h.relationships r hr).mono fun _ hn => hn, fun y hy => ?_⟩
  have hy' : y ∈ before ++ { x with targets := [wildcard] } :: after := hmodified ▸ hy
  suffices hwf : y.WellFormed d from hwf.mono fun _ hn => hn
  rcases mem_of_replaced hy' with rfl | hother
  · exact (h.directives x (by simp [hd])).onlyWildcard
  · exact h.directives y (hd ▸ hother x)

theorem Document.build_onlyWildcard (hw : wildcard ∈ d.directives[place].targets) :
    (d.onlyWildcard place).build t = d.build t := by
  obtain ⟨before, x, after, hd, hlength, hmodified⟩ :=
    List.exists_of_modify (fun x : DirectiveDecl => { x with targets := [wildcard] }) hplace
  have hx : d.directives[place] = x := by
    simp [hd, ← hlength]
  have hdirectives : ∀ entities, (d.onlyWildcard place).directives.filterMap (Directive.ofDecl? entities) =
      d.directives.filterMap (Directive.ofDecl? entities) := by
    intro entities
    have hsame := Directive.ofDecl?_onlyWildcard (hx ▸ hw) entities
    calc (d.onlyWildcard place).directives.filterMap (Directive.ofDecl? entities)
        = (before ++ { x with targets := [wildcard] } :: after).filterMap (Directive.ofDecl? entities) := by
          rw [Document.onlyWildcard, hmodified]
      _ = (before ++ x :: after).filterMap (Directive.ofDecl? entities) := by
          rw [List.filterMap_append, List.filterMap_append, List.filterMap_cons, List.filterMap_cons, hsame]
      _ = d.directives.filterMap (Directive.ofDecl? entities) := by rw [← hd]
  rw [Document.build, hdirectives]
  rfl

end

/-! ## Compiled models -/

/-- **Targets.** A compiled model has one directive for each that is declared. At every place the directive reaches as
far as its declaration says, and where the wildcard is listed there, the model is the same as if nothing else were. -/
theorem compile_targets {storage : Option String} (h : compile (some d) storage = .ok m) :
    m.directives.length = d.directives.length ∧
      ∀ place x v, d.directives[place]? = some x → m.directives[place]? = some v →
        x.ResolvesTo m v ∧
          (wildcard ∈ x.targets → compile (some (d.onlyWildcard place)) storage = .ok m) := by
  match storage with
  | none => cases h
  | some s =>
    obtain ⟨t, rfl, hd, rfl⟩ := compile_eq_ok.1 h
    have hdescribes := Document.describes_build hd
    refine ⟨hdescribes.directives.length_eq.symm, fun place x v hx hv => ⟨?_, fun hw => ?_⟩⟩
    · have hentities : d.entityNames ⊆ (d.build t).entityNames := by
        intro n hn
        exact hdescribes.mem_keys_entities.2 hn
      obtain ⟨hplace, rfl⟩ := List.getElem?_eq_some_iff.1 hx
      obtain ⟨hplace', rfl⟩ := List.getElem?_eq_some_iff.1 hv
      have hthere : d.directives[place].Describes (d.build t).entityNames (d.build t).directives[place] :=
        hdescribes.directives.get hplace hplace'
      exact hthere.resolvesTo (hd.directives _ (List.getElem_mem hplace)) hentities
    · obtain ⟨hplace, rfl⟩ := List.getElem?_eq_some_iff.1 hx
      exact compile_eq_ok.2 ⟨t, rfl, hd.onlyWildcard hplace, Document.build_onlyWildcard hplace hw⟩

/-- in a model with an entity of the name of the wildcard, the first directive of `starred` lists the wildcard between
other names and leaves `B` out -/
theorem starred_targets :
    compile (some starred) (some "mongodb") = .ok (starred.build .mongodb) ∧
      ∃ x v, starred.directives[0]? = some x ∧ (starred.build .mongodb).directives[0]? = some v ∧
        x.ResolvesTo (starred.build .mongodb) v ∧ wildcard ∈ x.targets ∧ v.targets.keys = ["*", "A"] ∧
          compile (some (starred.onlyWildcard 0)) (some "mongodb") = .ok (starred.build .mongodb) := by
  have h : compile (some starred) (some "mongodb") = .ok (starred.build .mongodb) :=
    compile_eq_ok.2 ⟨.mongodb, rfl, by decide +kernel, rfl⟩
  have hkeys : ((starred.build .mongodb).directives[0]?.map fun v => v.targets.keys) = some ["*", "A"] := by
    decide +kernel
  obtain ⟨v, hv, htargets⟩ := Option.map_eq_some_iff.1 hkeys
  obtain ⟨hresolves, hsame⟩ := (compile_targets h).2 0 _ v rfl hv
  have hw : wildcard ∈ ["A", "*", "A"] := by decide
  exact ⟨h, _, v, rfl, hv, hresolves, hw, htargets, hsame hw⟩

end EntitySchema
