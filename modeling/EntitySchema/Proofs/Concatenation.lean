/-
One document after another. Both being accepted, the two together are, and their model is settled by the two models:
later entities and enumerations take the place of earlier ones of the same name and are the same as before in every part,
relationships and directives follow one another. Only a directive that names the wildcard changes: it is now about the
entities of both.

- `wellFormed_append`: rules that hold in a document hold in a longer one.
- `Directive.ofDecl?_widened`: what other entities change in a directive.
- `Model.Joins`: how the model of two documents comes from their models.
- `compile_append`: a document after another compiles to a model that joins theirs.
-/
import EntitySchema.Proofs.Acceptance
import EntitySchema.Proofs.Build

namespace EntitySchema

variable {t : Storage} {d e : Document}

/-! ## Acceptance -/

theorem Document.entityNames_append : (d ++ e).entityNames = d.entityNames ++ e.entityNames :=
  List.map_append

theorem Document.enumerationNames_append : (d ++ e).enumerationNames = d.enumerationNames ++ e.enumerationNames :=
  List.map_append

theorem Document.enumerationNames_subset_append :
    d.enumerationNames ⊆ (d ++ e).enumerationNames ∧ e.enumerationNames ⊆ (d ++ e).enumerationNames := by
  rw [enumerationNames_append]
  exact ⟨List.subset_append_left _ _, List.subset_append_right _ _⟩

theorem Document.wellFormed_append (hd : d.WellFormed t) (he : e.WellFormed t) : (d ++ e).WellFormed t := by
  obtain ⟨hsubd, hsube⟩ := enumerationNames_subset_append (d := d) (e := e)
  have hleft : d.entityNames ⊆ (d ++ e).entityNames := entityNames_append ▸ List.subset_append_left _ _
  have hright : e.entityNames ⊆ (d ++ e).entityNames := entityNames_append ▸ List.subset_append_right _ _
  refine ⟨fun x hx => ?_, fun x hx => ?_, fun x hx => ?_, fun x hx => ?_⟩
  · rcases List.mem_append.1 hx with hx | hx
    · exact (hd.entities x hx).mono hsubd
    · exact (he.entities x hx).mono hsube
  · rcases List.mem_append.1 hx with hx | hx
    · exact hd.enumerations x hx
    · exact he.enumerations x hx
  · rcases List.mem_append.1 hx with hx | hx
    · exact (hd.relationships x hx).mono hleft
    · exact (he.relationships x hx).mono hright
  · rcases List.mem_append.1 hx with hx | hx
    · exact (hd.directives x hx).mono hleft
    · exact (he.directives x hx).mono hright

/-! ## Directives among other entities -/

/-- the directive with the wildcard of its declaration, if it names it, for all of these entities that it does not leave
out -/
def Directive.widened (entities : List String) (x : DirectiveDecl) (directive : Directive) : Directive :=
  if wildcard ∈ x.targets then
    { directive with targets := .ofList (entities.filter fun n => n ∉ directive.excluded.keys) }
  else directive

theorem Directive.ofDecl?_widened {x : DirectiveDecl} (h : x.WellFormed d) (entities entities' : List String) :
    ∃ directive, Directive.ofDecl? entities x = some directive ∧
      Directive.ofDecl? entities' x = some (directive.widened entities' x) := by
  obtain ⟨subject, -, -, hof⟩ := Directive.ofDecl?_of_wellFormed h
  refine ⟨_, hof entities, ?_⟩
  rw [hof entities', Directive.widened]
  have hexcluded : ∀ n, n ∈ (Keyed.ofList x.excluded : NameSet).keys ↔ n ∈ x.excluded := by
    simp [Keyed.mem_keys_ofList]
  split_ifs with hw <;> simp only [DirectiveDecl.resolvedTargets, hw, if_true, if_false, hexcluded]

theorem filterMap_eq_zipWith {α β : Type} {f g : α → Option β} {w : α → β → β} {xs : List α}
    (h : ∀ x ∈ xs, ∃ y, f x = some y ∧ g x = some (w x y)) : xs.filterMap g = List.zipWith w xs (xs.filterMap f) := by
  induction xs with
  | nil => rfl
  | cons x xs ih =>
    obtain ⟨y, hf, hg⟩ := h x List.mem_cons_self
    rw [List.filterMap_cons_some hf, List.filterMap_cons_some hg, List.zipWith_cons_cons,
      ih fun z hz => h z (List.mem_cons_of_mem x hz)]

theorem Directive.filterMap_ofDecl? {xs : List DirectiveDecl} (h : ∀ x ∈ xs, x.WellFormed d)
    (entities entities' : List String) :
    (xs.filterMap (Directive.ofDecl? entities)).length = xs.length ∧
      xs.filterMap (Directive.ofDecl? entities') =
        List.zipWith (fun x v => v.widened entities' x) xs (xs.filterMap (Directive.ofDecl? entities)) := by
  have hw := fun x hx => Directive.ofDecl?_widened (h x hx) entities entities'
  exact ⟨length_filterMap fun x hx => (hw x hx).imp fun _ hv => hv.1, filterMap_eq_zipWith hw⟩

/-! ## Models -/

/-- `u` is what the models `m` of `d` and `n` of `e` make together: new names come after the old ones, what `n` has under
a name goes before what `m` has, and directives that name the wildcard are about the entities of both -/
structure Model.Joins (d e : Document) (m n u : Model) : Prop where
  entityNames : u.entities.keys = m.entities.keys ++ n.entities.keys.filter fun k => k ∉ m.entities.keys
  entities : ∀ name, u.entity? name = (n.entity? name).or (m.entity? name)
  enumerationNames :
    u.enumerations.keys = m.enumerations.keys ++ n.enumerations.keys.filter fun k => k ∉ m.enumerations.keys
  enumerations : ∀ name, u.enumeration? name = (n.enumeration? name).or (m.enumeration? name)
  relationships : u.relationships = m.relationships ++ n.relationships
  directiveCounts : m.directives.length = d.directives.length ∧ n.directives.length = e.directives.length
  directives : u.directives =
    List.zipWith (fun x v => v.widened u.entityNames x) d.directives m.directives ++
      List.zipWith (fun x v => v.widened u.entityNames x) e.directives n.directives

/-- the entities of two documents, each built in its own -/
theorem Document.entities_build_append (hd : d.WellFormed t) (he : e.WellFormed t) :
    ((d ++ e).build t).entities =
      .ofList (d.entities.map (Entity.ofDecl t d.names) ++ e.entities.map (Entity.ofDecl t e.names)) := by
  obtain ⟨hsubd, hsube⟩ := enumerationNames_subset_append (d := d) (e := e)
  -- a type that was found in one document is found in both, and an enumeration never hides a builtin type
  have hleft : d.entities.map (Entity.ofDecl t (d ++ e).names) = d.entities.map (Entity.ofDecl t d.names) :=
    List.map_congr_left fun x hx => Entity.ofDecl_mono (hd.entities x hx) hsubd
  have hright : e.entities.map (Entity.ofDecl t (d ++ e).names) = e.entities.map (Entity.ofDecl t e.names) :=
    List.map_congr_left fun x hx => Entity.ofDecl_mono (he.entities x hx) hsube
  rw [← hleft, ← hright, ← List.map_append]
  rfl

theorem Document.joins_build_append (hd : d.WellFormed t) (he : e.WellFormed t) :
    Model.Joins d e (d.build t) (e.build t) ((d ++ e).build t) := by
  have hentities := entities_build_append hd he
  have henumerations : ((d ++ e).build t).enumerations =
      .ofList (d.enumerations.map Enumeration.ofDecl ++ e.enumerations.map Enumeration.ofDecl) := by
    rw [← List.map_append]; rfl
  have hld := Directive.filterMap_ofDecl? hd.directives (d.build t).entityNames ((d ++ e).build t).entityNames
  have hle := Directive.filterMap_ofDecl? he.directives (e.build t).entityNames ((d ++ e).build t).entityNames
  refine ⟨?_, fun name => ?_, ?_, fun name => ?_, ?_, ⟨hld.1, hle.1⟩, ?_⟩
  · rw [hentities, Keyed.keys_ofList_append]; rfl
  · rw [Model.entity?, hentities, Keyed.find?_ofList_append]; rfl
  · rw [henumerations, Keyed.keys_ofList_append]; rfl
  · rw [Model.enumeration?, henumerations, Keyed.find?_ofList_append]; rfl
  · exact List.filterMap_append
  · have hdirectives : (d ++ e).directives = d.directives ++ e.directives := rfl
    rw [Document.directives_build, hdirectives, List.filterMap_append, hld.2, hle.2, ← Document.directives_build,
      ← Document.directives_build]

/-- **Concatenation.** Two documents that are accepted for a technology are accepted one after the other, and the model
of the whole is settled by the two models. -/
theorem compile_append {s : String} {m n : Model} (hm : compile (some d) (some s) = .ok m)
    (hn : compile (some e) (some s) = .ok n) :
    ∃ u, compile (some (d ++ e)) (some s) = .ok u ∧ Model.Joins d e m n u := by
  obtain ⟨t, rfl, hd, rfl⟩ := compile_eq_ok.1 hm
  obtain ⟨t', ht, he, rfl⟩ := compile_eq_ok.1 hn
  cases Storage.name_injective ht
  exact ⟨_, compile_eq_ok.2 ⟨t, rfl, Document.wellFormed_append hd he, rfl⟩, Document.joins_build_append hd he⟩

/-- `A` with a field of a builtin type, and a directive about every entity -/
def front : Document where
  entities := [{ name := "A", fields := [{ name := "n", type := "String" }] }]
  directives := [{ name := "skipClient", targets := ["*"], excluded := ["A"] }]

/-- another `A`, a new `B`, and an enumeration with the name of a builtin type -/
def back : Document where
  entities := [{ name := "A", table := some "a" }, { name := "B", fields := [{ name := "s", type := "String" }] }]
  enumerations := [{ name := "String", values := ["x"] }]
  relationships := [{ cardinality := "OneToOne", source := { entity := "A" }, target := { entity := "B" } }]

theorem front_back_joined :
    compile (some front) (some "sql") = .ok (front.build .sql) ∧ compile (some back) (some "sql") = .ok (back.build .sql) ∧
      ∃ u, compile (some (front ++ back)) (some "sql") = .ok u ∧
        Model.Joins front back (front.build .sql) (back.build .sql) u := by
  have hfront : compile (some front) (some "sql") = .ok (front.build .sql) :=
    compile_eq_ok.2 ⟨.sql, rfl, by decide +kernel, rfl⟩
  have hback : compile (some back) (some "sql") = .ok (back.build .sql) :=
    compile_eq_ok.2 ⟨.sql, rfl, by decide +kernel, rfl⟩
  exact ⟨hfront, hback, compile_append hfront hback⟩

end EntitySchema
