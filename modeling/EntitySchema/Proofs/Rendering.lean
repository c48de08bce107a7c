/-
The text of a model says everything about it. Names stand for types and topics, and what is absent is left off; but a name
has one type in one technology, every member has a name of its own, and an argument is a whole number or a text. So a
model that is well typed can be told from its text.

- `Model.withoutReals`: there is no binary number in what is written of a well-typed model.
- `memberIf_append_inj`: a member that may be left off can be told from those after it.
- `FieldType.KnownTo.eq_of_name`: a type can be told from its name.
- `Field.toValue_inj`, `Entity.toValue_inj`, `Relationship.toValue_inj`, `Directive.toValue_inj`, `Model.toValue_inj`: what
  is written of each part.
- `compile_render_inj`: compiled models of the same text are the same.
-/
import EntitySchema.Model.Text
import EntitySchema.Proofs.Json.Parsing
import EntitySchema.Proofs.WellTyped

namespace EntitySchema

open EntitySchema.Json EntitySchema.Decimal

/-! ## No binary numbers -/

theorem withoutReals_text (s : String) : (Value.text s).WithoutReals := .scalar fun x => by simp

theorem withoutReals_bool (b : Bool) : (Value.bool b).WithoutReals := .scalar fun x => by simp

theorem withoutReals_memberIf {α : Type} {name : String} {write : α → Value} {a : Option α}
    (h : ∀ x, a = some x → (write x).WithoutReals) : ∀ m ∈ memberIf name write a, m.2.WithoutReals := by
  cases a with
  | none => simp [memberIf]
  | some x => simpa [memberIf] using h x rfl

theorem withoutReals_table {α : Type} (name : α → String) {write : α → Value} {rows : List α}
    (h : ∀ a ∈ rows, (write a).WithoutReals) : (Value.object (rows.map fun a => (name a, write a))).WithoutReals := by
  refine .object fun m hm => ?_
  obtain ⟨a, ha, rfl⟩ := List.mem_map.1 hm
  exact h a ha

theorem withoutReals_list {α : Type} {write : α → Value} {xs : List α} (h : ∀ a ∈ xs, (write a).WithoutReals) :
    (Value.list (xs.map write)).WithoutReals := by
  refine .list fun v hv => ?_
  obtain ⟨a, ha, rfl⟩ := List.mem_map.1 hv
  exact h a ha

theorem withoutReals_names (names : List String) : (namesValue names).WithoutReals :=
  withoutReals_list fun n _ => withoutReals_text n

variable {t : Storage} {m m' : Model}

/-- an argument that fits a constraint is a whole number or a text -/
theorem Constraint.withoutReals_of_fits {k : Constraint} {a : Argument} (h : k.Fits (some a)) :
    (Argument.codec.write a).WithoutReals := by
  rcases a with (n | n | x) | b | s
  · exact .scalar fun x => by simp
  · exact .scalar fun x => by simp
  · cases k <;> simp [Constraint.Fits] at h
  · exact withoutReals_bool b
  · exact withoutReals_text s

theorem Rule.withoutReals {type : FieldType} {r : Rule} (h : r.WellTyped type) : r.toValue.WithoutReals := by
  refine .object (List.forall_mem_cons.2 ⟨withoutReals_text _, withoutReals_memberIf fun a ha => ?_⟩)
  exact Constraint.withoutReals_of_fits (ha ▸ h.fits)

theorem Field.withoutReals {f : Field} (h : f.WellTyped t m) : f.toValue.WithoutReals := by
  have hrules := withoutReals_table (fun r => r.constraint.name) fun r hr => Rule.withoutReals (h.rules r hr)
  refine .object (List.forall_mem_append.2 ⟨?_, withoutReals_memberIf fun c _ => withoutReals_text c⟩)
  simp [withoutReals_text, hrules]

theorem Entity.withoutReals {e : Entity} (h : e.WellTyped t m) : e.toValue.WithoutReals := by
  have hfields := withoutReals_table Field.name fun f hf => Field.withoutReals (h.fields f hf)
  refine .object (List.forall_mem_append.2 ⟨?_, withoutReals_memberIf fun c _ => withoutReals_text c⟩)
  simp [withoutReals_text, hfields]

theorem Enumeration.withoutReals (e : Enumeration) : e.toValue.WithoutReals := by
  refine .object ?_
  simp [withoutReals_text, withoutReals_names]

theorem End.withoutReals (e : End) : e.toValue.WithoutReals := by
  refine .object (List.forall_mem_cons.2 ⟨withoutReals_text _, ?_⟩)
  rw [List.forall_mem_append, List.forall_mem_append]
  refine ⟨⟨?_, ?_⟩, ?_⟩
  · exact withoutReals_memberIf fun i _ => withoutReals_text i
  · exact withoutReals_memberIf fun c _ => withoutReals_text c
  · simpa using withoutReals_bool e.required

theorem Relationship.withoutReals (r : Relationship) : r.toValue.WithoutReals := by
  refine .object ?_
  simp [withoutReals_text, End.withoutReals]

theorem Directive.withoutReals (x : Directive) : x.toValue.WithoutReals := by
  refine .object ?_
  rw [List.forall_mem_append, List.forall_mem_append, List.forall_mem_append]
  refine ⟨⟨⟨?_, ?_⟩, ?_⟩, ?_⟩
  · simp [withoutReals_text]
  · exact withoutReals_memberIf fun v _ => withoutReals_text v
  · simp [withoutReals_names]
  · split_ifs <;> simp [withoutReals_names]

/-- there is no binary number in what is written of a well-typed model -/
theorem Model.withoutReals (h : m.WellTyped t) : m.toValue.WithoutReals := by
  have hentities := withoutReals_table Entity.name fun e he => Entity.withoutReals (h.entities e he)
  have henumerations := withoutReals_table Enumeration.name fun e (_ : e ∈ m.enumerations.rows) => e.withoutReals
  have hrelationships := withoutReals_list fun r (_ : r ∈ m.relationships) => r.withoutReals
  have hdirectives := withoutReals_list fun x (_ : x ∈ m.directives) => x.withoutReals
  refine .object ?_
  simp [hentities, henumerations, hrelationships, hdirectives]

/-! ## Members and lists -/

theorem memberIf_inj {α : Type} {name : String} {write : α → Value} (hwrite : Function.Injective write)
    {a b : Option α} (h : memberIf name write a = memberIf name write b) : a = b := by
  cases a <;> cases b <;> simp_all [memberIf, hwrite.eq_iff]

/-- a member that may be left off can be told from those after it, where none of them has its name -/
theorem memberIf_append_inj {α : Type} {name : String} {write : α → Value} (hwrite : Function.Injective write)
    {a b : Option α} {ms ns : List (String × Value)} (hms : name ∉ ms.map Prod.fst) (hns : name ∉ ns.map Prod.fst)
    (h : memberIf name write a ++ ms = memberIf name write b ++ ns) : a = b ∧ ms = ns := by
  cases a with
  | none =>
    cases b with
    | none => exact ⟨rfl, h⟩
    | some y =>
      have hms' : ms = (name, write y) :: ns := h
      exact absurd (by simp [hms']) hms
  | some x =>
    cases b with
    | none =>
      have hns' : (name, write x) :: ms = ns := h
      exact absurd (by simp [← hns']) hns
    | some y =>
      simp only [memberIf, List.cons_append, List.nil_append, List.cons.injEq, Prod.mk.injEq, true_and] at h
      exact ⟨congrArg some (hwrite h.1), h.2⟩

theorem text_inj : Function.Injective Value.text := by
  intro s s' h
  simpa using h

theorem namesValue_inj : Function.Injective namesValue := by
  intro ns ns' h
  simp only [namesValue, Value.list.injEq] at h
  exact List.map_injective_iff.2 text_inj h

/-- rows written under their names can be told from one another if each can be told from what is written of it -/
theorem table_inj {α : Type} {name : α → String} {write : α → Value} {xs ys : List α}
    (hwrite : ∀ a ∈ xs, ∀ b ∈ ys, write a = write b → a = b)
    (h : xs.map (fun a => (name a, write a)) = ys.map fun a => (name a, write a)) : xs = ys := by
  refine eq_of_map_eq (fun a ha b hb hab => ?_) h
  exact hwrite a ha b hb (Prod.mk.inj hab).2

/-! ## What is written of each part -/

theorem Argument.write_inj : Function.Injective Argument.codec.write := by
  intro a b h
  cases a <;> cases b <;> simp_all [Argument.codec]

theorem Rule.toValue_inj : Function.Injective Rule.toValue := by
  intro r s h
  simp only [Rule.toValue, Value.object.injEq, List.cons.injEq, Prod.mk.injEq, true_and] at h
  obtain ⟨hname, hargument⟩ := h
  rw [Rule.mk.injEq]
  exact ⟨Constraint.name_injective (text_inj hname), memberIf_inj Argument.write_inj hargument⟩

/-- a type can be told from its name -/
theorem FieldType.KnownTo.eq_of_name {type type' : FieldType} (h : type.KnownTo t m) (h' : type'.KnownTo t m')
    (hname : type.name = type'.name) : type = type' := by
  cases h with
  | builtin b hb =>
    cases h' with
    | builtin b' => rw [Builtin.name_injective hname]
    | enumeration n _ hfree => exact absurd hname (hfree b hb)
  | enumeration n _ hfree =>
    cases h' with
    | builtin b' hb' => exact absurd hname.symm (hfree b' hb')
    | enumeration n' => exact congrArg _ hname

theorem Field.toValue_inj {f f' : Field} (hf : f.WellTyped t m) (hf' : f'.WellTyped t m')
    (h : f.toValue = f'.toValue) : f = f' := by
  simp only [Field.toValue, Value.object.injEq, List.cons_append, List.nil_append, List.cons.injEq, Prod.mk.injEq,
    true_and] at h
  obtain ⟨hname, htype, hrules, hcomment⟩ := h
  rw [Field.mk.injEq]
  -- of the type only the name is written; both models are for one technology, where the name has one type
  refine ⟨text_inj hname, hf.type.eq_of_name hf'.type (text_inj htype), ?_, memberIf_inj text_inj hcomment⟩
  exact Keyed.ext_rows (table_inj (fun r _ s _ hrs => Rule.toValue_inj hrs) hrules)

theorem Entity.toValue_inj {e e' : Entity} (he : e.WellTyped t m) (he' : e'.WellTyped t m')
    (h : e.toValue = e'.toValue) : e = e' := by
  simp only [Entity.toValue, Value.object.injEq, List.cons_append, List.nil_append, List.cons.injEq, Prod.mk.injEq,
    true_and] at h
  obtain ⟨hname, htable, hfields, hcomment⟩ := h
  rw [Entity.mk.injEq]
  refine ⟨text_inj hname, text_inj htable, ?_, memberIf_inj text_inj hcomment⟩
  exact Keyed.ext_rows (table_inj (fun f hf g hg hfg => Field.toValue_inj (he.fields f hf) (he'.fields g hg) hfg) hfields)

theorem Enumeration.toValue_inj : Function.Injective Enumeration.toValue := by
  intro e e' h
  simp only [Enumeration.toValue, Value.object.injEq, List.cons.injEq, Prod.mk.injEq, true_and, and_true] at h
  obtain ⟨hname, hvalues⟩ := h
  rw [Enumeration.mk.injEq]
  exact ⟨text_inj hname, namesValue_inj hvalues⟩

theorem End.toValue_inj : Function.Injective End.toValue := by
  intro e e' h
  have hnames : ∀ x : End,
      "injectedField" ∉ (memberIf "comment" .text x.comment ++ [("required", Value.bool x.required)]).map Prod.fst := by
    intro x
    cases x.comment <;> simp [memberIf]
  simp only [End.toValue, Value.object.injEq, List.cons.injEq, Prod.mk.injEq, true_and, List.append_assoc] at h
  obtain ⟨hentity, hrest⟩ := h
  obtain ⟨hinjected, hrest⟩ := memberIf_append_inj text_inj (hnames e) (hnames e') hrest
  obtain ⟨hcomment, hrequired⟩ := memberIf_append_inj text_inj (by simp) (by simp) hrest
  rw [End.mk.injEq]
  exact ⟨text_inj hentity, hinjected, hcomment, by simpa using hrequired⟩

theorem Cardinality.name_injective : Function.Injective Cardinality.name := by
  intro c c' h
  cases c <;> cases c' <;> simp_all [Cardinality.name]

theorem Relationship.toValue_inj : Function.Injective Relationship.toValue := by
  intro r r' h
  simp only [Relationship.toValue, Value.object.injEq, List.cons.injEq, Prod.mk.injEq, true_and, and_true] at h
  obtain ⟨hcardinality, hsource, htarget⟩ := h
  rw [Relationship.mk.injEq]
  exact ⟨Cardinality.name_injective (text_inj hcardinality), End.toValue_inj hsource, End.toValue_inj htarget⟩

/-- the member for the exceptions of a directive -/
def exceptions (names : List String) : List (String × Value) :=
  if names.isEmpty then [] else [("excludedNames", namesValue names)]

theorem exceptions_inj : Function.Injective exceptions := by
  intro ns ns' h
  cases ns <;> cases ns' <;> simp_all [exceptions, namesValue_inj.eq_iff]

theorem Directive.toValue_eq (x : Directive) :
    x.toValue = .object (("kind", .text (if x.subject.topic.isSetting then "binary" else "unary")) ::
      ("name", .text x.subject.topic.name) :: (memberIf "value" .text x.subject.value? ++
        ("entityNames", namesValue x.targets.rows) :: exceptions x.excluded.rows)) := by
  simp [Directive.toValue, exceptions]

theorem Directive.toValue_inj : Function.Injective Directive.toValue := by
  intro x y h
  have hnames : ∀ z : Directive,
      "value" ∉ (("entityNames", namesValue z.targets.rows) :: exceptions z.excluded.rows).map Prod.fst := by
    intro z
    cases z.excluded.rows <;> simp [exceptions]
  simp only [Directive.toValue_eq, Value.object.injEq, List.cons.injEq, Prod.mk.injEq, true_and] at h
  obtain ⟨-, hname, hrest⟩ := h
  obtain ⟨hvalue, hrest⟩ := memberIf_append_inj text_inj (hnames x) (hnames y) hrest
  simp only [List.cons.injEq, Prod.mk.injEq, true_and] at hrest
  obtain ⟨htargets, hexcluded⟩ := hrest
  rw [Directive.mk.injEq]
  exact ⟨Subject.eq_of_name (text_inj hname) hvalue, Keyed.ext_rows (namesValue_inj htargets),
    Keyed.ext_rows (exceptions_inj hexcluded)⟩

/-- **What is written of a model says everything about it.** -/
theorem Model.toValue_inj (hm : m.WellTyped t) (hm' : m'.WellTyped t) (h : m.toValue = m'.toValue) : m = m' := by
  simp only [Model.toValue, Value.object.injEq, List.cons.injEq, Prod.mk.injEq, true_and, and_true,
    Value.list.injEq] at h
  obtain ⟨hentities, henumerations, hrelationships, hdirectives⟩ := h
  rw [Model.mk.injEq]
  refine ⟨?_, ?_, ?_, ?_⟩
  · refine Keyed.ext_rows (table_inj (fun e he e' he' hee => ?_) hentities)
    exact Entity.toValue_inj (hm.entities e he) (hm'.entities e' he') hee
  · exact Keyed.ext_rows (table_inj (fun e _ e' _ hee => Enumeration.toValue_inj hee) henumerations)
  · exact List.map_injective_iff.2 Relationship.toValue_inj hrelationships
  · exact List.map_injective_iff.2 Directive.toValue_inj hdirectives

/-! ## Compiled models -/

/-- **The text of a model says everything about it.** Models that are compiled for one technology, from whatever documents,
and have the same text are the same: every row of every table in the same place, every type, comment, argument, relationship
and directive. -/
theorem compile_render_inj {d d' : Document} {s : String} {m m' : Model} (hm : compile (some d) (some s) = .ok m)
    (hm' : compile (some d') (some s) = .ok m') (h : m.render = m'.render) : m = m' := by
  obtain ⟨t, rfl, hd, rfl⟩ := compile_eq_ok.1 hm
  obtain ⟨t', ht, hd', rfl⟩ := compile_eq_ok.1 hm'
  cases Storage.name_injective ht
  have hwell := (Document.describes_build hd).wellTyped hd
  have hwell' := (Document.describes_build hd').wellTyped hd'
  exact Model.toValue_inj hwell hwell' (render_inj (Model.withoutReals hwell) (Model.withoutReals hwell') h)

/-- an entity with an empty comment and a field of an enumeration, and a directive on what is left of all entities -/
def plainly : Document where
  entities := [
    { name := "A", comment := some "", fields := [
      { name := "u", type := "UUID", clauses := [{ key := "required" }] },
      { name := "s", type := "String", clauses := [{ key := "pattern", argument := some (.text "\"+") }] }] },
    { name := "B" }]
  enumerations := [{ name := "UUID", values := ["unset"] }]
  directives := [{ name := "dto", value := some "mapstruct", targets := ["A"], excluded := ["B"] }]

/-- the same in other words: a declaration that a later one replaces, the reserved field, a table with the name of its
entity, a directive on all entities but one -/
def otherwise : Document where
  entities := [
    { name := "A", table := some "a" },
    { name := "B", table := some "B", fields := [{ name := "id", type := "None" }] },
    { name := "A", table := some "", comment := some "", fields := [
      { name := "u", type := "UUID", clauses := [{ key := "required" }] },
      { name := "s", type := "String", clauses := [{ key := "pattern", argument := some (.text "\"+") }] }] }]
  enumerations := [{ name := "UUID", values := ["first"] }, { name := "UUID", values := ["unset"] }]
  directives := [{ name := "dto", value := some "mapstruct", targets := ["*"], excluded := ["B", "B"] }]

theorem plainly_same_as_otherwise :
    compile (some plainly) (some "mongodb") = .ok (plainly.build .mongodb) ∧
      compile (some otherwise) (some "mongodb") = .ok (otherwise.build .mongodb) ∧
      (plainly.build .mongodb).render = (otherwise.build .mongodb).render ∧
      plainly.build .mongodb = otherwise.build .mongodb := by
  have hplainly : compile (some plainly) (some "mongodb") = .ok (plainly.build .mongodb) :=
    compile_eq_ok.2 ⟨.mongodb, rfl, by decide +kernel, rfl⟩
  have hotherwise : compile (some otherwise) (some "mongodb") = .ok (otherwise.build .mongodb) :=
    compile_eq_ok.2 ⟨.mongodb, rfl, by decide +kernel, rfl⟩
  have hwritten : (plainly.build .mongodb).toValue.write = (otherwise.build .mongodb).toValue.write := by
    decide +kernel
  have htext : (plainly.build .mongodb).render = (otherwise.build .mongodb).render := congrArg String.ofList hwritten
  exact ⟨hplainly, hotherwise, htext, compile_render_inj hplainly hotherwise htext⟩

end EntitySchema
