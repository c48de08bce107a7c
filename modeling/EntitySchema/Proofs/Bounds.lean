/-
Numbers as arguments: bounds and lengths. Whatever literal stands in the text of a document as the argument of a bound, the
document compiles just when the literal is a whole number of 64 bits with sign, for a length one that is not negative; the
model then holds this number. No other literal is accepted in its place, however close to one its value is.

What is said of the reserved field is not looked at, so a literal there need not be a bound at all; and of an entity that a
later one replaces, nothing is in the model.

- `Site.wellFormed_iff`: of a document that is well formed with one argument at a site, only the constraint there matters.
- `Site.rule_build`: the rule of the site in the model.
- `compileText_bound`: the literals that are accepted as bounds and lengths, and the model with them.
- `reserved_bound`: a bound of the reserved field that is not accepted elsewhere.
-/
import EntitySchema.Proofs.Decoding
import EntitySchema.Proofs.Description
import EntitySchema.Proofs.Substitution
import Mathlib.Algebra.Group.Int.Defs

namespace EntitySchema

open EntitySchema.Decimal EntitySchema.Json

variable {t : Storage} {site : Site} {a b : Argument} {k : Constraint}

namespace Site

/-! ## Names -/

theorem entityNames_documentWith (site : Site) (a b : Argument) :
    (site.documentWith a).entityNames = (site.documentWith b).entityNames := by
  simp only [Document.entityNames, documentWith, List.map_append, List.map_cons]
  rfl

theorem keys_fieldWith (site : Site) (a b : Argument) :
    (site.fieldWith a).clauses.map Clause.key = (site.fieldWith b).clauses.map Clause.key := by
  simp only [fieldWith, List.map_append, List.map_cons]
  rfl

theorem names_ownFields (site : Site) (a b : Argument) :
    (site.entityWith a).ownFields.map FieldDecl.name = (site.entityWith b).ownFields.map FieldDecl.name := by
  have hname : ∀ c, (site.fieldWith c).name = site.field.name := fun _ => rfl
  simp only [EntityDecl.ownFields, entityWith, List.filter_append, List.filter_cons, hname]
  split_ifs
  · simp only [List.map_append, List.map_cons, hname]
  · rfl

theorem mem_ownFields (hown : site.field.name ≠ reservedField) : site.fieldWith a ∈ (site.entityWith a).ownFields :=
  List.mem_filter.2 ⟨List.mem_append_right _ List.mem_cons_self, bne_iff_ne.2 hown⟩

/-- the other fields do not hang on the argument -/
theorem mem_ownFields_cases {f : FieldDecl} (hf : f ∈ (site.entityWith a).ownFields) :
    f = site.fieldWith a ∨ ∀ b, f ∈ (site.entityWith b).ownFields := by
  obtain ⟨hmem, hname⟩ := List.mem_filter.1 hf
  exact (mem_of_replaced hmem).imp_right fun hother b => List.mem_filter.2 ⟨hother (site.fieldWith b), hname⟩

/-! ## Well-formedness -/

section

variable {d : Document} (hk : k.name = site.key)
include hk

theorem fieldWith_wellFormed_iff (h : (site.fieldWith a).WellFormed t d) :
    (site.fieldWith b).WellFormed t d ↔ k.Fits (some b) := by
  have hmem : ∀ c, site.clauseWith c ∈ (site.fieldWith c).clauses :=
    fun c => List.mem_append_right _ List.mem_cons_self
  constructor
  · intro hb
    obtain ⟨type, _, hclauses⟩ := hb.typed
    obtain ⟨k', hk', _, hfits⟩ := hclauses _ (hmem b)
    obtain rfl : k' = k := Constraint.name_injective (hk'.trans hk.symm)
    exact hfits
  · intro hfits
    obtain ⟨type, htype, hclauses⟩ := h.typed
    refine ⟨h.named, ⟨type, htype, fun c hc => ?_⟩, keys_fieldWith site a b ▸ h.distinct⟩
    rcases mem_of_replaced hc with rfl | hother
    · obtain ⟨k', hk', hcarries, _⟩ := hclauses _ (hmem a)
      obtain rfl : k' = k := Constraint.name_injective (hk'.trans hk.symm)
      exact ⟨k', hk', hcarries, hfits⟩
    · exact hclauses c (hother (site.clauseWith a))

variable (hown : site.field.name ≠ reservedField)
include hown

theorem entityWith_wellFormed_iff (h : (site.entityWith a).WellFormed t d) :
    (site.entityWith b).WellFormed t d ↔ k.Fits (some b) := by
  have hfield := h.fields _ (mem_ownFields hown)
  rw [← fieldWith_wellFormed_iff hk hfield]
  constructor
  · intro hb
    exact hb.fields _ (mem_ownFields hown)
  · intro hb
    refine ⟨h.named, fun f hf => ?_, names_ownFields site a b ▸ h.distinct⟩
    rcases mem_ownFields_cases hf with rfl | hother
    · exact hb
    · exact h.fields f (hother a)

/-- **One argument.** In a document that is well formed with one argument at a site, another one must fit the constraint
there, and nothing else. -/
theorem wellFormed_iff (h : (site.documentWith a).WellFormed t) :
    (site.documentWith b).WellFormed t ↔ k.Fits (some b) := by
  have hmem : ∀ c, site.entityWith c ∈ (site.documentWith c).entities :=
    fun c => List.mem_append_right _ List.mem_cons_self
  have henumerations : (site.documentWith a).enumerationNames ⊆ (site.documentWith b).enumerationNames :=
    List.Subset.refl _
  have hentities : (site.documentWith a).entityNames ⊆ (site.documentWith b).entityNames :=
    entityNames_documentWith site a b ▸ List.Subset.refl _
  have hentity : (site.entityWith a).WellFormed t (site.documentWith b) := (h.entities _ (hmem a)).mono henumerations
  rw [← entityWith_wellFormed_iff hk hown hentity]
  constructor
  · intro hb
    exact hb.entities _ (hmem b)
  · intro hb
    refine ⟨fun e he => ?_, h.enumerations, fun r hr => (h.relationships r hr).mono hentities,
      fun x hx => (h.directives x hx).mono hentities⟩
    rcases mem_of_replaced he with rfl | hother
    · exact hb
    · exact (h.entities e (hother (site.entityWith a))).mono henumerations

end

end Site

/-! ## The model -/

theorem EntityDecl.Describes.field? {d : Document} {e : EntityDecl} {entity : Entity} (h : e.Describes t d entity)
    {f : FieldDecl} (hf : f ∈ e.ownFields) : ∃ field, entity.field? f.name = some field ∧ f.Describes t d field := by
  obtain ⟨field, hfield, hdescribes⟩ := forall₂_exists_of_mem_right h.fields.flip hf
  exact ⟨field, Keyed.find?_eq_some_iff.2 ⟨hfield, hdescribes.name⟩, hdescribes⟩

theorem FieldDecl.Describes.rule? {d : Document} {f : FieldDecl} {field : Field} (h : f.Describes t d field) {c : Clause}
    (hc : c ∈ f.clauses) (hk : k.name = c.key) : field.rule? k = some ⟨k, c.argument⟩ := by
  obtain ⟨rule, hrule, hdescribes⟩ := forall₂_exists_of_mem_right h.rules.flip hc
  have hconstraint : rule.constraint = k := Constraint.name_injective (hdescribes.constraint.trans hk.symm)
  have hargument := hdescribes.argument
  obtain ⟨_, _⟩ := rule
  subst hconstraint hargument
  exact Keyed.find?_eq_some_iff.2 ⟨hrule, rfl⟩

def Model.rule? (m : Model) (entity field : String) (k : Constraint) : Option Rule :=
  ((m.entity? entity).bind fun e => e.field? field).bind fun f => f.rule? k

/-- the rule of the site is in the model, unless a later entity takes the place of its entity -/
theorem Site.rule_build (h : (site.documentWith a).WellFormed t) (hk : k.name = site.key)
    (hown : site.field.name ≠ reservedField) (hlast : ∀ e ∈ site.entitiesAfter, e.name ≠ site.entity.name) :
    ((site.documentWith a).build t).rule? site.entity.name site.field.name k = some ⟨k, some a⟩ := by
  have hthere : LastOf EntityDecl.name (site.documentWith a).entities (site.entityWith a) :=
    ⟨site.entitiesBefore, site.entitiesAfter, rfl, hlast⟩
  have hname : site.entity.name ∈ (site.documentWith a).entityNames := List.mem_map.2 ⟨_, hthere.mem, rfl⟩
  obtain ⟨e, he, hsame, entity, hentity, hdescribes⟩ := (Document.describes_build h).entities _ hname
  obtain rfl := he.unique hthere hsame
  obtain ⟨field, hfield, hrules⟩ := hdescribes.field? (mem_ownFields hown)
  have hrule : field.rule? k = some ⟨k, some a⟩ := hrules.rule? (List.mem_append_right _ List.mem_cons_self) hk
  calc ((site.documentWith a).build t).rule? site.entity.name site.field.name k
      = (entity.field? site.field.name).bind fun f => f.rule? k := by rw [Model.rule?, hentity, Option.bind_some]
    _ = field.rule? k := by rw [show entity.field? site.field.name = some field from hfield, Option.bind_some]
    _ = some ⟨k, some a⟩ := hrule

/-! ## Literals that are accepted -/

theorem compileText_eq_ok {text : String} {m : Model} :
    compileText text (some t.name) = .ok m ↔
      ∃ d, Document.ofText text = .ok (some d) ∧ d.WellFormed t ∧ d.build t = m := by
  rw [compileText]
  cases Document.ofText text with
  | error f => simp
  | ok found =>
    cases found with
    | none => simp [compile]
    | some d =>
      rw [compile_eq_ok]
      constructor
      · intro h
        obtain ⟨t', ht', hd, hm⟩ := h
        obtain rfl := Storage.name_injective ht'
        exact ⟨d, rfl, hd, hm⟩
      · intro h
        obtain ⟨d', hfound, hd, hm⟩ := h
        obtain rfl := Option.some.inj (Except.ok.inj hfound)
        exact ⟨t, rfl, hd, hm⟩

/-- a number fits bounds and lengths only, as a whole number of 64 bits with sign -/
theorem fits_number_iff {n : Number} :
    k.Fits (some (.number n)) ↔
      ∃ z : Int64, n = .integer z ∧ (k.shape = .integer ∨ k.shape = .length ∧ 0 ≤ z.toInt) := by
  cases k <;> simp [Constraint.Fits, Constraint.shape]

theorem numberOf_eq_integer_iff {w : Literal} {n : Int64} : numberOf w = .ok (.integer n) ↔ w.Denotes n.toInt := by
  rw [← Literal.number?_eq_integer_iff, numberOf]
  cases w.number? <;> simp

/-- the numbers of 64 bits with sign -/
theorem exists_int64_iff {P : Int → Prop} : (∃ n : Int64, P n.toInt) ↔ ∃ z, P z ∧ -2 ^ 63 ≤ z ∧ z ≤ 2 ^ 63 - 1 := by
  constructor
  · intro h
    obtain ⟨n, hn⟩ := h
    have hhigh : n.toInt < 2 ^ 63 := n.toInt_lt
    exact ⟨n.toInt, hn, n.le_toInt, by omega⟩
  · intro h
    obtain ⟨z, hz, hlow, hhigh⟩ := h
    exact ⟨Int64.ofInt z, by rwa [Int64.toInt_ofInt_of_le hlow (by omega)]⟩

/-- those that are not negative -/
theorem exists_length_iff {P : Int → Prop} :
    (∃ n : Int64, P n.toInt ∧ 0 ≤ n.toInt) ↔ ∃ z, P z ∧ 0 ≤ z ∧ z ≤ 2 ^ 63 - 1 := by
  rw [exists_int64_iff (P := fun z => P z ∧ 0 ≤ z)]
  constructor
  · intro h
    obtain ⟨z, ⟨hz, hpos⟩, _, hhigh⟩ := h
    exact ⟨z, hz, hpos, hhigh⟩
  · intro h
    obtain ⟨z, hz, hpos, hhigh⟩ := h
    exact ⟨z, ⟨hz, hpos⟩, by omega, hhigh⟩

theorem Slot.wellFormed_zero {front back : String} (h : Slot front back site)
    (hvalid : ∃ m, compileText (front ++ "0" ++ back) (some t.name) = .ok m) :
    (site.documentWith (.number (.integer 0))).WellFormed t := by
  obtain ⟨_, hzero⟩ := hvalid
  obtain ⟨_, hread, hwell, _⟩ := compileText_eq_ok.1 hzero
  obtain rfl := Option.some.inj (Except.ok.inj (h.zero.symm.trans hread))
  exact hwell

section

variable {front back text : String} {w : Literal} (h : Slot front back site) (hw : w.SpelledBy text.toList)
  (hvalid : ∃ m, compileText (front ++ "0" ++ back) (some t.name) = .ok m) (hk : k.name = site.key)
  (hown : site.field.name ≠ reservedField)
include h hw hvalid hk hown

/-- where the text with a zero in the slot compiles, the text with a literal there compiles just when the number of the
literal fits -/
theorem Slot.compileText_eq_ok {m : Model} :
    compileText (front ++ text ++ back) (some t.name) = .ok m ↔
      ∃ n : Int64, (w.Denotes n.toInt ∧ (k.shape = .integer ∨ k.shape = .length ∧ 0 ≤ n.toInt)) ∧
        (site.documentWith (.number (.integer n))).WellFormed t ∧
          (site.documentWith (.number (.integer n))).build t = m := by
  have hwell := h.wellFormed_zero hvalid
  rw [EntitySchema.compileText_eq_ok, h.ofText hw]
  simp only [Outcome.map_eq_ok, Option.some.injEq]
  constructor
  · intro hok
    obtain ⟨_, ⟨n, hn, rfl⟩, hd, hm⟩ := hok
    obtain ⟨z, rfl, hshape⟩ := fits_number_iff.1 ((Site.wellFormed_iff hk hown hwell).1 hd)
    exact ⟨z, ⟨numberOf_eq_integer_iff.1 hn, hshape⟩, hd, hm⟩
  · intro hok
    obtain ⟨z, ⟨hz, _⟩, hd, hm⟩ := hok
    exact ⟨_, ⟨_, numberOf_eq_integer_iff.2 hz, rfl⟩, hd, hm⟩

theorem Slot.compiles_iff :
    (∃ m, compileText (front ++ text ++ back) (some t.name) = .ok m) ↔
      ∃ n : Int64, w.Denotes n.toInt ∧ (k.shape = .integer ∨ k.shape = .length ∧ 0 ≤ n.toInt) := by
  simp only [h.compileText_eq_ok hw hvalid hk hown]
  constructor
  · intro hm
    obtain ⟨_, n, hn, _⟩ := hm
    exact ⟨n, hn⟩
  · intro hn
    obtain ⟨n, hn, hshape⟩ := hn
    have hwell := (Site.wellFormed_iff hk hown (h.wellFormed_zero hvalid)).2 (fits_number_iff.2 ⟨n, rfl, hshape⟩)
    exact ⟨_, n, ⟨hn, hshape⟩, hwell, rfl⟩

/-- **Bounds and lengths.** Where the text of a document with a zero as the argument of a constraint compiles, the text
with any literal in its place compiles just when the literal is written as a whole number in the range: that of 64 bits with
sign for a bound, and without the negative ones for a length. The model is that of the document with this number; unless a
later entity takes the place of the one around it, the rule in the model has this number. -/
theorem compileText_bound :
    (k ∈ [Constraint.min, .max] →
      ((∃ m, compileText (front ++ text ++ back) (some t.name) = .ok m) ↔
        ∃ z, w.Denotes z ∧ -2 ^ 63 ≤ z ∧ z ≤ 2 ^ 63 - 1)) ∧
    (k ∈ [Constraint.minLength, .maxLength, .minBytes, .maxBytes] →
      ((∃ m, compileText (front ++ text ++ back) (some t.name) = .ok m) ↔
        ∃ z, w.Denotes z ∧ 0 ≤ z ∧ z ≤ 2 ^ 63 - 1)) ∧
    ∀ m, compileText (front ++ text ++ back) (some t.name) = .ok m →
      ∃ n : Int64, w.Denotes n.toInt ∧ m = (site.documentWith (.number (.integer n))).build t ∧
        ((∀ e ∈ site.entitiesAfter, e.name ≠ site.entity.name) →
          m.rule? site.entity.name site.field.name k = some ⟨k, some (.number (.integer n))⟩) := by
  have hcompiles := h.compiles_iff hw hvalid hk hown
  refine ⟨fun hbound => ?_, fun hlength => ?_, fun m hm => ?_⟩
  · have hshape : k.shape = .integer := by
      cases k <;> simp_all [Constraint.shape]
    rw [hcompiles, ← exists_int64_iff]
    simp [hshape]
  · have hshape : k.shape = .length := by
      cases k <;> simp_all [Constraint.shape]
    rw [hcompiles, ← exists_length_iff]
    simp [hshape]
  · obtain ⟨n, ⟨hn, _⟩, hd, rfl⟩ := (h.compileText_eq_ok hw hvalid hk hown).1 hm
    exact ⟨n, hn, rfl, fun hlast => Site.rule_build hd hk hown hlast⟩

end

/-! ## A bound in a text -/

/-- the text of a document up to the argument of a bound of a field -/
def boundFront (field : String) : String :=
  String.ofList [['\x7b'], writeText "entities", [':'], ['['], ['\x7b'], writeText "name", [':'], writeText "A", [','],
    writeText "body", [':'], ['['], ['\x7b'], writeText "name", [':'], writeText field, [','], writeText "type", [':'],
    writeText "Integer", [','], writeText "validations", [':'], ['['], ['\x7b'], writeText "key", [':'],
    writeText "min", [','], writeText "value", [':']].flatten

/-- and after it -/
def boundBack : String := "\x7d]\x7d]\x7d]\x7d"

def boundSite (field : String) : Site where
  key := "min"
  field := { name := field, type := "Integer" }
  entity := { name := "A" }

theorem cut_boundFront (field : String) : Cut (boundFront field).toList := by
  rw [boundFront, String.toList_ofList]
  exact .flatten (by simp [cut_text, cut_mark])

theorem slot_bound : Slot (boundFront "n") boundBack (boundSite "n") where
  cut := cut_boundFront "n"
  delimited := delimited_cons (by decide) (by decide)
  zero := by decide +kernel
  one := by decide +kernel

/-- the least bound that there is, and one past the greatest -/
theorem outermost_bounds :
    (∃ m, compileText (boundFront "n" ++ "-9223372036854775808" ++ boundBack) (some "sql") = .ok m ∧
      m.rule? "A" "n" .min = some ⟨.min, some (.number (.integer Int64.minValue))⟩) ∧
      ¬ ∃ m, compileText (boundFront "n" ++ "9223372036854775808" ++ boundBack) (some "sql") = .ok m := by
  have hvalid : ∃ m, compileText (boundFront "n" ++ "0" ++ boundBack) (some "sql") = .ok m :=
    ⟨_, (compileText_eq_ok (t := .sql)).2 ⟨_, slot_bound.zero, by decide +kernel, rfl⟩⟩
  have hleast : (wholeLiteral (-2 ^ 63)).SpelledBy "-9223372036854775808".toList := spelledBy_wholeLiteral (-2 ^ 63)
  have hpast : (wholeLiteral (2 ^ 63)).SpelledBy "9223372036854775808".toList := spelledBy_wholeLiteral (2 ^ 63)
  obtain ⟨hbound, _, hmodel⟩ :=
    compileText_bound (t := .sql) (k := .min) slot_bound hleast hvalid rfl (by decide)
  obtain ⟨hbound', _, _⟩ := compileText_bound (t := .sql) (k := .min) slot_bound hpast hvalid rfl (by decide)
  constructor
  · obtain ⟨m, hm⟩ := (hbound (by decide)).2 ⟨-2 ^ 63, denotes_wholeLiteral _, by decide, by decide⟩
    obtain ⟨n, hn, _, hrule⟩ := hmodel m hm
    have hvalue : n = Int64.minValue := Int64.toInt_inj.1 (hn.unique (denotes_wholeLiteral (-2 ^ 63)))
    exact ⟨m, hm, hvalue ▸ hrule (by simp [boundSite])⟩
  · intro hm
    obtain ⟨z, hz, _, hhigh⟩ := (hbound' (by decide)).1 hm
    have hvalue : z = 2 ^ 63 := hz.unique (denotes_wholeLiteral (2 ^ 63))
    omega

def oneAndHalf : Literal := ⟨false, ['1'], some ['5'], none⟩

theorem oneAndHalf_spelled : oneAndHalf.SpelledBy "1.5".toList := by
  have hdigit : ∀ {d : Char}, d.isDigit → SomeDigits [d] := fun hd => ⟨by simp, by simpa using hd⟩
  have hwhole : WholeDigits oneAndHalf.whole := ⟨hdigit (by decide), by decide⟩
  exact .positive rfl (.intro (w := oneAndHalf) hwhole (.some (hdigit (by decide))) .none)

/-- **Where a number is no bound.** A bound of the reserved field is not looked at, so that `1.5` is accepted. And where a
later entity takes the place of the one around it, a bound that is accepted is not in the model. -/
theorem reserved_bound :
    (Slot (boundFront "id") boundBack (boundSite "id") ∧
      oneAndHalf.SpelledBy "1.5".toList ∧ (∀ z, ¬ oneAndHalf.Denotes z) ∧
        boundFront "id" ++ "1.5" ++ boundBack =
          "\x7b\"entities\":[\x7b\"name\":\"A\",\"body\":[\x7b\"name\":\"id\",\"type\":\"Integer\"," ++
            "\"validations\":[\x7b\"key\":\"min\",\"value\":1.5\x7d]\x7d]\x7d]\x7d" ∧
          ∃ m, compileText (boundFront "id" ++ "1.5" ++ boundBack) (some "sql") = .ok m) ∧
    ∃ m, compileText (boundFront "n" ++ "5" ++ "\x7d]\x7d]\x7d,\x7b\"name\":\"A\"\x7d]\x7d") (some "sql") = .ok m ∧
      m.rule? "A" "n" .min = none := by
  have hslot : Slot (boundFront "id") boundBack (boundSite "id") :=
    ⟨cut_boundFront "id", delimited_cons (by decide) (by decide), by decide +kernel, by decide +kernel⟩
  have hnone : ∀ z, ¬ oneAndHalf.Denotes z := by
    intro z hz
    cases hz.fraction
  have hreserved : compileText (boundFront "id" ++ "1.5" ++ boundBack) (some "sql") =
      .ok { entities := .ofList [{ name := "A", table := "A" }] } := by decide +kernel
  have hreplaced : compileText (boundFront "n" ++ "5" ++ "\x7d]\x7d]\x7d,\x7b\"name\":\"A\"\x7d]\x7d") (some "sql") =
      .ok { entities := .ofList [{ name := "A", table := "A" }] } := by decide +kernel
  exact ⟨⟨hslot, oneAndHalf_spelled, hnone, by decide +kernel, _, hreserved⟩, _, hreplaced, by decide +kernel⟩

end EntitySchema
