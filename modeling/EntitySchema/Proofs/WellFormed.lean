/-
What a document has to satisfy, said without an order of looking: rules for each kind of declaration, which hold of every
declaration wherever it stands, also of those that a later one of the same name replaces.

References go to names: a type to a builtin type of the storage or else to an enumeration of the document, an end of a
relationship and a target of a directive to an entity of the document. So a declaration depends on the rest of its
document only through the names declared there.

- `Document.WellFormed`: the rules of all declarations together.
- `Document.Denotes`: what a type name means in a document; `fieldType?_iff`: this is the type that look-up finds.
- `EntityDecl.WellFormed.mono`, `RelationshipDecl.WellFormed.mono`, `DirectiveDecl.WellFormed.mono`: more declared names
  never break a rule, and never change what a type name means that had a meaning before (`Denotes.mono`).
-/
import EntitySchema.Document.Names
import EntitySchema.Pattern.Basic
import EntitySchema.Proofs.Vocabulary
import EntitySchema.Vocabulary.Cardinality

namespace EntitySchema

/-! ## Fields -/

/-- the constraints that a field of this type may carry: what a builtin type lists, `required` for an enumeration -/
def FieldType.Carries : FieldType → Constraint → Prop
  | .builtin b, k => k ∈ b.constraints
  | .enumeration _, k => k = .required

/-- the argument is what the constraint asks for -/
def Constraint.Fits (argument : Option Argument) : Constraint → Prop
  | .required => argument = none
  | .min | .max => ∃ n : Int64, argument = some (.number (.integer n))
  | .minLength | .maxLength | .minBytes | .maxBytes =>
    ∃ n : Int64, argument = some (.number (.integer n)) ∧ 0 ≤ n.toInt
  | .pattern => ∃ s : String, argument = some (.text s) ∧ s ≠ "" ∧ Pattern.isPattern s = true

/-- the key names a constraint that the type may carry, with an argument that fits -/
def Clause.WellFormed (type : FieldType) (c : Clause) : Prop :=
  ∃ k : Constraint, k.name = c.key ∧ type.Carries k ∧ k.Fits c.argument

/-- what a type name means in a document: a builtin type of the storage, or else an enumeration of the document -/
inductive Document.Denotes (t : Storage) (d : Document) : String → FieldType → Prop where
  | builtin (b : Builtin) (hb : b ∈ t.types) : Denotes t d b.name (.builtin b)
  | enumeration (n : String) (hfree : ∀ b ∈ t.types, b.name ≠ n) (hn : n ∈ d.enumerationNames) :
    Denotes t d n (.enumeration n)

/-- a name, a type that means something, and clauses on different constraints that fit the type -/
structure FieldDecl.WellFormed (t : Storage) (d : Document) (f : FieldDecl) : Prop where
  named : f.name ≠ ""
  typed : ∃ type, d.Denotes t f.type type ∧ ∀ c ∈ f.clauses, c.WellFormed type
  distinct : (f.clauses.map Clause.key).Nodup

/-- a name, and fields of different names; what is said of the reserved field does not matter -/
structure EntityDecl.WellFormed (t : Storage) (d : Document) (e : EntityDecl) : Prop where
  named : e.name ≠ ""
  fields : ∀ f ∈ e.ownFields, f.WellFormed t d
  distinct : (e.ownFields.map FieldDecl.name).Nodup

/-! ## Enumerations, relationships and directives -/

/-- a name, and at least one value, none of them empty or repeated -/
structure EnumDecl.WellFormed (e : EnumDecl) : Prop where
  named : e.name ≠ ""
  inhabited : e.values ≠ []
  values : ∀ v ∈ e.values, v ≠ ""
  distinct : e.values.Nodup

/-- a known cardinality, and entities of the document at both ends -/
structure RelationshipDecl.WellFormed (d : Document) (r : RelationshipDecl) : Prop where
  known : ∃ c, Cardinality.ofName? r.cardinality = some c
  source : r.source.entity ∈ d.entityNames
  target : r.target.entity ∈ d.entityNames

/-- a flag takes no value, a setting takes one that it accepts -/
def Topic.Takes (value : Option String) : Topic → Prop
  | .flag _ => value = none
  | .setting o => ∃ v, value = some v ∧ o.accepts v = true

/-- a known topic with the value it takes, and targets; targets and exceptions are entities of the document -/
structure DirectiveDecl.WellFormed (d : Document) (x : DirectiveDecl) : Prop where
  known : ∃ topic : Topic, topic.name = x.name ∧ topic.Takes x.value
  aimed : x.targets ≠ []
  targets : ∀ n ∈ x.targets, n = wildcard ∨ n ∈ d.entityNames
  excluded : ∀ n ∈ x.excluded, n ∈ d.entityNames

/-- every declaration satisfies its rules -/
structure Document.WellFormed (t : Storage) (d : Document) : Prop where
  entities : ∀ e ∈ d.entities, e.WellFormed t d
  enumerations : ∀ e ∈ d.enumerations, e.WellFormed
  relationships : ∀ r ∈ d.relationships, r.WellFormed d
  directives : ∀ x ∈ d.directives, x.WellFormed d

/-! ## What a type name means -/

variable {t : Storage} {d d' : Document}

theorem Document.isEntity_iff {n : String} : d.names.isEntity n = true ↔ n ∈ d.entityNames := by
  simp [Names.isEntity, Keyed.contains, Document.names, Keyed.mem_keys_ofList]

theorem Document.isEnumeration_iff {n : String} : d.names.isEnumeration n = true ↔ n ∈ d.enumerationNames := by
  simp [Names.isEnumeration, Keyed.contains, Document.names, Keyed.mem_keys_ofList]

/-- the type that is found under a name is what the name means -/
theorem Document.fieldType?_iff {n : String} {type : FieldType} :
    d.names.fieldType? t n = some type ↔ d.Denotes t n type := by
  unfold Names.fieldType?
  cases hb : t.builtin? n with
  | some b =>
    obtain ⟨hmemb, rfl⟩ := Storage.builtin?_iff.1 hb
    constructor
    · intro h
      cases h
      exact .builtin b hmemb
    · intro h
      generalize hn : b.name = n at h hb
      cases h with
      | builtin c hc =>
        rw [Storage.builtin?_iff.2 ⟨hc, rfl⟩] at hb
        cases hb; rfl
      | enumeration _ hfree => exact absurd hn (hfree b hmemb)
  | none =>
    have hfree : ∀ b ∈ t.types, b.name ≠ n := by
      intro b hm hn
      rw [Storage.builtin?_iff.2 ⟨hm, hn⟩] at hb
      cases hb
    constructor
    · intro h
      split_ifs at h with hd
      cases h
      exact .enumeration n hfree (isEnumeration_iff.1 hd)
    · intro h
      cases h with
      | builtin b hm => exact absurd rfl (hfree b hm)
      | enumeration _ _ hn => rw [if_pos (isEnumeration_iff.2 hn)]

theorem Document.fieldType?_eq_none {n : String} :
    d.names.fieldType? t n = none ↔ ∀ type, ¬ d.Denotes t n type := by
  simp only [Option.eq_none_iff_forall_ne_some, ne_eq, fieldType?_iff]

theorem Document.Denotes.unique {n : String} {a b : FieldType} (ha : d.Denotes t n a) (hb : d.Denotes t n b) :
    a = b := by
  have h := (fieldType?_iff.2 ha).symm.trans (fieldType?_iff.2 hb)
  exact Option.some.inj h

theorem Document.Denotes.mono {n : String} {type : FieldType} (h : d.Denotes t n type)
    (hsub : d.enumerationNames ⊆ d'.enumerationNames) : d'.Denotes t n type := by
  cases h with
  | builtin b hb => exact .builtin b hb
  | enumeration _ hfree hn => exact .enumeration n hfree (hsub hn)

/-! ## More names -/

theorem FieldDecl.WellFormed.mono {f : FieldDecl} (h : f.WellFormed t d)
    (hsub : d.enumerationNames ⊆ d'.enumerationNames) : f.WellFormed t d' := by
  obtain ⟨type, htype, hclauses⟩ := h.typed
  exact ⟨h.named, ⟨type, htype.mono hsub, hclauses⟩, h.distinct⟩

theorem EntityDecl.WellFormed.mono {e : EntityDecl} (h : e.WellFormed t d)
    (hsub : d.enumerationNames ⊆ d'.enumerationNames) : e.WellFormed t d' :=
  ⟨h.named, fun f hf => (h.fields f hf).mono hsub, h.distinct⟩

theorem RelationshipDecl.WellFormed.mono {r : RelationshipDecl} (h : r.WellFormed d)
    (hsub : d.entityNames ⊆ d'.entityNames) : r.WellFormed d' :=
  ⟨h.known, hsub h.source, hsub h.target⟩

theorem DirectiveDecl.WellFormed.mono {x : DirectiveDecl} (h : x.WellFormed d)
    (hsub : d.entityNames ⊆ d'.entityNames) : x.WellFormed d' :=
  ⟨h.known, h.aimed, fun n hn => (h.targets n hn).imp_right fun hd => hsub hd, fun n hn => hsub (h.excluded n hn)⟩

end EntitySchema
