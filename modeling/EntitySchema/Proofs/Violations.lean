/-
What may be wrong with a document, and what is reported when several things are. For each kind of declaration, a relation
says which rule is broken, of which kind the problem is and what it says; a rule counts as broken only where the rules
that are looked at before it hold.

The order is: the document is given, the technology is given, it is known; then names of entities, enumerations, the
fields of each entity, relationships, directives. Within a field the name comes first, then the type, then its clauses
one by one.

- `FirstOf`: the first item of a list with something wrong.
- `Clause.Violation`, `FieldDecl.Violation`, `EnumDecl.Violation`, `RelationshipDecl.Violation`,
  `DirectiveDecl.Violation`: what may be wrong with one declaration.
- `Document.Violation`: the first thing that is wrong with a document.
- `Refused`: why no model is made.
-/
import EntitySchema.Problem
import EntitySchema.Proofs.WellFormed

namespace EntitySchema

/-- something is wrong with an item, seen after the items before it, and these are fine -/
def FirstOf {α : Type} (fine : List α → Prop) (bad : List α → α → Prop) (xs : List α) : Prop :=
  ∃ before x after, xs = before ++ x :: after ∧ fine before ∧ bad before x

/-! ## Fields -/

/-- the argument is of the shape that the constraint asks for, whatever a pattern says -/
def Constraint.Shaped (argument : Option Argument) : Constraint → Prop
  | .pattern => ∃ s : String, argument = some (.text s) ∧ s ≠ ""
  | k => k.Fits argument

/-- what is wrong with a clause on a field of this type -/
inductive Clause.Misfit (type : FieldType) (c : Clause) : ClauseProblem → Prop where
  | unknown (h : ∀ k : Constraint, k.name ≠ c.key) : Misfit type c (.unknown c.key)
  | unsupported {k : Constraint} (hk : k.name = c.key) (h : ¬ type.Carries k) : Misfit type c (.unsupported k type)
  | wrongShape {k : Constraint} (hk : k.name = c.key) (hcarried : type.Carries k) (h : ¬ k.Shaped c.argument) :
    Misfit type c (.wrongShape k c.argument)
  | badPattern {pattern : String} {fault : Pattern.Fault} (hk : Constraint.pattern.name = c.key)
    (hcarried : type.Carries .pattern) (hargument : c.argument = some (.text pattern)) (hne : pattern ≠ "")
    (h : Pattern.fault? pattern.toList = some fault) : Misfit type c (.badPattern pattern fault)

/-- what is wrong with a clause that comes after the `earlier` ones of its field -/
inductive Clause.Violation (type : FieldType) (earlier : List Clause) (c : Clause) : ClauseProblem → Prop where
  | misfit {problem : ClauseProblem} (h : c.Misfit type problem) : Violation type earlier c problem
  | repeated {k : Constraint} (hk : k.name = c.key) (hcarried : type.Carries k) (hfits : k.Fits c.argument)
    (h : c.key ∈ earlier.map Clause.key) : Violation type earlier c (.repeated k)

/-- what is wrong with a field that comes after the `earlier` ones of its entity -/
inductive FieldDecl.Violation (t : Storage) (d : Document) (entity : String) (earlier : List FieldDecl)
    (f : FieldDecl) : Kind → Problem → Prop where
  | nameless (h : f.name = "") : Violation t d entity earlier f .missing (.namelessField entity)
  | repeated (hnamed : f.name ≠ "") (h : f.name ∈ earlier.map FieldDecl.name) :
    Violation t d entity earlier f .invalid (.repeatedField entity f.name)
  | unknownType (hnamed : f.name ≠ "") (hnew : f.name ∉ earlier.map FieldDecl.name)
    (h : ∀ type, ¬ d.Denotes t f.type type) :
    Violation t d entity earlier f .unknownType (.unknownType t entity f.name f.type)
  | clause {type : FieldType} {problem : ClauseProblem} (hnamed : f.name ≠ "")
    (hnew : f.name ∉ earlier.map FieldDecl.name) (htyped : d.Denotes t f.type type)
    (h : FirstOf (fun cs => (∀ c ∈ cs, c.WellFormed type) ∧ (cs.map Clause.key).Nodup)
      (fun before c => c.Violation type before problem) f.clauses) :
    Violation t d entity earlier f .unsupported (.clause entity f.name problem)

def EntityDecl.Violation (t : Storage) (d : Document) (e : EntityDecl) (K : Kind) (p : Problem) : Prop :=
  FirstOf (fun fs => (∀ f ∈ fs, f.WellFormed t d) ∧ (fs.map FieldDecl.name).Nodup)
    (fun before f => f.Violation t d e.name before K p) e.ownFields

/-! ## Enumerations, relationships and directives -/

inductive EnumDecl.Violation (e : EnumDecl) : Kind → Problem → Prop where
  | nameless (h : e.name = "") : Violation e .missing .namelessEnumeration
  | noValues (hnamed : e.name ≠ "") (h : e.values = []) : Violation e .invalid (.noValues e.name)
  | emptyValue (hnamed : e.name ≠ "")
    (h : FirstOf (fun vs => (∀ v ∈ vs, v ≠ "") ∧ vs.Nodup) (fun _ v => v = "") e.values) :
    Violation e .invalid (.emptyValue e.name)
  | repeatedValue {value : String} (hnamed : e.name ≠ "")
    (h : FirstOf (fun vs => (∀ v ∈ vs, v ≠ "") ∧ vs.Nodup) (fun before v => v = value ∧ v ≠ "" ∧ v ∈ before) e.values) :
    Violation e .invalid (.repeatedValue e.name value)

inductive RelationshipDecl.Violation (d : Document) (r : RelationshipDecl) : Kind → Problem → Prop where
  | unknownCardinality (h : ¬ ∃ c, Cardinality.ofName? r.cardinality = some c) :
    Violation d r .invalid (.unknownCardinality r.cardinality)
  | namelessSource (hknown : ∃ c, Cardinality.ofName? r.cardinality = some c) (h : r.source.entity = "") :
    Violation d r .missing .namelessEnd
  | undeclaredSource (hknown : ∃ c, Cardinality.ofName? r.cardinality = some c) (hnamed : r.source.entity ≠ "")
    (h : r.source.entity ∉ d.entityNames) :
    Violation d r .undeclared (.undeclaredEnd r.source.entity r.target.entity r.source.entity)
  | namelessTarget (hknown : ∃ c, Cardinality.ofName? r.cardinality = some c)
    (hsource : r.source.entity ∈ d.entityNames) (h : r.target.entity = "") : Violation d r .missing .namelessEnd
  | undeclaredTarget (hknown : ∃ c, Cardinality.ofName? r.cardinality = some c)
    (hsource : r.source.entity ∈ d.entityNames) (hnamed : r.target.entity ≠ "")
    (h : r.target.entity ∉ d.entityNames) :
    Violation d r .undeclared (.undeclaredEnd r.source.entity r.target.entity r.target.entity)

inductive DirectiveDecl.Violation (d : Document) (x : DirectiveDecl) : Kind → Problem → Prop where
  | unknown (h : ∀ topic : Topic, topic.name ≠ x.name) : Violation d x .invalid (.unknownDirective x.name)
  | superfluousValue {flag : Flag} {value : String} (htopic : (Topic.flag flag).name = x.name)
    (h : x.value = some value) : Violation d x .invalid (.superfluousValue (.flag flag) value)
  | noValue {setting : Setting} (htopic : (Topic.setting setting).name = x.name) (h : x.value = none) :
    Violation d x .missing (.noValue (.setting setting))
  | wrongValue {setting : Setting} {value : String} (htopic : (Topic.setting setting).name = x.name)
    (hvalue : x.value = some value) (h : setting.accepts value = false) :
    Violation d x .invalid (.wrongValue setting value)
  | noTarget {topic : Topic} (htopic : topic.name = x.name) (hvalue : topic.Takes x.value) (h : x.targets = []) :
    Violation d x .invalid (.noTarget topic)
  | undeclaredTarget {topic : Topic} {entity : String} (htopic : topic.name = x.name) (hvalue : topic.Takes x.value)
    (h : FirstOf (fun ns => ∀ n ∈ ns, n = wildcard ∨ n ∈ d.entityNames)
      (fun _ n => n = entity ∧ n ≠ wildcard ∧ n ∉ d.entityNames) x.targets) :
    Violation d x .undeclared (.undeclaredTarget topic entity)
  | undeclaredExclusion {topic : Topic} {entity : String} (htopic : topic.name = x.name)
    (hvalue : topic.Takes x.value) (haimed : x.targets ≠ [])
    (htargets : ∀ n ∈ x.targets, n = wildcard ∨ n ∈ d.entityNames)
    (h : FirstOf (fun ns => ∀ n ∈ ns, n ∈ d.entityNames) (fun _ n => n = entity ∧ n ∉ d.entityNames) x.excluded) :
    Violation d x .undeclared (.undeclaredExclusion topic entity)

/-! ## The whole document -/

/-- the first thing that is wrong with a document -/
inductive Document.Violation (t : Storage) (d : Document) : Kind → Problem → Prop where
  | entityName (e : EntityDecl) (he : e ∈ d.entities) (h : e.name = "") : Violation t d .missing .namelessEntity
  | enumeration {K : Kind} {p : Problem} (hnames : ∀ e ∈ d.entities, e.name ≠ "")
    (h : FirstOf (fun es => ∀ e ∈ es, e.WellFormed) (fun _ e => e.Violation K p) d.enumerations) : Violation t d K p
  | entity {K : Kind} {p : Problem} (hnames : ∀ e ∈ d.entities, e.name ≠ "")
    (henumerations : ∀ e ∈ d.enumerations, e.WellFormed)
    (h : FirstOf (fun es => ∀ e ∈ es, e.WellFormed t d) (fun _ e => e.Violation t d K p) d.entities) :
    Violation t d K p
  | relationship {K : Kind} {p : Problem} (hentities : ∀ e ∈ d.entities, e.WellFormed t d)
    (henumerations : ∀ e ∈ d.enumerations, e.WellFormed)
    (h : FirstOf (fun rs => ∀ r ∈ rs, r.WellFormed d) (fun _ r => r.Violation d K p) d.relationships) :
    Violation t d K p
  | directive {K : Kind} {p : Problem} (hentities : ∀ e ∈ d.entities, e.WellFormed t d)
    (henumerations : ∀ e ∈ d.enumerations, e.WellFormed) (hrelationships : ∀ r ∈ d.relationships, r.WellFormed d)
    (h : FirstOf (fun xs => ∀ x ∈ xs, x.WellFormed d) (fun _ x => x.Violation d K p) d.directives) : Violation t d K p

/-- why no model is made of what is given -/
inductive Refused : Option Document → Option String → Kind → Problem → Prop where
  | noDocument (storage : Option String) : Refused none storage .missing .noDocument
  | noStorage (d : Document) (storage : Option String) (h : storage = none ∨ storage = some "") :
    Refused (some d) storage .missing .noStorage
  | unknownStorage (d : Document) (name : String) (hne : name ≠ "") (h : ∀ t : Storage, t.name ≠ name) :
    Refused (some d) (some name) .invalid (.unknownStorage name)
  | document {K : Kind} {p : Problem} (d : Document) (t : Storage) (h : d.Violation t K p) :
    Refused (some d) (some t.name) K p

end EntitySchema
