/-
Building that stops at the first thing it cannot resolve. Where `Document.build` leaves out what has no place in a model,
`Document.buildStrict` says what is missing: a type, a constraint, a cardinality, a topic, the value of a setting, or an
entity that a directive lists.

Entities come first, then relationships, then directives. The topics of all directives are looked up before the targets
of any, and targets among the entities of the finished table.
-/
import EntitySchema.Model.Build
import EntitySchema.Outcome

namespace EntitySchema

open Outcome

/-- what a look-up finds nothing for -/
inductive Gap where
  | type (name : String)
  | constraint (key : String)
  | cardinality (name : String)
  | topic (name : String)
  /-- a directive lists an entity that is not in the table -/
  | target (name : String)
  /-- a setting without value -/
  | value (setting : Setting)
deriving DecidableEq, Repr

/-- what a look-up finds; nothing is a gap -/
def found {α : Type} (gap : Gap) : Option α → Except Gap α
  | some a => .ok a
  | none => .error gap

def Rule.ofClauseStrict (c : Clause) : Except Gap Rule :=
  (found (.constraint c.key) (Constraint.ofName? c.key)).map fun k => ⟨k, c.argument⟩

def Field.ofDeclStrict (storage : Storage) (names : Names) (f : FieldDecl) : Except Gap Field :=
  (found (.type f.type) (names.fieldType? storage f.type)).bind fun type =>
    (f.clauses.mapM Rule.ofClauseStrict).map fun rules =>
      { rules.foldl Field.withRule (.new f.name type) with comment := f.comment }

/-- the entity of its declaration; nothing is looked up for the reserved field -/
def Entity.ofDeclStrict (storage : Storage) (names : Names) (e : EntityDecl) : Except Gap Entity :=
  (e.ownFields.mapM (Field.ofDeclStrict storage names)).map fun fields =>
    { fields.foldl Entity.withField (.new e.name) with table := e.tableName, comment := e.comment }

def Relationship.ofDeclStrict (r : RelationshipDecl) : Except Gap Relationship :=
  (found (.cardinality r.cardinality) (Cardinality.ofName? r.cardinality)).map fun c =>
    ⟨c, .ofDecl r.source, .ofDecl r.target⟩

/-- a declaration with its topic, to be resolved when all entities are known -/
def DirectiveDecl.withTopic (x : DirectiveDecl) : Except Gap (Topic × DirectiveDecl) :=
  (found (.topic x.name) (Topic.ofName? x.name)).map fun topic => (topic, x)

/-- every listed target is an entity, unless the wildcard is listed -/
def DirectiveDecl.checkTargets (entities : List String) (x : DirectiveDecl) : Except Gap Unit :=
  if wildcard ∈ x.targets then .ok () else each (fun n => require (n ∈ entities) (.target n)) x.targets

/-- a topic and the value that it calls for -/
def Subject.ofTopicStrict (topic : Topic) (value : Option String) : Except Gap Subject :=
  match topic with
  | .flag f => .ok (.flag f)
  | .setting o => (found (.value o) value).map (.setting o)

/-- the directive of a declaration with its topic, `entities` being all there are -/
def Directive.resolve (entities : List String) (topic : Topic) (x : DirectiveDecl) : Except Gap Directive :=
  (x.checkTargets entities).bind fun _ =>
    (Subject.ofTopicStrict topic x.value).map fun subject =>
      (Directive.new subject (x.resolvedTargets entities)).withExcluded x.excluded

/-- the model of a document, or the first thing that is missing -/
def Document.buildStrict (storage : Storage) (names : Names) (d : Document) : Except Gap Model :=
  (d.entities.mapM (Entity.ofDeclStrict storage names)).bind fun rows =>
    let entities : Keyed Entity.name := .ofList rows
    (d.relationships.mapM Relationship.ofDeclStrict).bind fun relationships =>
      (d.directives.mapM DirectiveDecl.withTopic).bind fun pending =>
        (pending.mapM fun p => Directive.resolve entities.keys p.1 p.2).map fun directives =>
          { entities, enumerations := .ofList (d.enumerations.map Enumeration.ofDecl), relationships, directives }

end EntitySchema
