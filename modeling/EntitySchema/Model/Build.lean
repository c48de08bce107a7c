/-
The model of a document. A later declaration of an entity or enumeration takes the place of an earlier one of the same
name. Directives are resolved when all entities are known: the wildcard stands for every entity that is not left out,
wherever the directive is written.

What cannot be resolved has no place in the model; nothing of a document that passes its check is lost that way.
-/
import EntitySchema.Document.Names
import EntitySchema.Model.Basic

namespace EntitySchema

def Rule.ofClause? (c : Clause) : Option Rule := (Constraint.ofName? c.key).map fun k => ⟨k, c.argument⟩

def Field.ofDecl? (storage : Storage) (names : Names) (f : FieldDecl) : Option Field :=
  (names.fieldType? storage f.type).map fun type =>
    { (f.clauses.filterMap Rule.ofClause?).foldl Field.withRule (.new f.name type) with comment := f.comment }

/-- the name of the table: the one that is declared, if it is not empty, or that of the entity -/
def EntityDecl.tableName (e : EntityDecl) : String :=
  match e.table with
  | some t => if t.isEmpty then e.name else t
  | none => e.name

def Entity.ofDecl (storage : Storage) (names : Names) (e : EntityDecl) : Entity :=
  { (e.ownFields.filterMap (Field.ofDecl? storage names)).foldl Entity.withField (.new e.name) with
    table := e.tableName, comment := e.comment }

def Enumeration.ofDecl (e : EnumDecl) : Enumeration := ⟨e.name, e.values⟩

def End.ofDecl (e : EndDecl) : End := ⟨e.entity, e.injected, e.comment, e.required⟩

def Relationship.ofDecl? (r : RelationshipDecl) : Option Relationship :=
  (Cardinality.ofName? r.cardinality).map fun c => ⟨c, .ofDecl r.source, .ofDecl r.target⟩

/-- a topic and a value where it calls for one -/
def Subject.ofTopic? (topic : Topic) (value : Option String) : Option Subject :=
  match topic with
  | .flag f => some (.flag f)
  | .setting o => value.map (.setting o)

/-- the entities that a directive is about, `entities` being all there are -/
def DirectiveDecl.resolvedTargets (entities : List String) (d : DirectiveDecl) : List String :=
  if wildcard ∈ d.targets then entities.filter fun e => e ∉ d.excluded else d.targets

/-- the directive of its declaration, `entities` being all there are -/
def Directive.ofDecl? (entities : List String) (d : DirectiveDecl) : Option Directive :=
  ((Topic.ofName? d.name).bind fun topic => Subject.ofTopic? topic d.value).map fun subject =>
    (Directive.new subject (d.resolvedTargets entities)).withExcluded d.excluded

def Document.build (storage : Storage) (d : Document) : Model :=
  let entities : Keyed Entity.name := .ofList (d.entities.map (Entity.ofDecl storage d.names))
  { entities
    enumerations := .ofList (d.enumerations.map Enumeration.ofDecl)
    relationships := d.relationships.filterMap Relationship.ofDecl?
    directives := d.directives.filterMap (Directive.ofDecl? entities.keys) }

end EntitySchema
