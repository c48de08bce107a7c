/-
When two models say the same. The order of entities, enumerations, fields, rules, targets and exceptions is of no
account; that of relationships, directives and the values of an enumeration is.
-/
import EntitySchema.Model.Basic

namespace EntitySchema

/-- same name, type and comment, and the same rule for every constraint -/
def Field.agrees (f g : Field) : Bool :=
  f.name == g.name && f.type == g.type && f.rules.agrees (fun r s => r == s) g.rules && f.comment == g.comment

/-- same name, table and comment, and fields that agree under every name -/
def Entity.agrees (d e : Entity) : Bool :=
  d.name == e.name && d.table == e.table && d.fields.agrees Field.agrees e.fields && d.comment == e.comment

/-- the same names, whatever their order -/
def NameSet.agrees (s t : NameSet) : Bool := Keyed.agrees (fun a b => a == b) s t

def Directive.agrees (d e : Directive) : Bool :=
  d.subject == e.subject && NameSet.agrees d.targets e.targets && NameSet.agrees d.excluded e.excluded

/-- the lists are equally long and agree place by place -/
def agreeInOrder {α : Type} (same : α → α → Bool) : List α → List α → Bool
  | [], [] => true
  | a :: as, b :: bs => same a b && agreeInOrder same as bs
  | _, _ => false

def Model.agrees (m n : Model) : Bool :=
  m.entities.agrees Entity.agrees n.entities && m.enumerations.agrees (fun d e => d == e) n.enumerations &&
    m.relationships == n.relationships && agreeInOrder Directive.agrees m.directives n.directives

end EntitySchema
