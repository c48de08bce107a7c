/-
Cardinalities of relationships. A document may spell them in any way whose joined spelling is the keyword.
-/
import EntitySchema.Text.Pascal

namespace EntitySchema

/-- how many entities stand at either end of a relationship -/
inductive Cardinality where
  | oneToOne
  | oneToMany
  | manyToOne
  | manyToMany
deriving DecidableEq, Repr

namespace Cardinality

def all : List Cardinality := [oneToOne, oneToMany, manyToOne, manyToMany]

/-- the name in a model -/
def name : Cardinality → String
  | oneToOne => "one-to-one"
  | oneToMany => "one-to-many"
  | manyToOne => "many-to-one"
  | manyToMany => "many-to-many"

/-- the joined spelling -/
def keyword : Cardinality → String
  | oneToOne => "OneToOne"
  | oneToMany => "OneToMany"
  | manyToOne => "ManyToOne"
  | manyToMany => "ManyToMany"

/-- the cardinality whose keyword is the joined spelling of this name -/
def ofName? (s : String) : Option Cardinality := all.find? fun c => c.keyword == Text.pascal s

end Cardinality

end EntitySchema
