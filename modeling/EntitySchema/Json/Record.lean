/-
Records: objects whose members are known by name.

A record is described by the list of its members, each with the codec of its value and what stands in where it is
absent. The description serves for reading and for writing. When a record is read,

- its members may stand in any order; members with other names are passed over;
- a name that occurs twice is a fault as soon as it is seen again, before its value is looked at;
- at the end, the first member in the order of the description that is neither present nor dispensable is missing;
- it may also be written as a list of its members in order, from which dispensable members may be left off at the end.

It is written as an object with all members in order.
-/
import EntitySchema.Json.Codec

namespace EntitySchema.Json

/-- a member of a record: its name, its values, and the value that stands in where it is absent -/
structure Member (α : Type) where
  name : String
  codec : Codec α
  absent : Option α

/-- the members of a record, in order, with the types of their values -/
inductive Members : List Type → Type 1 where
  | nil : Members []
  | cons {α : Type} {αs : List Type} (m : Member α) (ms : Members αs) : Members (α :: αs)

/-- a value for every member -/
def Row : List Type → Type
  | [] => Unit
  | α :: αs => α × Row αs

/-- the values read so far -/
def Draft : List Type → Type
  | [] => Unit
  | α :: αs => Option α × Draft αs

namespace Members

/-- nothing read yet -/
def blank : {αs : List Type} → Members αs → Draft αs
  | _, nil => ()
  | _, cons _ ms => (none, ms.blank)

def count : {αs : List Type} → Members αs → Nat
  | _, nil => 0
  | _, cons _ ms => ms.count + 1

/-- read the member with this name; none if there is no such member -/
def put? (levels : Nat) (name : String) (t : Tree) :
    {αs : List Type} → Members αs → Draft αs → Option (Except Fault (Draft αs))
  | _, nil, _ => none
  | _, cons m ms, (slot, draft) =>
    if m.name = name then
      some (match slot with
        | some _ => .error (.repeatedMember name)
        | none => (m.codec.read levels t).map fun a => (some a, draft))
    else (ms.put? levels name t draft).map fun r => r.map fun d => (slot, d)

/-- read the members of an object from left to right -/
def fill (levels : Nat) {αs : List Type} (ms : Members αs) :
    Draft αs → List (Token String × Tree) → Except Fault (Draft αs)
  | draft, [] => .ok draft
  | draft, (key, t) :: rest =>
    key.strict.bind fun name =>
      (match ms.put? levels name t draft with
        | some r => r
        | none => t.skip.map fun _ => draft).bind fun draft => fill levels ms draft rest

/-- the row of a draft: what is absent is replaced or missed -/
def complete : {αs : List Type} → Members αs → Draft αs → Except Fault (Row αs)
  | _, nil, _ => .ok ()
  | _, cons m ms, (slot, draft) =>
    match slot.or m.absent with
    | none => .error (.missingMember m.name)
    | some a => (ms.complete draft).map fun row => (a, row)

/-- read the members from the items of a list; `title` and `size` describe the record, `present` counts what is read -/
def readRow (title : String) (size levels present : Nat) (ending : ListEnd) :
    {αs : List Type} → Members αs → List Tree → Except Fault (Row αs)
  | _, nil, [] => (refuse ending.fullFault?).map fun _ => ()
  | _, nil, _ :: _ => .error .trailingCharacters
  | _, cons m ms, t :: ts =>
    (m.codec.read levels t).bind fun a =>
      (ms.readRow title size levels (present + 1) ending ts).map fun row => (a, row)
  | _, cons m ms, [] =>
    (refuse ending.fault?).bind fun _ =>
      match m.absent with
      | none => .error (.tooFewItems present title size)
      | some a => (ms.readRow title size levels present ending []).map fun row => (a, row)

def write : {αs : List Type} → Members αs → Row αs → List (String × Value)
  | _, nil, _ => []
  | _, cons m ms, (a, row) => (m.name, m.codec.write a) :: ms.write row

/-- the codec of a record; `title` stands for it in messages -/
def codec {αs : List Type} (title : String) (ms : Members αs) : Codec (Row αs) where
  read levels t := match t with
    | .object members ending =>
      deeper levels fun levels =>
        (ms.fill levels ms.blank members).bind fun draft =>
          (refuse ending.fault?).bind fun _ => ms.complete draft
    | .list items ending => deeper levels fun levels => ms.readRow title ms.count levels 0 ending items
    | t => mismatch t title
  write row := .object (ms.write row)

end Members

end EntitySchema.Json
