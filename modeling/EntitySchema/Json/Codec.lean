/-
Codecs: how a kind of value is read from the tree of a text and how it is written.

Reading goes from left to right and stops at the first fault. It is told how many lists and objects may still be opened
inside one another; opening one more is a fault, raised before its contents are looked at. A codec is only given trees;
`Codec.ofText` reads a whole text, after which only blanks may follow.
-/
import EntitySchema.Json.Tree

namespace EntitySchema.Json

/-- reads and writes values of type `α` -/
structure Codec (α : Type) where
  read : Nat → Tree → Except Fault α
  write : α → Value

/-- how many lists and objects may be open inside one another -/
def depthLimit : Nat := 127

/-- the tree of a text holds something other than what is expected; a scalar that is itself broken is so reported -/
def mismatch {α : Type} (t : Tree) (expected : String) : Except Fault α :=
  match t with
  | .nothing f => .error f
  | .plain t => t.strict.bind fun s => .error (.mismatch (.scalar s) expected)
  | .text t => t.strict.bind fun s => .error (.mismatch (.scalar (.text s)) expected)
  | .list _ _ => .error (.mismatch .list expected)
  | .object _ _ => .error (.mismatch .object expected)

/-- read the contents of a list or object that is opened, with one level less -/
def deeper {α : Type} (levels : Nat) (read : Nat → Except Fault α) : Except Fault α :=
  match levels with
  | 0 => .error .tooDeep
  | levels + 1 => read levels

/-- read the items of a list one after the other -/
def readItems {α : Type} (read : Tree → Except Fault α) : List Tree → Except Fault (List α)
  | [] => .ok []
  | t :: ts => (read t).bind fun a => (readItems read ts).map (a :: ·)

namespace Codec

/-- the value that a whole text holds -/
def ofParsed {α : Type} (c : Codec α) (p : Parsed) : Except Fault α :=
  (c.read depthLimit p.tree).bind fun a => if p.trailing then .error .trailingCharacters else .ok a

def ofText {α : Type} (c : Codec α) (text : String) : Except Fault α := c.ofParsed (parse text)

def render {α : Type} (c : Codec α) (a : α) : String := (c.write a).render

def text : Codec String where
  read _ t := match t with
    | .text t => t.strict
    | t => mismatch t "a string"
  write s := .text s

def bool : Codec Bool where
  read _ t := match t with
    | .plain ⟨.ok (.bool b), _⟩ => .ok b
    | t => mismatch t "a boolean"
  write b := .bool b

/-- nothing but `null` -/
def unit : Codec Unit where
  read _ t := match t with
    | .plain ⟨.ok .null, _⟩ => .ok ()
    | t => mismatch t "unit"
  write _ := .null

/-- a value or `null` for none -/
def optional {α : Type} (c : Codec α) : Codec (Option α) where
  read levels t := match t with
    | .plain ⟨.ok .null, _⟩ => .ok none
    | t => (c.read levels t).map some
  write a := match a with
    | none => .null
    | some a => c.write a

def list {α : Type} (c : Codec α) : Codec (List α) where
  read levels t := match t with
    | .list items ending =>
      deeper levels fun levels => (readItems (c.read levels) items).bind fun as =>
        (refuse ending.fault?).map fun _ => as
    | t => mismatch t "a sequence"
  write as := .list (as.map c.write)

/-- the values of `c` under another type -/
def imap {α β : Type} (c : Codec α) (forth : α → β) (back : β → α) : Codec β where
  read levels t := (c.read levels t).map forth
  write b := c.write (back b)

/-- one of the named values -/
def lookUp {α : Type} (choices : List (String × α)) (name : String) : Except Fault α :=
  match choices.find? fun c => c.1 == name with
  | some c => .ok c.2
  | none => .error (.unknownChoice name (choices.map Prod.fst))

/-- one of the named values: its name, or an object that has its name as only key, with `null` under it -/
def choice {α : Type} (choices : List (String × α)) (name : α → String) : Codec α where
  read levels t := match t with
    | .nothing f => .error f
    | .text t => t.strict.bind (lookUp choices)
    | .object [] ending => deeper levels fun _ => .error (ending.fault?.getD .expectedValue)
    | .object ((key, t) :: more) ending =>
      deeper levels fun levels => (key.strict.bind (lookUp choices)).bind fun a =>
        (unit.read levels t).bind fun _ => match more, ending with
          | [], .closed => .ok a
          | [], .cut => .error .endInObject
          | _, _ => .error .expectedValue
    | _ => .error .expectedValue
  write a := .text (name a)

end Codec

end EntitySchema.Json
