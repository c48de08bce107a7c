/-
The tree of a structured text. Every text has one: where the text stops being well formed, the tree says what stands
there, so that a reader that walks the tree from left to right meets the first fault of the text first.

How a list or an object ends matters in three ways: for a reader that takes the whole of it, for one that has read all
members of a record, and for one that only passes over it. They report the same break in the text differently.

- `Tree.check`: the first fault for a reader that takes everything, lists and objects counted by depth.
- `Tree.skip`: the first fault for a reader that passes over the text.
-/
import EntitySchema.Json.Lexeme

namespace EntitySchema.Json

inductive ListEnd where
  | closed
  /-- the text ends after the bracket or an item -/
  | cut
  /-- neither a comma nor a bracket follows an item -/
  | noComma
  /-- the bracket follows a comma -/
  | commaClosed
  /-- the text ends after a comma -/
  | commaCut
deriving DecidableEq, Repr

inductive ObjectEnd where
  | closed
  /-- the text ends after the brace or a member -/
  | cut
  /-- neither a comma nor a brace follows a member -/
  | noComma
  /-- the brace follows a comma -/
  | commaClosed
  /-- the text ends after a comma -/
  | commaCut
  /-- something other than a quoted text stands where a key must -/
  | noKey
deriving DecidableEq, Repr

/-- a text as far as it is well formed -/
inductive Tree where
  /-- no value stands here -/
  | nothing (f : Fault)
  /-- a word or a number -/
  | plain (t : Token Scalar)
  | text (t : Token String)
  | list (items : List Tree) (ending : ListEnd)
  | object (members : List (Token String × Tree)) (ending : ObjectEnd)

namespace ListEnd

/-- the fault of the end for a reader of the whole list -/
def fault? : ListEnd → Option Fault
  | closed => none
  | cut => some .endInList
  | noComma => some .expectedItemOrEnd
  | commaClosed => some .trailingComma
  | commaCut => some .endInValue

/-- the fault of the end for a reader that has read all it wants -/
def fullFault? : ListEnd → Option Fault
  | closed => none
  | cut => some .endInList
  | noComma => some .trailingCharacters
  | commaClosed => some .trailingComma
  | commaCut => some .trailingCharacters

/-- the fault of the end for a reader that passes over the list -/
def skipFault? : ListEnd → Option Fault
  | closed => none
  | cut => some .endInList
  | noComma => some .expectedItemOrEnd
  | commaClosed => some .expectedValue
  | commaCut => some .endInValue

end ListEnd

namespace ObjectEnd

/-- the fault of the end for a reader of the whole object -/
def fault? : ObjectEnd → Option Fault
  | closed => none
  | cut => some .endInObject
  | noComma => some .expectedMemberOrEnd
  | commaClosed => some .trailingComma
  | commaCut => some .endInValue
  | noKey => some .keyNotText

/-- the fault of the end for a reader that passes over the object -/
def skipFault? : ObjectEnd → Option Fault
  | closed => none
  | cut => some .endInObject
  | noComma => some .expectedMemberOrEnd
  | commaClosed => some .keyNotText
  | commaCut => some .endInObject
  | noKey => some .keyNotText

end ObjectEnd

/-- fail with the fault, if there is one -/
def refuse : Option Fault → Except Fault Unit
  | none => .ok ()
  | some f => .error f

mutual

/-- read everything; `levels` lists and objects may still be opened inside one another -/
def Tree.check (levels : Nat) : Tree → Except Fault Unit
  | .nothing f => .error f
  | .plain t => t.strict.map fun _ => ()
  | .text t => t.strict.map fun _ => ()
  | .list items ending =>
    match levels with
    | 0 => .error .tooDeep
    | levels + 1 => (checkItems levels items).bind fun _ => refuse ending.fault?
  | .object members ending =>
    match levels with
    | 0 => .error .tooDeep
    | levels + 1 => (checkMembers levels members).bind fun _ => refuse ending.fault?

def checkItems (levels : Nat) : List Tree → Except Fault Unit
  | [] => .ok ()
  | t :: ts => (t.check levels).bind fun _ => checkItems levels ts

def checkMembers (levels : Nat) : List (Token String × Tree) → Except Fault Unit
  | [] => .ok ()
  | (key, t) :: ms => key.strict.bind fun _ => (t.check levels).bind fun _ => checkMembers levels ms

end

mutual

/-- pass over everything, to any depth -/
def Tree.skip : Tree → Except Fault Unit
  | .nothing f => .error f
  | .plain t => refuse t.loose
  | .text t => refuse t.loose
  | .list items ending => (skipItems items).bind fun _ => refuse ending.skipFault?
  | .object members ending => (skipMembers members).bind fun _ => refuse ending.skipFault?

def skipItems : List Tree → Except Fault Unit
  | [] => .ok ()
  | t :: ts => t.skip.bind fun _ => skipItems ts

def skipMembers : List (Token String × Tree) → Except Fault Unit
  | [] => .ok ()
  | (key, t) :: ms => (refuse key.loose).bind fun _ => t.skip.bind fun _ => skipMembers ms

end

/-! ## From lexemes to the tree -/

/-- a list or object around the value that is being read, its earlier parts last first -/
inductive Frame where
  | item (before : List Tree)
  | member (before : List (Token String × Tree)) (key : Token String)

/-- what comes next: `before` holds the earlier parts of the list or object that is open, last first -/
inductive Awaits where
  /-- a value -/
  | value
  /-- an item; the end of the list unless a comma came before -/
  | item (before : List Tree) (comma : Bool)
  /-- a key; the end of the object unless a comma came before -/
  | key (before : List (Token String × Tree)) (comma : Bool)
  /-- the colon after a key -/
  | colon (before : List (Token String × Tree)) (key : Token String)
  /-- what follows a value -/
  | after (t : Tree)

/-- what comes after the lexeme that starts a value; none if it starts none -/
def Lexeme.begin? : Lexeme → Option Awaits
  | .beginList => some (.item [] false)
  | .beginObject => some (.key [] false)
  | .text t => some (.after (.text t))
  | .plain t => some (.after (.plain t))
  | _ => none

/-- the whole tree around a part at which the text breaks off; no reader looks past that part -/
def abandon (t : Tree) : List Frame → Tree
  | [] => t
  | .item before :: fs => abandon (.list (t :: before).reverse .cut) fs
  | .member before key :: fs => abandon (.object ((key, t) :: before).reverse .cut) fs

/-- the tree of the lexemes, and the lexemes after it -/
def assemble : Awaits → List Frame → List Lexeme → Tree × List Lexeme
  | .after t, [], ls => (t, ls)
  | .value, fs, [] => (abandon (.nothing .endInValue) fs, [])
  | .value, fs, l :: ls =>
    match l.begin? with
    | some next => assemble next fs ls
    | none => (abandon (.nothing .expectedValue) fs, [])
  | .item before comma, fs, [] => (abandon (.list before.reverse (if comma then .commaCut else .cut)) fs, [])
  | .item before comma, fs, l :: ls =>
    match l with
    | .endList =>
      if comma then (abandon (.list before.reverse .commaClosed) fs, [])
      else assemble (.after (.list before.reverse .closed)) fs ls
    | l =>
      match l.begin? with
      | some next => assemble next (.item before :: fs) ls
      | none => (abandon (.nothing .expectedValue) (.item before :: fs), [])
  | .key before comma, fs, [] => (abandon (.object before.reverse (if comma then .commaCut else .cut)) fs, [])
  | .key before comma, fs, l :: ls =>
    match l with
    | .endObject =>
      if comma then (abandon (.object before.reverse .commaClosed) fs, [])
      else assemble (.after (.object before.reverse .closed)) fs ls
    | .text key => assemble (.colon before key) fs ls
    | _ => (abandon (.object before.reverse .noKey) fs, [])
  | .colon before key, fs, [] => (abandon (.nothing .endInObject) (.member before key :: fs), [])
  | .colon before key, fs, l :: ls =>
    match l with
    | .colon => assemble .value (.member before key :: fs) ls
    | _ => (abandon (.nothing .expectedColon) (.member before key :: fs), [])
  | .after t, .item before :: fs, [] => (abandon (.list (t :: before).reverse .cut) fs, [])
  | .after t, .item before :: fs, l :: ls =>
    match l with
    | .comma => assemble (.item (t :: before) true) fs ls
    | .endList => assemble (.after (.list (t :: before).reverse .closed)) fs ls
    | _ => (abandon (.list (t :: before).reverse .noComma) fs, [])
  | .after t, .member before key :: fs, [] => (abandon (.object ((key, t) :: before).reverse .cut) fs, [])
  | .after t, .member before key :: fs, l :: ls =>
    match l with
    | .comma => assemble (.key ((key, t) :: before) true) fs ls
    | .endObject => assemble (.after (.object ((key, t) :: before).reverse .closed)) fs ls
    | _ => (abandon (.object ((key, t) :: before).reverse .noComma) fs, [])

/-- a text as its first value, and whether anything but blanks follows it -/
structure Parsed where
  tree : Tree
  trailing : Bool

def parse (text : String) : Parsed :=
  let (t, rest) := assemble .value [] (lexemes text.toList)
  ⟨t, !rest.isEmpty⟩

end EntitySchema.Json
