/-
Structured values and their compact text: no blanks, members in the order given.

Inside quotes only the quote, the backslash and the characters below the space are escaped, those with a short name by
it and the others by four digits.
-/
import EntitySchema.Decimal.Number

namespace EntitySchema.Json

open EntitySchema.Decimal

/-- a value without parts -/
inductive Scalar where
  | null
  | bool (b : Bool)
  | number (n : Number)
  | text (s : String)
deriving DecidableEq, Repr

/-- a structured value; an object keeps its members in order -/
inductive Value where
  | scalar (s : Scalar)
  | list (items : List Value)
  | object (members : List (String × Value))

namespace Value

abbrev text (s : String) : Value := .scalar (.text s)

/-- the value that stands for absence -/
abbrev null : Value := .scalar .null

abbrev bool (b : Bool) : Value := .scalar (.bool b)

end Value

def hexDigit (n : Nat) : Char := if n < 10 then Char.ofNat ('0'.toNat + n) else Char.ofNat ('a'.toNat + (n - 10))

/-- the character after the backslash in the short escape of `c`, if it has one -/
def shortEscape (c : Char) : Option Char :=
  if c = '"' then some '"'
  else if c = '\\' then some '\\'
  else if c = '\x08' then some 'b'
  else if c = '\x0c' then some 'f'
  else if c = '\n' then some 'n'
  else if c = '\r' then some 'r'
  else if c = '\t' then some 't'
  else none

/-- a character as written between quotes -/
def writeChar (c : Char) : List Char :=
  match shortEscape c with
  | some e => ['\\', e]
  | none =>
    if c.toNat < 0x20 then ['\\', 'u', '0', '0', hexDigit (c.toNat / 16), hexDigit (c.toNat % 16)]
    else [c]

def writeText (s : String) : List Char := '"' :: (s.toList.flatMap writeChar ++ ['"'])

def Scalar.write : Scalar → List Char
  | .null => "null".toList
  | .bool b => if b then "true".toList else "false".toList
  | .number n => n.text.toList
  | .text s => writeText s

mutual

def Value.write : Value → List Char
  | .scalar s => s.write
  | .list items => '[' :: (writeItems items ++ [']'])
  | .object members => '\x7b' :: (writeMembers members ++ ['\x7d'])

/-- items with commas between them -/
def writeItems : List Value → List Char
  | [] => []
  | [v] => v.write
  | v :: w :: vs => v.write ++ ',' :: writeItems (w :: vs)

/-- members with commas between them -/
def writeMembers : List (String × Value) → List Char
  | [] => []
  | [(k, v)] => writeText k ++ ':' :: v.write
  | (k, v) :: m :: ms => writeText k ++ ':' :: (v.write ++ ',' :: writeMembers (m :: ms))

end

/-- the compact text of a value -/
def Value.render (v : Value) : String := String.ofList v.write

end EntitySchema.Json
