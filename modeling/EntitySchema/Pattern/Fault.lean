/-
What can be wrong with a pattern, and why reading one may stop.

Reading stops at the first fault, or at a construct that cannot be read but is tolerated: a back-reference or the opener
of a look-around group. The second kind names a character to stand in for the construct.
-/

namespace EntitySchema.Pattern

/-- why a pattern is malformed -/
inductive Fault where
  | classEscape
  | classRange
  | classRangeEnd
  | classUnclosed
  | decimalTooLarge
  | escapeUnfinished
  | escapeUnknown
  | hexDigit
  | hexEmpty
  | hexNoCharacter
  | flagDangling
  | flagRepeated
  | flagNegatedTwice
  | flagUnfinished
  | flagUnknown
  | nameRepeated
  | nameEmpty
  | nameCharacter
  | nameUnfinished
  | groupUnclosed
  | groupUnopened
  | tooDeep
  | countReversed
  | countEmpty
  | countUnclosed
  | nothingToRepeat
  | propertyName
  | boundaryUnclosed
  | boundaryUnknown
  | boundaryUnfinished
deriving DecidableEq, Repr

/-- how many groups, classes and the like may lie inside one another -/
def nestLimit : Nat := 250

def Fault.message : Fault → String
  | .classEscape => "invalid escape sequence found in character class"
  | .classRange => "invalid character class range, the start must be <= the end"
  | .classRangeEnd => "invalid range boundary, must be a literal"
  | .classUnclosed => "unclosed character class"
  | .decimalTooLarge => "decimal literal invalid"
  | .escapeUnfinished => "incomplete escape sequence, reached end of pattern prematurely"
  | .escapeUnknown => "unrecognized escape sequence"
  | .hexDigit => "invalid hexadecimal digit"
  | .hexEmpty => "hexadecimal literal empty"
  | .hexNoCharacter => "hexadecimal literal is not a Unicode scalar value"
  | .flagDangling => "dangling flag negation operator"
  | .flagRepeated => "duplicate flag"
  | .flagNegatedTwice => "flag negation operator repeated"
  | .flagUnfinished => "expected flag but got end of regex"
  | .flagUnknown => "unrecognized flag"
  | .nameRepeated => "duplicate capture group name"
  | .nameEmpty => "empty capture group name"
  | .nameCharacter => "invalid capture group character"
  | .nameUnfinished => "unclosed capture group name"
  | .groupUnclosed => "unclosed group"
  | .groupUnopened => "unopened group"
  | .tooDeep => "exceed the maximum number of nested parentheses/brackets (" ++ toString nestLimit ++ ")"
  | .countReversed => "invalid repetition count range, the start must be <= the end"
  | .countEmpty => "repetition quantifier expects a valid decimal"
  | .countUnclosed => "unclosed counted repetition"
  | .nothingToRepeat => "repetition operator missing expression"
  | .propertyName => "invalid Unicode character class"
  | .boundaryUnclosed => "special word boundary assertion is either unclosed or contains an invalid character"
  | .boundaryUnknown =>
    "unrecognized special word boundary assertion, valid choices are: start, end, start-half or end-half"
  | .boundaryUnfinished =>
    "found either the beginning of a special word boundary or a bounded repetition on a \\b with an opening brace, " ++
      "but no closing brace"

/-- a construct that is tolerated: its characters, the text after it, and the character that stands in for it -/
structure Tolerated where
  construct : List Char
  after : List Char
  standIn : Char
deriving DecidableEq, Repr

/-- the construct and the text after it are an end of the text; the construct is longer than its stand-in, which is a
letter or an opening parenthesis -/
structure Tolerated.Ends (t : Tolerated) (cs : List Char) : Prop where
  suffix : t.construct ++ t.after <:+ cs
  longer : 2 ≤ t.construct.length
  standIn : t.standIn = 'x' ∨ t.standIn = '('

theorem Tolerated.Ends.of_suffix {t : Tolerated} {cs ds : List Char} (h : t.Ends cs) (hs : cs <:+ ds) : t.Ends ds :=
  ⟨h.suffix.trans hs, h.longer, h.standIn⟩

inductive Stop where
  | fault (f : Fault)
  | tolerated (t : Tolerated)
deriving DecidableEq, Repr

end EntitySchema.Pattern
