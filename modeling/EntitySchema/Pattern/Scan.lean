/-
Moving through a pattern. In the extended mode (flag `x`) blanks and comments, which run from `#` to the end of the
line, do not count; a reader then skips them after each character it takes.

A reader returns the text that it leaves, which is always an end of the text it is given (`<:+`).
-/
import EntitySchema.Pattern.Fault
import EntitySchema.Text.Characters

namespace EntitySchema.Pattern

open EntitySchema.Text

/-- drop blanks and comments; `comment` says whether a comment is open -/
def skipBlanks (comment : Bool) : List Char → List Char
  | [] => []
  | c :: cs =>
    if comment then skipBlanks (c != '\n') cs
    else if isBlank c then skipBlanks false cs
    else if c = '#' then skipBlanks true cs
    else c :: cs

/-- in the extended mode drop blanks and comments -/
def skip (extended : Bool) (cs : List Char) : List Char := if extended then skipBlanks false cs else cs

/-- the longest run of at most `n` characters with the property, and the text after it -/
def run (extended : Bool) (p : Char → Bool) : Nat → List Char → List Char × List Char
  | 0, cs => ([], cs)
  | _ + 1, [] => ([], [])
  | n + 1, c :: cs =>
    if p c then
      let (taken, rest) := run extended p n (skip extended cs)
      (c :: taken, rest)
    else ([], c :: cs)

/-- the longest run of characters with the property, and the text after it -/
def runAll (extended : Bool) (p : Char → Bool) (cs : List Char) : List Char × List Char :=
  run extended p cs.length cs

/-- the character after a dash in a class, as looked ahead for: in the extended mode blanks and one `#` are passed
over, unless nothing else follows -/
def lookPast (extended : Bool) (cs : List Char) : Option Char :=
  if extended then
    let cs' := match cs.dropWhile isBlank with
      | '#' :: rest => rest.dropWhile isBlank
      | rest => rest
    cs'.head?.or cs.head?
  else cs.head?

theorem skipBlanks_suffix (comment : Bool) (cs : List Char) : skipBlanks comment cs <:+ cs := by
  induction cs generalizing comment with
  | nil => exact List.suffix_refl _
  | cons c cs ih =>
    unfold skipBlanks
    split
    · exact (ih _).trans (List.suffix_cons c cs)
    · split
      · exact (ih _).trans (List.suffix_cons c cs)
      · split
        · exact (ih _).trans (List.suffix_cons c cs)
        · exact List.suffix_refl _

theorem skip_suffix (extended : Bool) (cs : List Char) : skip extended cs <:+ cs := by
  unfold skip
  split
  · exact skipBlanks_suffix false cs
  · exact List.suffix_refl _

theorem run_suffix (extended : Bool) (p : Char → Bool) (n : Nat) (cs : List Char) :
    (run extended p n cs).2 <:+ cs := by
  induction n generalizing cs with
  | zero => exact List.suffix_refl _
  | succ n ih =>
    cases cs with
    | nil => exact List.suffix_refl _
    | cons c cs =>
      unfold run
      split
      · exact ((ih _).trans (skip_suffix extended cs)).trans (List.suffix_cons c cs)
      · exact List.suffix_refl _

theorem runAll_suffix (extended : Bool) (p : Char → Bool) (cs : List Char) : (runAll extended p cs).2 <:+ cs :=
  run_suffix extended p cs.length cs

end EntitySchema.Pattern
