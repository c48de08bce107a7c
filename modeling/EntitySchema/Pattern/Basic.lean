/-
Patterns, the arguments of pattern constraints: regular expressions whose syntax is checked, not their meaning.

Two constructs that the reader of patterns does not know are tolerated, because the engines that use the patterns know
them: back-references and look-around groups. Each is replaced by a character that stands in for it, and the text is
read again.

- `length_replaced_lt`: the stand-in is shorter than what it replaces, so this ends.
-/
import EntitySchema.Pattern.Reader

namespace EntitySchema.Pattern

/-- the text with the construct, which is followed by the text after it, replaced by its stand-in -/
def Tolerated.replaced (t : Tolerated) (cs : List Char) : List Char :=
  cs.take (cs.length - (t.construct ++ t.after).length) ++ t.standIn :: t.after

theorem length_replaced_lt {cs : List Char} {t : Tolerated} (h : readAll cs = .error (.tolerated t)) :
    (t.replaced cs).length < cs.length := by
  have ⟨hs, hl, _⟩ := readAll_tolerated h
  have := hs.length_le
  simp only [Tolerated.replaced, List.length_append, List.length_take, List.length_cons] at *
  omega

/-- what is wrong with a pattern, if anything is -/
def fault? (cs : List Char) : Option Fault :=
  match h : readAll cs with
  | .ok e => if nestLimit < e.depth then some .tooDeep else none
  | .error (.fault f) => some f
  | .error (.tolerated t) =>
    have := length_replaced_lt h
    fault? (t.replaced cs)
termination_by cs.length

def isPattern (s : String) : Bool := (fault? s.toList).isNone

end EntitySchema.Pattern
