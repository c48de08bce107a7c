/-
The shape of a pattern: how its groups, repetitions, branches and character classes lie inside one another. What a part
matches is of no account here, so all parts that contain no other part are one `atom`.

- `Expr.depth`: how many of these lie inside one another at most.
-/

namespace EntitySchema.Pattern

/-- a set of characters, as written between brackets -/
inductive CharSet where
  /-- nothing stands on one side of an operator -/
  | empty
  /-- a character, a range or a named set -/
  | single
  | bracketed (s : CharSet)
  /-- two or more parts side by side -/
  | union (parts : List CharSet)
  /-- two sets joined by an operator -/
  | joined (left right : CharSet)

/-- a pattern or a part of one -/
inductive Expr where
  | empty
  /-- a character, a named set, an assertion -/
  | atom
  /-- a change of flags, which is no subject of a repetition -/
  | flags
  | charClass (s : CharSet)
  | repetition (e : Expr)
  | group (e : Expr)
  /-- two or more parts one after the other -/
  | sequence (parts : List Expr)
  /-- two or more branches -/
  | choice (branches : List Expr)

mutual

/-- how many brackets, unions and operators lie inside one another -/
def CharSet.depth : CharSet → Nat
  | .empty => 0
  | .single => 0
  | .bracketed s => s.depth + 1
  | .union parts => maxSetDepth parts + 1
  | .joined left right => max left.depth right.depth + 1

def maxSetDepth : List CharSet → Nat
  | [] => 0
  | s :: ss => max s.depth (maxSetDepth ss)

end

mutual

/-- how many groups, repetitions, sequences, choices and classes lie inside one another -/
def Expr.depth : Expr → Nat
  | .empty => 0
  | .atom => 0
  | .flags => 0
  | .charClass s => s.depth + 1
  | .repetition e => e.depth + 1
  | .group e => e.depth + 1
  | .sequence parts => maxDepth parts + 1
  | .choice branches => maxDepth branches + 1

def maxDepth : List Expr → Nat
  | [] => 0
  | e :: es => max e.depth (maxDepth es)

end

/-- the set of the parts, last first; a single part stands for itself -/
def CharSet.ofParts : List CharSet → CharSet
  | [] => .empty
  | [s] => s
  | parts => .union parts.reverse

/-- the sequence of the parts, last first; a single part stands for itself -/
def Expr.ofParts : List Expr → Expr
  | [] => .empty
  | [e] => e
  | parts => .sequence parts.reverse

/-- the choice between the branches, last first; a single branch stands for itself -/
def Expr.ofBranches : List Expr → Expr
  | [] => .empty
  | [e] => e
  | branches => .choice branches.reverse

/-- a repetition may follow the expression -/
def Expr.repeatable : Expr → Bool
  | .empty => false
  | .flags => false
  | _ => true

end EntitySchema.Pattern
