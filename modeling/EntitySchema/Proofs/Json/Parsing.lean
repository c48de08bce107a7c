/-
The text of a value is read as the tree of that value, and nothing is left over.

A value is written as a text of the grammar: symbol by symbol it says what the value is, a list because each of its items
does, and an object because each value under its keys does. So it is read as every text of the grammar is.

- `Value.tree`: the tree of a value; no fault is in it and everything is closed.
- `Value.source`: what the text of a value says; `Value.WithoutReals.writtenAs`: that it says this.
- `parse_render`: the tree of the text of a value.
- `render_inj`: so values of the same text are the same.
-/
import EntitySchema.Proofs.Json.Lexing
import EntitySchema.Proofs.Json.Sources

namespace EntitySchema.Json

open EntitySchema.Decimal

/-! ## Trees of values -/

def Scalar.tree : Scalar → Tree
  | .text s => .text ⟨.ok s, none⟩
  | s => .plain ⟨.ok s, none⟩

mutual

def Value.tree : Value → Tree
  | .scalar s => s.tree
  | .list items => .list (itemTrees items) .closed
  | .object members => .object (memberTrees members) .closed

def itemTrees : List Value → List Tree
  | [] => []
  | v :: vs => v.tree :: itemTrees vs

def memberTrees : List (String × Value) → List (Token String × Tree)
  | [] => []
  | (k, v) :: ms => (⟨.ok k, none⟩, v.tree) :: memberTrees ms

end

def Scalar.WithoutReals (s : Scalar) : Prop := ∀ x, s ≠ .number (.real x)

/-- there is no binary number in the value -/
inductive Value.WithoutReals : Value → Prop
  | scalar {s : Scalar} (h : s.WithoutReals) : WithoutReals (.scalar s)
  | list {items : List Value} (h : ∀ v ∈ items, WithoutReals v) : WithoutReals (.list items)
  | object {members : List (String × Value)} (h : ∀ m ∈ members, WithoutReals m.2) : WithoutReals (.object members)

/-! ## What a written value says -/

/-- the literal that a number is written as; binary numbers are left out, and nothing is said of them here -/
def numberLiteral : Number → Literal
  | .integer n => wholeLiteral n.toInt
  | .large n _ => wholeLiteral n
  | .real _ => wholeLiteral 0

def Scalar.source : Scalar → Source
  | .null => .null
  | .bool b => .bool b
  | .number n => .number (numberLiteral n)
  | .text s => .text (s.toList.map pieceOf)

mutual

/-- what a written value says -/
def Value.source : Value → Source
  | .scalar s => s.source
  | .list items => .list (itemSources items)
  | .object members => .object (memberSources members)

def itemSources : List Value → List Source
  | [] => []
  | v :: vs => v.source :: itemSources vs

def memberSources : List (String × Value) → List (List Piece × Source)
  | [] => []
  | (k, v) :: ms => (k.toList.map pieceOf, v.source) :: memberSources ms

end

theorem Scalar.WithoutReals.numberToken_eq {n : Number} (h : (Scalar.number n).WithoutReals) :
    numberToken (numberOf (numberLiteral n)) = ⟨.ok (.number n), none⟩ := by
  have hnumber : (numberLiteral n).number? = some n := by
    cases n with
    | integer n => exact number?_wholeLiteral_int64 n
    | large n fits => exact number?_wholeLiteral_large n fits
    | real x => exact absurd rfl (h x)
  rw [numberOf, hnumber]
  rfl

theorem Scalar.WithoutReals.tree_source {s : Scalar} (h : s.WithoutReals) : s.source.tree = s.tree := by
  cases s with
  | null => rw [Scalar.source, Source.tree]; rfl
  | bool b => rw [Scalar.source, Source.tree]; rfl
  | number n => rw [Scalar.source, Source.tree, h.numberToken_eq]; rfl
  | text s => rw [Scalar.source, Source.tree, textToken_pieceOf]; rfl

/-- the value is written as what it says, and this is read as the value -/
structure Value.Says (v : Value) : Prop where
  written : SymbolsSpelledBy v.source.symbols v.write
  tree : v.source.tree = v.tree

theorem Scalar.WithoutReals.says {s : Scalar} (h : s.WithoutReals) : (Value.scalar s).Says where
  written := by
    rw [Value.source, Value.write]
    cases s with
    | null => rw [Scalar.source, Source.symbols]; exact .one .null
    | bool b => rw [Scalar.source, Source.symbols]; cases b <;> exact .one (by constructor)
    | text s => rw [Scalar.source, Source.symbols]; exact .one (spelledBy_writeText s)
    | number n =>
      rw [Scalar.source, Source.symbols]
      refine .one (.number ?_)
      cases n with
      | integer n => exact spelledBy_wholeLiteral n.toInt
      | large n fits => exact spelledBy_wholeLiteral n
      | real x => exact absurd rfl (h x)
  tree := by rw [Value.source, h.tree_source, Value.tree]

/-! ## Items and members -/

theorem written_writeItems : ∀ {vs : List Value}, (∀ v ∈ vs, v.Says) →
    SymbolsSpelledBy (itemSymbols (itemSources vs)) (writeItems vs ++ [']'])
  | [], _ => by
    rw [itemSources, itemSymbols, writeItems]
    exact .one .endList
  | [v], ih => by
    rw [itemSources, itemSources, itemSymbols, writeItems]
    exact (ih v (by simp)).written.append (.one .endList)
  | v :: w :: vs, ih => by
    have hmore := written_writeItems fun u hu => ih u (List.mem_cons_of_mem v hu)
    rw [itemSources] at hmore
    rw [itemSources, itemSources, itemSymbols, writeItems, List.append_assoc, List.cons_append]
    exact (ih v (by simp)).written.append (.mark .comma hmore)

theorem written_writeMembers : ∀ {ms : List (String × Value)}, (∀ m ∈ ms, m.2.Says) →
    SymbolsSpelledBy (memberSymbols (memberSources ms)) (writeMembers ms ++ ['\x7d'])
  | [], _ => by
    rw [memberSources, memberSymbols, writeMembers]
    exact .one .endObject
  | [(k, v)], ih => by
    rw [memberSources, memberSources, memberSymbols, writeMembers, List.append_assoc, List.cons_append]
    exact .before (spelledBy_writeText k) (.mark .colon ((ih (k, v) (by simp)).written.append (.one .endObject)))
  | (k, v) :: (l, w) :: ms, ih => by
    have hmore := written_writeMembers fun u hu => ih u (List.mem_cons_of_mem (k, v) hu)
    rw [memberSources] at hmore
    rw [memberSources, memberSources, memberSymbols, writeMembers, List.append_assoc, List.cons_append,
      List.append_assoc, List.cons_append]
    exact .before (spelledBy_writeText k)
      (.mark .colon ((ih (k, v) (by simp)).written.append (.mark .comma hmore)))

theorem sourceItems_itemSources {vs : List Value} (ih : ∀ v ∈ vs, v.Says) :
    sourceItems (itemSources vs) = itemTrees vs := by
  induction vs with
  | nil => rw [itemSources, sourceItems, itemTrees]
  | cons v vs step =>
    obtain ⟨hv, hvs⟩ := List.forall_mem_cons.1 ih
    rw [itemSources, sourceItems, itemTrees, hv.tree, step hvs]

theorem sourceMembers_memberSources {ms : List (String × Value)} (ih : ∀ m ∈ ms, m.2.Says) :
    sourceMembers (memberSources ms) = memberTrees ms := by
  induction ms with
  | nil => rw [memberSources, sourceMembers, memberTrees]
  | cons m ms step =>
    obtain ⟨k, v⟩ := m
    obtain ⟨hv, hms⟩ := List.forall_mem_cons.1 ih
    rw [memberSources, sourceMembers, memberTrees, textToken_pieceOf, hv.tree, step hms]

/-! ## Whole texts -/

/-- a value is written as what it says -/
theorem Value.WithoutReals.says {v : Value} (h : v.WithoutReals) : v.Says := by
  induction h with
  | scalar h => exact h.says
  | list _ ih =>
    refine ⟨?_, ?_⟩
    · rw [Value.source, Source.symbols, Value.write]
      exact .mark .beginList (written_writeItems ih)
    · rw [Value.source, Source.tree, Value.tree, sourceItems_itemSources ih]
  | object _ ih =>
    refine ⟨?_, ?_⟩
    · rw [Value.source, Source.symbols, Value.write]
      exact .mark .beginObject (written_writeMembers ih)
    · rw [Value.source, Source.tree, Value.tree, sourceMembers_memberSources ih]

/-- the text of a value is a text of the grammar -/
theorem Value.WithoutReals.writtenAs {v : Value} (h : v.WithoutReals) : v.source.WrittenAs v.render := by
  rw [Source.WrittenAs, Value.render, String.toList_ofList]
  exact h.says.written

/-- the text of a value is read as the tree of the value -/
theorem parse_render {v : Value} (h : v.WithoutReals) : parse v.render = ⟨v.tree, false⟩ := by
  rw [h.writtenAs.parse_eq, h.says.tree]

/-! ## Values of the same text -/

theorem Scalar.tree_inj {s s' : Scalar} (h : s.tree = s'.tree) : s = s' := by
  cases s <;> cases s' <;> simp_all [Scalar.tree]

theorem Scalar.tree_ne_list {s : Scalar} {items : List Tree} {ending : ListEnd} : s.tree ≠ .list items ending := by
  cases s <;> simp [Scalar.tree]

theorem Scalar.tree_ne_object {s : Scalar} {members : List (Token String × Tree)} {ending : ObjectEnd} :
    s.tree ≠ .object members ending := by
  cases s <;> simp [Scalar.tree]

mutual

theorem Value.tree_inj : ∀ {v w : Value}, v.tree = w.tree → v = w
  | .scalar s, .scalar s', h => by
    rw [Value.tree, Value.tree] at h
    rw [Scalar.tree_inj h]
  | .list items, .list items', h => by
    simp only [Value.tree, Tree.list.injEq, and_true] at h
    rw [itemTrees_inj h]
  | .object members, .object members', h => by
    simp only [Value.tree, Tree.object.injEq, and_true] at h
    rw [memberTrees_inj h]
  | .scalar _, .list _, h => absurd h Scalar.tree_ne_list
  | .scalar _, .object _, h => absurd h Scalar.tree_ne_object
  | .list _, .scalar _, h => absurd h.symm Scalar.tree_ne_list
  | .object _, .scalar _, h => absurd h.symm Scalar.tree_ne_object
  | .list _, .object _, h => by simp [Value.tree] at h
  | .object _, .list _, h => by simp [Value.tree] at h

theorem itemTrees_inj : ∀ {vs ws : List Value}, itemTrees vs = itemTrees ws → vs = ws
  | [], [], _ => rfl
  | v :: vs, w :: ws, h => by
    simp only [itemTrees, List.cons.injEq] at h
    rw [Value.tree_inj h.1, itemTrees_inj h.2]
  | [], _ :: _, h => by simp [itemTrees] at h
  | _ :: _, [], h => by simp [itemTrees] at h

theorem memberTrees_inj : ∀ {ms ns : List (String × Value)}, memberTrees ms = memberTrees ns → ms = ns
  | [], [], _ => rfl
  | (k, v) :: ms, (l, w) :: ns, h => by
    simp only [memberTrees, List.cons.injEq, Prod.mk.injEq, Token.mk.injEq, Except.ok.injEq, and_true] at h
    obtain ⟨⟨rfl, hv⟩, hms⟩ := h
    rw [Value.tree_inj hv, memberTrees_inj hms]
  | [], (_, _) :: _, h => by simp [memberTrees] at h
  | (_, _) :: _, [], h => by simp [memberTrees] at h

end

/-- values of the same text are the same -/
theorem render_inj {v w : Value} (hv : v.WithoutReals) (hw : w.WithoutReals) (h : v.render = w.render) : v = w := by
  have hparse : parse v.render = parse w.render := by rw [h]
  rw [parse_render hv, parse_render hw, Parsed.mk.injEq] at hparse
  exact Value.tree_inj hparse.1

end EntitySchema.Json
