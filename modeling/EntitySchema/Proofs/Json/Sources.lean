/-
The grammar of structured texts, apart from any reader: which texts there are, and what each of them says. Every text of
the grammar is read as a tree in which nothing breaks off, and it can be passed over, whatever it says.

- `Source`: what a text says, with numbers and quoted texts as they are spelled and members in the order of the text.
- `Source.WrittenAs`: the texts that say it, with blanks wherever they may stand.
- `Source.apart`: numbers never stand side by side.
- `Source.map_symbols`: the symbols of a source have the lexemes of its tree.
- `Source.WrittenAs.parse_eq`: so a text is read as the tree of what it says.
- `Tree.Whole.fromSource`: symbols with the lexemes of a tree are those of a source with this tree.
- `Source.skip_tree`: this tree can be passed over.
-/
import EntitySchema.Proofs.Json.Assembling
import EntitySchema.Proofs.Json.Symbols

namespace EntitySchema.Json

open EntitySchema.Decimal

/-! ## Sources -/

/-- what a text says: numbers and quoted texts as they are spelled, members in the order in which they are written -/
inductive Source where
  | null
  | bool (b : Bool)
  | number (w : Literal)
  | text (ps : List Piece)
  | list (items : List Source)
  | object (members : List (List Piece × Source))

mutual

def Source.symbols : Source → List Symbol
  | .null => [.null]
  | .bool b => [.bool b]
  | .number w => [.number w]
  | .text ps => [.text ps]
  | .list items => .beginList :: itemSymbols items
  | .object members => .beginObject :: memberSymbols members

/-- the symbols of items with commas between them, up to the bracket -/
def itemSymbols : List Source → List Symbol
  | [] => [.endList]
  | [v] => v.symbols ++ [.endList]
  | v :: w :: vs => v.symbols ++ .comma :: itemSymbols (w :: vs)

/-- the symbols of members with commas between them, up to the brace -/
def memberSymbols : List (List Piece × Source) → List Symbol
  | [] => [.endObject]
  | [(ps, v)] => .text ps :: .colon :: (v.symbols ++ [.endObject])
  | (ps, v) :: m :: ms => .text ps :: .colon :: (v.symbols ++ .comma :: memberSymbols (m :: ms))

end

/-- the text says this, whatever blanks stand in it -/
def Source.WrittenAs (v : Source) (text : String) : Prop := SymbolsSpelledBy v.symbols text.toList

mutual

def Source.tree : Source → Tree
  | .null => .plain ⟨.ok .null, none⟩
  | .bool b => .plain ⟨.ok (.bool b), none⟩
  | .number w => .plain (numberToken (numberOf w))
  | .text ps => .text (textToken ps)
  | .list items => .list (sourceItems items) .closed
  | .object members => .object (sourceMembers members) .closed

def sourceItems : List Source → List Tree
  | [] => []
  | v :: vs => v.tree :: sourceItems vs

def sourceMembers : List (List Piece × Source) → List (Token String × Tree)
  | [] => []
  | (ps, v) :: ms => (textToken ps, v.tree) :: sourceMembers ms

end

theorem sourceItems_eq_map (items : List Source) : sourceItems items = items.map Source.tree := by
  induction items with
  | nil => rw [sourceItems, List.map_nil]
  | cons v vs ih => rw [sourceItems, ih, List.map_cons]

theorem sourceMembers_eq_map (members : List (List Piece × Source)) :
    sourceMembers members = members.map fun m => (textToken m.1, m.2.tree) := by
  induction members with
  | nil => rw [sourceMembers, List.map_nil]
  | cons m ms ih => rw [sourceMembers, ih, List.map_cons]

/-! ## No two numbers side by side -/

theorem Apart.cons {s : Symbol} {ss : List Symbol} (hs : s.isNumber = false) (h : Apart ss) : Apart (s :: ss) := by
  cases ss with
  | nil => exact List.isChain_singleton s
  | cons t ss => exact List.isChain_cons_cons.2 ⟨.inl hs, h⟩

/-- a number before a mark is apart from what follows -/
theorem Apart.cons_mark {s t : Symbol} {ss : List Symbol} (ht : t.isNumber = false) (h : Apart (t :: ss)) :
    Apart (s :: t :: ss) :=
  List.isChain_cons_cons.2 ⟨.inr ht, h⟩

mutual

/-- the symbols of a source keep numbers apart, also from a mark that follows -/
theorem Source.apart_append : ∀ (v : Source) {s : Symbol} {ss : List Symbol}, s.isNumber = false → Apart (s :: ss) →
    Apart (v.symbols ++ s :: ss)
  | .null, _, _, _, h => by
    rw [Source.symbols]
    exact .cons rfl h
  | .bool _, _, _, _, h => by
    rw [Source.symbols]
    exact .cons rfl h
  | .number _, _, _, hs, h => by
    rw [Source.symbols]
    exact .cons_mark hs h
  | .text _, _, _, _, h => by
    rw [Source.symbols]
    exact .cons rfl h
  | .list items, _, _, _, h => by
    rw [Source.symbols]
    exact .cons rfl (apart_itemSymbols items h)
  | .object members, _, _, _, h => by
    rw [Source.symbols]
    exact .cons rfl (apart_memberSymbols members h)

theorem apart_itemSymbols : ∀ (items : List Source) {ss : List Symbol}, Apart ss → Apart (itemSymbols items ++ ss)
  | [], _, h => by
    rw [itemSymbols]
    exact .cons rfl h
  | [v], _, h => by
    rw [itemSymbols, List.append_assoc]
    exact v.apart_append rfl (.cons rfl h)
  | v :: w :: vs, _, h => by
    rw [itemSymbols, List.append_assoc]
    exact v.apart_append rfl (.cons rfl (apart_itemSymbols (w :: vs) h))

theorem apart_memberSymbols : ∀ (members : List (List Piece × Source)) {ss : List Symbol}, Apart ss →
    Apart (memberSymbols members ++ ss)
  | [], _, h => by
    rw [memberSymbols]
    exact .cons rfl h
  | [(_, v)], _, h => by
    rw [memberSymbols, List.cons_append, List.cons_append, List.append_assoc]
    exact .cons rfl (.cons rfl (v.apart_append rfl (.cons rfl h)))
  | (_, v) :: m :: ms, _, h => by
    rw [memberSymbols, List.cons_append, List.cons_append, List.append_assoc]
    exact .cons rfl (.cons rfl (v.apart_append rfl (.cons rfl (apart_memberSymbols (m :: ms) h))))

end

theorem Source.apart (v : Source) : Apart v.symbols :=
  (v.apart_append (s := .comma) rfl (List.isChain_singleton _)).left_of_append

/-! ## From sources to trees -/

mutual

/-- the symbols of a source have the lexemes of its tree -/
theorem Source.map_symbols : ∀ v : Source, v.symbols.map Symbol.lexeme = v.tree.lexemes
  | .null => by rw [Source.symbols, Source.tree, Tree.lexemes]; rfl
  | .bool _ => by rw [Source.symbols, Source.tree, Tree.lexemes]; rfl
  | .number _ => by rw [Source.symbols, Source.tree, Tree.lexemes]; rfl
  | .text _ => by rw [Source.symbols, Source.tree, Tree.lexemes]; rfl
  | .list items => by
    rw [Source.symbols, Source.tree, Tree.lexemes, List.map_cons, map_itemSymbols items]
    rfl
  | .object members => by
    rw [Source.symbols, Source.tree, Tree.lexemes, List.map_cons, map_memberSymbols members]
    rfl

theorem map_itemSymbols : ∀ items : List Source,
    (itemSymbols items).map Symbol.lexeme = itemLexemes (sourceItems items)
  | [] => by rw [itemSymbols, sourceItems, itemLexemes]; rfl
  | [v] => by
    rw [itemSymbols, sourceItems, sourceItems, itemLexemes, List.map_append, v.map_symbols]
    rfl
  | v :: w :: vs => by
    have hmore := map_itemSymbols (w :: vs)
    rw [sourceItems] at hmore
    rw [itemSymbols, sourceItems, sourceItems, itemLexemes, List.map_append, v.map_symbols, List.map_cons, hmore]
    rfl

theorem map_memberSymbols : ∀ members : List (List Piece × Source),
    (memberSymbols members).map Symbol.lexeme = memberLexemes (sourceMembers members)
  | [] => by rw [memberSymbols, sourceMembers, memberLexemes]; rfl
  | [(ps, v)] => by
    rw [memberSymbols, sourceMembers, sourceMembers, memberLexemes, List.map_cons, List.map_cons, List.map_append,
      v.map_symbols]
    rfl
  | (ps, v) :: (qs, w) :: ms => by
    have hmore := map_memberSymbols ((qs, w) :: ms)
    rw [sourceMembers] at hmore
    rw [memberSymbols, sourceMembers, sourceMembers, memberLexemes, List.map_cons, List.map_cons, List.map_append,
      v.map_symbols, List.map_cons, hmore]
    rfl

end

mutual

theorem Source.whole_tree : ∀ v : Source, v.tree.Whole
  | .null => by rw [Source.tree]; exact .plain _
  | .bool _ => by rw [Source.tree]; exact .plain _
  | .number _ => by rw [Source.tree]; exact .plain _
  | .text _ => by rw [Source.tree]; exact .text _
  | .list items => by rw [Source.tree]; exact .list (whole_sourceItems items)
  | .object members => by rw [Source.tree]; exact .object (whole_sourceMembers members)

theorem whole_sourceItems : ∀ (items : List Source), ∀ t ∈ sourceItems items, t.Whole
  | [] => by simp [sourceItems]
  | v :: vs => by
    rw [sourceItems]
    exact List.forall_mem_cons.2 ⟨v.whole_tree, whole_sourceItems vs⟩

theorem whole_sourceMembers : ∀ (members : List (List Piece × Source)), ∀ m ∈ sourceMembers members, m.2.Whole
  | [] => by simp [sourceMembers]
  | (ps, v) :: ms => by
    rw [sourceMembers]
    exact List.forall_mem_cons.2 ⟨v.whole_tree, whole_sourceMembers ms⟩

end

/-- **Texts of the grammar.** Every text that says something is read as the tree of what it says. -/
theorem Source.WrittenAs.parse_eq {v : Source} {text : String} (h : v.WrittenAs text) : parse text = ⟨v.tree, false⟩ := by
  have hls : lexemes text.toList = v.tree.lexemes := by
    rw [← v.map_symbols]
    exact lexemes_symbols h v.apart
  exact v.whole_tree.parse_eq hls

/-! ## From trees to sources -/

/-- a mark is known by its lexeme -/
theorem Symbol.eq_mark {s m : Symbol} (hm : m ∈ [beginList, endList, beginObject, endObject, comma, colon])
    (h : s.lexeme = m.lexeme) : s = m := by
  simp only [List.mem_cons, List.not_mem_nil, or_false] at hm
  rcases hm with rfl | rfl | rfl | rfl | rfl | rfl
  all_goals
    cases s with
    | _ => first | rfl | cases h

/-- the symbols with the lexemes of the tree are those of a source with this tree -/
def Tree.FromSource (t : Tree) : Prop :=
  ∀ ss : List Symbol, ss.map Symbol.lexeme = t.lexemes → ∃ v : Source, v.symbols = ss ∧ v.tree = t

theorem exists_sourceItems {ts : List Tree} (ih : ∀ t ∈ ts, t.FromSource) {ss : List Symbol}
    (h : ss.map Symbol.lexeme = itemLexemes ts) : ∃ vs, itemSymbols vs = ss ∧ sourceItems vs = ts := by
  induction ts generalizing ss with
  | nil =>
    rw [itemLexemes] at h
    obtain ⟨s, rfl, hs⟩ := List.map_eq_singleton_iff.1 h
    obtain rfl : s = .endList := Symbol.eq_mark (by simp) hs
    exact ⟨[], rfl, rfl⟩
  | cons t ts step =>
    obtain ⟨ht, hts⟩ := List.forall_mem_cons.1 ih
    cases ts with
    | nil =>
      rw [itemLexemes] at h
      obtain ⟨front, _, rfl, hfront, hlast⟩ := List.map_eq_append_iff.1 h
      obtain ⟨s, rfl, hs⟩ := List.map_eq_singleton_iff.1 hlast
      obtain rfl : s = .endList := Symbol.eq_mark (by simp) hs
      obtain ⟨v, rfl, rfl⟩ := ht front hfront
      exact ⟨[v], by rw [itemSymbols], by rw [sourceItems, sourceItems]⟩
    | cons u ts =>
      rw [itemLexemes] at h
      obtain ⟨front, _, rfl, hfront, hback⟩ := List.map_eq_append_iff.1 h
      obtain ⟨s, back, rfl, hs, hmore⟩ := List.map_eq_cons_iff.1 hback
      obtain rfl : s = .comma := Symbol.eq_mark (by simp) hs
      obtain ⟨v, rfl, rfl⟩ := ht front hfront
      obtain ⟨vs, rfl, hvs⟩ := step hts hmore
      cases vs with
      | nil => rw [sourceItems] at hvs; cases hvs
      | cons w vs => exact ⟨v :: w :: vs, by rw [itemSymbols], by rw [sourceItems, hvs]⟩

/-- the key, the colon and the value of a member -/
theorem exists_sourceMember {key : Token String} {t : Tree} (ht : t.FromSource) {ss : List Symbol} {ls : List Lexeme}
    (h : ss.map Symbol.lexeme = .text key :: .colon :: (t.lexemes ++ ls)) :
    ∃ ps v back, ss = .text ps :: .colon :: (Source.symbols v ++ back) ∧ back.map Symbol.lexeme = ls ∧
      textToken ps = key ∧ v.tree = t := by
  obtain ⟨s, _, rfl, hs, h⟩ := List.map_eq_cons_iff.1 h
  obtain ⟨s', _, rfl, hs', h⟩ := List.map_eq_cons_iff.1 h
  obtain ⟨front, back, rfl, hfront, hback⟩ := List.map_eq_append_iff.1 h
  obtain rfl : s' = .colon := Symbol.eq_mark (by simp) hs'
  obtain ⟨v, rfl, rfl⟩ := ht front hfront
  cases s with
  | text ps =>
    cases hs
    exact ⟨ps, v, back, rfl, hback, rfl, rfl⟩
  | _ => cases hs

theorem exists_sourceMembers {ms : List (Token String × Tree)} (ih : ∀ m ∈ ms, m.2.FromSource) {ss : List Symbol}
    (h : ss.map Symbol.lexeme = memberLexemes ms) : ∃ vs, memberSymbols vs = ss ∧ sourceMembers vs = ms := by
  induction ms generalizing ss with
  | nil =>
    rw [memberLexemes] at h
    obtain ⟨s, rfl, hs⟩ := List.map_eq_singleton_iff.1 h
    obtain rfl : s = .endObject := Symbol.eq_mark (by simp) hs
    exact ⟨[], rfl, rfl⟩
  | cons m ms step =>
    obtain ⟨key, t⟩ := m
    obtain ⟨ht, hms⟩ := List.forall_mem_cons.1 ih
    cases ms with
    | nil =>
      rw [memberLexemes] at h
      obtain ⟨ps, v, _, rfl, hlast, rfl, rfl⟩ := exists_sourceMember ht h
      obtain ⟨s, rfl, hs⟩ := List.map_eq_singleton_iff.1 hlast
      obtain rfl : s = .endObject := Symbol.eq_mark (by simp) hs
      exact ⟨[(ps, v)], by rw [memberSymbols], by rw [sourceMembers, sourceMembers]⟩
    | cons n ms =>
      rw [memberLexemes] at h
      obtain ⟨ps, v, _, rfl, hback, rfl, rfl⟩ := exists_sourceMember ht h
      obtain ⟨s, back, rfl, hs, hmore⟩ := List.map_eq_cons_iff.1 hback
      obtain rfl : s = .comma := Symbol.eq_mark (by simp) hs
      obtain ⟨vs, rfl, hvs⟩ := step hms hmore
      cases vs with
      | nil => rw [sourceMembers] at hvs; cases hvs
      | cons w vs => exact ⟨(ps, v) :: w :: vs, by rw [memberSymbols], by rw [sourceMembers, hvs]⟩

/-- symbols with the lexemes of a whole tree are those of a source with this tree -/
theorem Tree.Whole.fromSource {t : Tree} (h : t.Whole) : t.FromSource := by
  induction h with
  | plain t =>
    intro ss hss
    rw [Tree.lexemes] at hss
    obtain ⟨s, rfl, hs⟩ := List.map_eq_singleton_iff.1 hss
    cases s with
    | null => cases hs; exact ⟨.null, by rw [Source.symbols], by rw [Source.tree]⟩
    | bool b => cases hs; exact ⟨.bool b, by rw [Source.symbols], by rw [Source.tree]⟩
    | number w => cases hs; exact ⟨.number w, by rw [Source.symbols], by rw [Source.tree]⟩
    | _ => cases hs
  | text t =>
    intro ss hss
    rw [Tree.lexemes] at hss
    obtain ⟨s, rfl, hs⟩ := List.map_eq_singleton_iff.1 hss
    cases s with
    | text ps => cases hs; exact ⟨.text ps, by rw [Source.symbols], by rw [Source.tree]⟩
    | _ => cases hs
  | list _ ih =>
    intro ss hss
    rw [Tree.lexemes] at hss
    obtain ⟨s, ss, rfl, hs, hmore⟩ := List.map_eq_cons_iff.1 hss
    obtain rfl : s = .beginList := Symbol.eq_mark (by simp) hs
    obtain ⟨vs, rfl, rfl⟩ := exists_sourceItems ih hmore
    exact ⟨.list vs, by rw [Source.symbols], by rw [Source.tree]⟩
  | object _ ih =>
    intro ss hss
    rw [Tree.lexemes] at hss
    obtain ⟨s, ss, rfl, hs, hmore⟩ := List.map_eq_cons_iff.1 hss
    obtain rfl : s = .beginObject := Symbol.eq_mark (by simp) hs
    obtain ⟨ms, rfl, rfl⟩ := exists_sourceMembers ih hmore
    exact ⟨.object ms, by rw [Source.symbols], by rw [Source.tree]⟩

/-! ## Passing over -/

mutual

/-- whatever a text of the grammar says can be passed over -/
theorem Source.skip_tree : ∀ v : Source, v.tree.skip = .ok ()
  | .null => by rw [Source.tree, Tree.skip]; rfl
  | .bool _ => by rw [Source.tree, Tree.skip]; rfl
  | .number _ => by rw [Source.tree, Tree.skip]; rfl
  | .text _ => by rw [Source.tree, Tree.skip]; rfl
  | .list items => by
    rw [Source.tree, Tree.skip, skip_sourceItems items]
    rfl
  | .object members => by
    rw [Source.tree, Tree.skip, skip_sourceMembers members]
    rfl

theorem skip_sourceItems : ∀ items : List Source, skipItems (sourceItems items) = .ok ()
  | [] => by rw [sourceItems]; rfl
  | v :: vs => by
    rw [sourceItems, skipItems, v.skip_tree]
    exact skip_sourceItems vs

theorem skip_sourceMembers : ∀ members : List (List Piece × Source), skipMembers (sourceMembers members) = .ok ()
  | [] => by rw [sourceMembers]; rfl
  | (ps, v) :: ms => by
    rw [sourceMembers, skipMembers, v.skip_tree]
    exact skip_sourceMembers ms

end

end EntitySchema.Json
