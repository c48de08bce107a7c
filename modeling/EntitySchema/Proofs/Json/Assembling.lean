/-
Trees put together from their lexemes. A tree in which nothing breaks off has a row of lexemes: brackets around lists and
objects, commas between their parts. From this row, inside whatever is open and before whatever follows, the reader puts
the tree together again: a list because each of its items is, and an object because each value under its keys is. It puts
such a tree together from nothing else: at every step, what has been read are the lexemes of what is open.

- `Tree.Whole`, `Tree.lexemes`: the trees in which nothing breaks off, and their lexemes.
- `assemble_lexemes`: awaiting a value, these lexemes are read as the tree.
- `lexemes_of_assemble`: where such a tree comes out, its lexemes have been read.
- `Tree.Whole.parse_eq`, `Tree.Whole.lexemes_of_parse`: the texts that are read as the tree are those that are cut into its
  lexemes.
-/
import EntitySchema.Json.Tree

namespace EntitySchema.Json

/-! ## Lexemes of trees -/

/-- nothing breaks off: everything is closed, and a value stands wherever one must -/
inductive Tree.Whole : Tree → Prop
  | plain (t : Token Scalar) : Whole (.plain t)
  | text (t : Token String) : Whole (.text t)
  | list {items : List Tree} (h : ∀ t ∈ items, Whole t) : Whole (.list items .closed)
  | object {members : List (Token String × Tree)} (h : ∀ m ∈ members, Whole m.2) : Whole (.object members .closed)

mutual

/-- the lexemes of a tree, as far as it goes -/
def Tree.lexemes : Tree → List Lexeme
  | .nothing _ => []
  | .plain t => [.plain t]
  | .text t => [.text t]
  | .list items _ => .beginList :: itemLexemes items
  | .object members _ => .beginObject :: memberLexemes members

/-- the lexemes of items with commas between them, up to the bracket -/
def itemLexemes : List Tree → List Lexeme
  | [] => [.endList]
  | [t] => t.lexemes ++ [.endList]
  | t :: u :: ts => t.lexemes ++ .comma :: itemLexemes (u :: ts)

/-- the lexemes of members with commas between them, up to the brace -/
def memberLexemes : List (Token String × Tree) → List Lexeme
  | [] => [.endObject]
  | [(key, t)] => .text key :: .colon :: (t.lexemes ++ [.endObject])
  | (key, t) :: m :: ms => .text key :: .colon :: (t.lexemes ++ .comma :: memberLexemes (m :: ms))

end

/-! ## One value -/

/-- a lexeme that does not end the list is looked at as one that starts a value -/
theorem assemble_item_eq_value {l : Lexeme} (hl : l ≠ .endList) (before : List Tree) (comma : Bool) (fs : List Frame)
    (ls : List Lexeme) : assemble (.item before comma) fs (l :: ls) = assemble .value (.item before :: fs) (l :: ls) := by
  cases l with
  | endList => exact absurd rfl hl
  | _ => simp only [assemble]

/-- the lexemes of the tree, inside anything and before anything, are read as the tree -/
def Tree.Assembles (t : Tree) : Prop :=
  ∀ fs ls, assemble .value fs (t.lexemes ++ ls) = assemble (.after t) fs ls

theorem Tree.Whole.lexemes_eq_cons {t : Tree} (h : t.Whole) : ∃ l ls, t.lexemes = l :: ls ∧ l ≠ .endList := by
  cases h with
  | plain t => exact ⟨.plain t, [], by rw [Tree.lexemes], by simp⟩
  | text t => exact ⟨.text t, [], by rw [Tree.lexemes], by simp⟩
  | list h => exact ⟨.beginList, _, by rw [Tree.lexemes], by simp⟩
  | object h => exact ⟨.beginObject, _, by rw [Tree.lexemes], by simp⟩

/-- where an item may stand, the lexemes of a tree are read as the item -/
theorem Tree.Whole.assemble_item {t : Tree} (h : t.Whole) (ht : t.Assembles) (before : List Tree) (comma : Bool)
    (fs : List Frame) (ls : List Lexeme) :
    assemble (.item before comma) fs (t.lexemes ++ ls) = assemble (.after t) (.item before :: fs) ls := by
  have hvalue := ht (.item before :: fs) ls
  obtain ⟨l, more, hcons, hl⟩ := h.lexemes_eq_cons
  rw [hcons, List.cons_append] at hvalue ⊢
  rw [assemble_item_eq_value hl, hvalue]

/-- where a key may stand, a key and the lexemes of a tree after it are read as the member -/
theorem Tree.Assembles.assemble_key {t : Tree} (ht : t.Assembles) (key : Token String)
    (before : List (Token String × Tree)) (comma : Bool) (fs : List Frame) (ls : List Lexeme) :
    assemble (.key before comma) fs (.text key :: .colon :: (t.lexemes ++ ls)) =
      assemble (.after t) (.member before key :: fs) ls := by
  rw [assemble, assemble, ht]

/-! ## Items and members -/

/-- the items of a list that is open are read one after the other, and the bracket closes the list -/
theorem assemble_items {t : Tree} {ts : List Tree} (h : ∀ u ∈ t :: ts, u.Whole) (ih : ∀ u ∈ t :: ts, u.Assembles)
    (before : List Tree) (comma : Bool) (fs : List Frame) (ls : List Lexeme) :
    assemble (.item before comma) fs (itemLexemes (t :: ts) ++ ls) =
      assemble (.after (.list (before.reverse ++ t :: ts) .closed)) fs ls := by
  have ht : ∀ ls, assemble (.item before comma) fs (t.lexemes ++ ls) = assemble (.after t) (.item before :: fs) ls :=
    (h t List.mem_cons_self).assemble_item (ih t List.mem_cons_self) before comma fs
  induction ts generalizing t before comma with
  | nil =>
    rw [itemLexemes, List.append_assoc, ht, List.cons_append, List.nil_append, assemble]
    simp
  | cons u ts step =>
    obtain ⟨-, hrest⟩ := List.forall_mem_cons.1 h
    obtain ⟨-, ihrest⟩ := List.forall_mem_cons.1 ih
    have hu := (hrest u List.mem_cons_self).assemble_item (ihrest u List.mem_cons_self) (t :: before) true fs
    rw [itemLexemes, List.append_assoc, ht, List.cons_append, assemble, step hrest ihrest _ _ hu]
    simp

/-- the members of an object that is open are read one after the other, and the brace closes the object -/
theorem assemble_members {m : Token String × Tree} {ms : List (Token String × Tree)}
    (ih : ∀ n ∈ m :: ms, n.2.Assembles) (before : List (Token String × Tree)) (comma : Bool) (fs : List Frame)
    (ls : List Lexeme) :
    assemble (.key before comma) fs (memberLexemes (m :: ms) ++ ls) =
      assemble (.after (.object (before.reverse ++ m :: ms) .closed)) fs ls := by
  obtain ⟨key, t⟩ := m
  have ht := (ih (key, t) List.mem_cons_self).assemble_key key before comma fs
  induction ms generalizing key t before comma with
  | nil =>
    rw [memberLexemes, List.cons_append, List.cons_append, List.append_assoc, ht, List.cons_append, List.nil_append,
      assemble]
    simp
  | cons n ms step =>
    obtain ⟨-, ihrest⟩ := List.forall_mem_cons.1 ih
    have hn := (ihrest n List.mem_cons_self).assemble_key n.1 ((key, t) :: before) true fs
    rw [memberLexemes, List.cons_append, List.cons_append, List.append_assoc, ht, List.cons_append, assemble,
      step _ _ n.1 n.2 ihrest hn]
    simp

/-! ## Whole trees -/

theorem Tree.Assembles.list {items : List Tree} (h : ∀ t ∈ items, t.Whole) (ih : ∀ t ∈ items, t.Assembles) :
    (Tree.list items .closed).Assembles := by
  intro fs ls
  rw [Tree.lexemes, List.cons_append, assemble]
  cases items with
  | nil =>
    rw [itemLexemes]
    rfl
  | cons t ts => exact assemble_items h ih [] false fs ls

theorem Tree.Assembles.object {members : List (Token String × Tree)} (ih : ∀ m ∈ members, m.2.Assembles) :
    (Tree.object members .closed).Assembles := by
  intro fs ls
  rw [Tree.lexemes, List.cons_append, assemble]
  cases members with
  | nil =>
    rw [memberLexemes]
    rfl
  | cons m ms => exact assemble_members ih [] false fs ls

/-- awaiting a value, the lexemes of a tree are read as the tree -/
theorem assemble_lexemes {t : Tree} (h : t.Whole) : t.Assembles := by
  induction h with
  | plain t =>
    intro fs ls
    rw [Tree.lexemes]
    rfl
  | text t =>
    intro fs ls
    rw [Tree.lexemes]
    rfl
  | list h ih => exact .list h ih
  | object _ ih => exact .object ih

/-- a text that is cut into the lexemes of a tree is read as this tree, and nothing is left over -/
theorem Tree.Whole.parse_eq {t : Tree} (h : t.Whole) {text : String} (hls : Json.lexemes text.toList = t.lexemes) :
    parse text = ⟨t, false⟩ := by
  have hwhole : assemble .value [] t.lexemes = (t, []) := by
    simpa [assemble] using assemble_lexemes h [] []
  rw [parse, hls, hwhole]
  rfl

/-! ## From trees back to lexemes -/

/-- the lexemes of a list that is open, up to where an item comes next -/
def itemsAhead (before : List Tree) : List Lexeme :=
  .beginList :: before.reverse.flatMap fun t => t.lexemes ++ [.comma]

/-- the lexemes of an object that is open, up to where a key comes next -/
def membersAhead (before : List (Token String × Tree)) : List Lexeme :=
  .beginObject :: before.reverse.flatMap fun m => .text m.1 :: .colon :: (m.2.lexemes ++ [.comma])

theorem itemsAhead_cons (t : Tree) (before : List Tree) :
    itemsAhead (t :: before) = itemsAhead before ++ (t.lexemes ++ [.comma]) := by
  simp [itemsAhead, List.flatMap_append]

theorem membersAhead_cons (key : Token String) (t : Tree) (before : List (Token String × Tree)) :
    membersAhead ((key, t) :: before) = membersAhead before ++ (.text key :: .colon :: (t.lexemes ++ [.comma])) := by
  simp [membersAhead, List.flatMap_append]

theorem itemLexemes_concat (ts : List Tree) (t : Tree) :
    itemLexemes (ts ++ [t]) = (ts.flatMap fun t => t.lexemes ++ [.comma]) ++ (t.lexemes ++ [.endList]) := by
  induction ts with
  | nil => rw [List.nil_append, itemLexemes]; rfl
  | cons u ts ih =>
    cases ts with
    | nil => simp [itemLexemes]
    | cons v ts =>
      rw [List.cons_append] at ih
      rw [List.cons_append, List.cons_append, itemLexemes, ih]
      simp

theorem memberLexemes_concat (ms : List (Token String × Tree)) (key : Token String) (t : Tree) :
    memberLexemes (ms ++ [(key, t)]) =
      (ms.flatMap fun m => .text m.1 :: .colon :: (m.2.lexemes ++ [.comma])) ++
        (.text key :: .colon :: (t.lexemes ++ [.endObject])) := by
  induction ms with
  | nil => rw [List.nil_append, memberLexemes]; rfl
  | cons m ms ih =>
    obtain ⟨k, u⟩ := m
    cases ms with
    | nil => simp [memberLexemes]
    | cons n ms =>
      rw [List.cons_append] at ih
      rw [List.cons_append, List.cons_append, memberLexemes, ih]
      simp

/-- the bracket after an item -/
theorem lexemes_closedList (before : List Tree) (t : Tree) :
    (Tree.list (t :: before).reverse .closed).lexemes = itemsAhead before ++ (t.lexemes ++ [.endList]) := by
  rw [Tree.lexemes, List.reverse_cons, itemLexemes_concat, itemsAhead, List.cons_append]

/-- the brace after a member -/
theorem lexemes_closedObject (before : List (Token String × Tree)) (key : Token String) (t : Tree) :
    (Tree.object ((key, t) :: before).reverse .closed).lexemes =
      membersAhead before ++ (.text key :: .colon :: (t.lexemes ++ [.endObject])) := by
  rw [Tree.lexemes, List.reverse_cons, memberLexemes_concat, membersAhead, List.cons_append]

/-- the lexemes of what is open, up to where the value comes -/
def Frame.ahead : Frame → List Lexeme
  | .item before => itemsAhead before
  | .member before key => membersAhead before ++ [.text key, .colon]

/-- the lexemes of all that is open, outermost first -/
def framesAhead : List Frame → List Lexeme
  | [] => []
  | f :: fs => framesAhead fs ++ f.ahead

/-- the lexemes since the last frame, up to what is awaited -/
def Awaits.ahead : Awaits → List Lexeme
  | .value => []
  | .item before _ => itemsAhead before
  | .key before _ => membersAhead before
  | .colon before name => membersAhead before ++ [.text name]
  | .after t => t.lexemes

/-- a comma comes before an item or a key, unless it is the first -/
def Awaits.Ordered : Awaits → Prop
  | .item before comma => comma = false → before = []
  | .key before comma => comma = false → before = []
  | _ => True

theorem Lexeme.ahead_of_begin? {l : Lexeme} {next : Awaits} (h : l.begin? = some next) :
    next.ahead = [l] ∧ next.Ordered := by
  cases l with
  | beginList => cases h; exact ⟨rfl, fun _ => rfl⟩
  | beginObject => cases h; exact ⟨rfl, fun _ => rfl⟩
  | text t => cases h; exact ⟨by rw [Awaits.ahead, Tree.lexemes], trivial⟩
  | plain t => cases h; exact ⟨by rw [Awaits.ahead, Tree.lexemes], trivial⟩
  | _ => cases h

/-- where the text breaks off, no whole tree comes out unless the part there is one -/
theorem whole_of_abandon {t : Tree} {fs : List Frame} (h : (abandon t fs).Whole) : t.Whole := by
  fun_induction abandon t fs with
  | case1 => exact h
  | case2 t before fs ih => cases ih h
  | case3 t before key fs ih => cases ih h

/-- a whole tree has been put together from its lexemes: what was read before, and what has been read since -/
theorem lexemes_of_assemble {aw : Awaits} {fs : List Frame} {ls rest : List Lexeme} {t : Tree}
    (h : assemble aw fs ls = (t, rest)) (ht : t.Whole) (haw : aw.Ordered) :
    framesAhead fs ++ (aw.ahead ++ ls) = t.lexemes ++ rest := by
  have habandoned : ∀ {u : Tree} {fs : List Frame}, (abandon u fs, []) = (t, rest) → u.Whole := by
    rintro u fs ⟨⟩
    exact whole_of_abandon ht
  -- along the run of the assembler; the cases without a name abandon what was begun, which leaves no whole tree
  fun_induction assemble aw fs ls with
  | case1 => cases h; rfl
  | case3 fs l ls next hbegin ih =>
    obtain ⟨hnext, hordered⟩ := l.ahead_of_begin? hbegin
    rw [← ih h hordered, hnext]
    rfl
  | case5 before comma fs => cases comma <;> cases habandoned h
  | case7 before comma fs ls hcomma ih =>
    obtain rfl : before = [] := haw (by simpa using hcomma)
    rw [← ih h trivial, Awaits.ahead, Awaits.ahead, List.reverse_nil, Tree.lexemes, itemLexemes]
    rfl
  | case8 before comma fs ls l _ next hbegin ih =>
    obtain ⟨hnext, hordered⟩ := l.ahead_of_begin? hbegin
    rw [← ih h hordered, hnext, framesAhead, List.append_assoc]
    rfl
  | case10 before comma fs => cases comma <;> cases habandoned h
  | case12 before comma fs ls hcomma ih =>
    obtain rfl : before = [] := haw (by simpa using hcomma)
    rw [← ih h trivial, Awaits.ahead, Awaits.ahead, List.reverse_nil, Tree.lexemes, memberLexemes]
    rfl
  | case13 before comma fs ls key ih =>
    rw [← ih h trivial, Awaits.ahead, Awaits.ahead, List.append_assoc]
    rfl
  | case16 before key fs ls ih =>
    rw [← ih h trivial, framesAhead, Frame.ahead, Awaits.ahead, Awaits.ahead]
    simp
  | case19 t before fs ls ih =>
    rw [← ih h (by simp [Awaits.Ordered]), framesAhead, Frame.ahead, Awaits.ahead, Awaits.ahead, itemsAhead_cons]
    simp
  | case20 t before fs ls ih =>
    rw [← ih h trivial, framesAhead, Frame.ahead, Awaits.ahead, Awaits.ahead, lexemes_closedList]
    simp
  | case23 t before key fs ls ih =>
    rw [← ih h (by simp [Awaits.Ordered]), framesAhead, Frame.ahead, Awaits.ahead, Awaits.ahead, membersAhead_cons]
    simp
  | case24 t before key fs ls ih =>
    rw [← ih h trivial, framesAhead, Frame.ahead, Awaits.ahead, Awaits.ahead, lexemes_closedObject]
    simp
  | _ => cases habandoned h

/-- a whole tree with nothing after it is read from a text that is cut into its lexemes -/
theorem Tree.Whole.lexemes_of_parse {t : Tree} (h : t.Whole) {text : String} (hparse : parse text = ⟨t, false⟩) :
    Json.lexemes text.toList = t.lexemes := by
  cases hassemble : assemble .value [] (Json.lexemes text.toList) with
  | mk u rest =>
    rw [parse, hassemble] at hparse
    obtain ⟨rfl, hrest⟩ := Parsed.mk.inj hparse
    obtain rfl : rest = [] := by simpa using hrest
    simpa [framesAhead, Awaits.ahead] using lexemes_of_assemble hassemble h trivial

end EntitySchema.Json
