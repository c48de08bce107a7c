/-
Only texts of the grammar are read. A codec looks at everything in the tree that it is given, be it to use it or to pass
over it. So where a value is read nothing breaks off, and every scalar can at least be passed over; such a tree has been
put together from its own lexemes, these are cut from a row of symbols, and the symbols are those of a source.

- `Tree.Intact`: the trees in which nothing is broken.
- `Tree.intact_of_check`, `Tree.intact_of_skip`: only these are read to the end, and only these are passed over.
- `Codec.Thorough`: a codec that reads values only from such trees; texts, truth values, options, lists and records are
  read by such codecs.
- `Codec.Thorough.exists_source`: what holds a value is a text of the grammar.
-/
import EntitySchema.Proofs.Json.MemberOrder
import EntitySchema.Proofs.Json.Scanning

namespace EntitySchema.Json

open EntitySchema.Outcome

/-! ## Intact trees -/

/-- nothing breaks off, and every scalar and every key can be used or passed over -/
inductive Tree.Intact : Tree → Prop
  | plain {t : Token Scalar} (ht : t.Intact) : Intact (.plain t)
  | text {t : Token String} (ht : t.Intact) : Intact (.text t)
  | list {items : List Tree} (h : ∀ t ∈ items, Intact t) : Intact (.list items .closed)
  | object {members : List (Token String × Tree)} (hkeys : ∀ m ∈ members, m.1.Intact) (h : ∀ m ∈ members, Intact m.2) :
    Intact (.object members .closed)

theorem Tree.Intact.whole {t : Tree} (h : t.Intact) : t.Whole := by
  induction h with
  | plain => exact .plain _
  | text => exact .text _
  | list _ ih => exact .list ih
  | object _ _ ih => exact .object ih

theorem intact_itemLexemes {ts : List Tree} (ih : ∀ t ∈ ts, ∀ l ∈ t.lexemes, l.Intact) :
    ∀ l ∈ itemLexemes ts, l.Intact := by
  induction ts with
  | nil =>
    rw [itemLexemes]
    exact List.forall_mem_singleton.2 trivial
  | cons t ts step =>
    obtain ⟨ht, hts⟩ := List.forall_mem_cons.1 ih
    cases ts with
    | nil =>
      rw [itemLexemes]
      exact List.forall_mem_append.2 ⟨ht, List.forall_mem_singleton.2 trivial⟩
    | cons u ts =>
      rw [itemLexemes]
      exact List.forall_mem_append.2 ⟨ht, List.forall_mem_cons.2 ⟨trivial, step hts⟩⟩

theorem intact_memberLexemes {ms : List (Token String × Tree)} (hkeys : ∀ m ∈ ms, m.1.Intact)
    (ih : ∀ m ∈ ms, ∀ l ∈ m.2.lexemes, l.Intact) : ∀ l ∈ memberLexemes ms, l.Intact := by
  have hmember : ∀ {key : Token String} {t : Tree} {ls : List Lexeme}, key.Intact → (∀ l ∈ t.lexemes, l.Intact) →
      (∀ l ∈ ls, l.Intact) → ∀ l ∈ .text key :: .colon :: (t.lexemes ++ ls), l.Intact := fun hkey ht hls =>
    List.forall_mem_cons.2 ⟨hkey, List.forall_mem_cons.2 ⟨trivial, List.forall_mem_append.2 ⟨ht, hls⟩⟩⟩
  induction ms with
  | nil =>
    rw [memberLexemes]
    exact List.forall_mem_singleton.2 trivial
  | cons m ms step =>
    obtain ⟨hkey, hkeys⟩ := List.forall_mem_cons.1 hkeys
    obtain ⟨ht, hms⟩ := List.forall_mem_cons.1 ih
    cases ms with
    | nil =>
      rw [memberLexemes]
      exact hmember hkey ht (List.forall_mem_singleton.2 trivial)
    | cons n ms =>
      rw [memberLexemes]
      exact hmember hkey ht (List.forall_mem_cons.2 ⟨trivial, step hkeys hms⟩)

theorem Tree.Intact.forall_lexemes {t : Tree} (h : t.Intact) : ∀ l ∈ t.lexemes, l.Intact := by
  induction h with
  | plain ht =>
    rw [Tree.lexemes]
    exact List.forall_mem_singleton.2 ht
  | text ht =>
    rw [Tree.lexemes]
    exact List.forall_mem_singleton.2 ht
  | list _ ih =>
    rw [Tree.lexemes]
    exact List.forall_mem_cons.2 ⟨trivial, intact_itemLexemes ih⟩
  | object hkeys _ ih =>
    rw [Tree.lexemes]
    exact List.forall_mem_cons.2 ⟨trivial, intact_memberLexemes hkeys ih⟩

/-! ## What is read or passed over is intact -/

theorem refuse_eq_ok {f? : Option Fault} : refuse f? = .ok () ↔ f? = none := by
  cases f? <;> simp [refuse]

/-- no reader is content with another end of a list than the bracket -/
theorem ListEnd.eq_closed {e : ListEnd}
    (h : refuse e.fault? = .ok () ∨ refuse e.fullFault? = .ok () ∨ refuse e.skipFault? = .ok ()) : e = .closed := by
  simp only [refuse_eq_ok] at h
  cases e <;> simp [fault?, fullFault?, skipFault?] at h ⊢

/-- no reader is content with another end of an object than the brace -/
theorem ObjectEnd.eq_closed {e : ObjectEnd} (h : refuse e.fault? = .ok () ∨ refuse e.skipFault? = .ok ()) :
    e = .closed := by
  simp only [refuse_eq_ok] at h
  cases e <;> simp [fault?, skipFault?] at h ⊢

mutual

theorem Tree.intact_of_check : ∀ {t : Tree} {levels : Nat}, t.check levels = .ok () → t.Intact
  | .nothing _, _, h => by rw [Tree.check] at h; cases h
  | .plain t, _, h => by
    rw [Tree.check] at h
    obtain ⟨a, ha, -⟩ := map_eq_ok.1 h
    exact .plain (.inl ⟨a, ha⟩)
  | .text t, _, h => by
    rw [Tree.check] at h
    obtain ⟨a, ha, -⟩ := map_eq_ok.1 h
    exact .text (.inl ⟨a, ha⟩)
  | .list items ending, 0, h => by rw [Tree.check] at h; cases h
  | .list items ending, levels + 1, h => by
    rw [Tree.check, andThen_eq_ok] at h
    obtain rfl := ListEnd.eq_closed (.inl h.2)
    exact .list (intact_of_checkItems h.1)
  | .object members ending, 0, h => by rw [Tree.check] at h; cases h
  | .object members ending, levels + 1, h => by
    rw [Tree.check, andThen_eq_ok] at h
    obtain rfl := ObjectEnd.eq_closed (.inl h.2)
    obtain ⟨hkeys, hvalues⟩ := intact_of_checkMembers h.1
    exact .object hkeys hvalues

theorem intact_of_checkItems : ∀ {ts : List Tree} {levels : Nat}, checkItems levels ts = .ok () → ∀ t ∈ ts, t.Intact
  | [], _, _ => by simp
  | t :: ts, _, h => by
    rw [checkItems, andThen_eq_ok] at h
    exact List.forall_mem_cons.2 ⟨Tree.intact_of_check h.1, intact_of_checkItems h.2⟩

theorem intact_of_checkMembers : ∀ {ms : List (Token String × Tree)} {levels : Nat}, checkMembers levels ms = .ok () →
    (∀ m ∈ ms, m.1.Intact) ∧ ∀ m ∈ ms, m.2.Intact
  | [], _, _ => by simp
  | (key, t) :: ms, _, h => by
    rw [checkMembers, bind_eq_ok] at h
    obtain ⟨a, ha, h⟩ := h
    rw [andThen_eq_ok] at h
    obtain ⟨hkeys, hvalues⟩ := intact_of_checkMembers h.2
    exact ⟨List.forall_mem_cons.2 ⟨.inl ⟨a, ha⟩, hkeys⟩, List.forall_mem_cons.2 ⟨Tree.intact_of_check h.1, hvalues⟩⟩

end

mutual

theorem Tree.intact_of_skip : ∀ {t : Tree}, t.skip = .ok () → t.Intact
  | .nothing _, h => by rw [Tree.skip] at h; cases h
  | .plain t, h => by
    rw [Tree.skip] at h
    exact .plain (.inr (refuse_eq_ok.1 h))
  | .text t, h => by
    rw [Tree.skip] at h
    exact .text (.inr (refuse_eq_ok.1 h))
  | .list items ending, h => by
    rw [Tree.skip, andThen_eq_ok] at h
    obtain rfl := ListEnd.eq_closed (.inr (.inr h.2))
    exact .list (intact_of_skipItems h.1)
  | .object members ending, h => by
    rw [Tree.skip, andThen_eq_ok] at h
    obtain rfl := ObjectEnd.eq_closed (.inr h.2)
    obtain ⟨hkeys, hvalues⟩ := intact_of_skipMembers h.1
    exact .object hkeys hvalues

theorem intact_of_skipItems : ∀ {ts : List Tree}, skipItems ts = .ok () → ∀ t ∈ ts, t.Intact
  | [], _ => by simp
  | t :: ts, h => by
    rw [skipItems, andThen_eq_ok] at h
    exact List.forall_mem_cons.2 ⟨Tree.intact_of_skip h.1, intact_of_skipItems h.2⟩

theorem intact_of_skipMembers : ∀ {ms : List (Token String × Tree)}, skipMembers ms = .ok () →
    (∀ m ∈ ms, m.1.Intact) ∧ ∀ m ∈ ms, m.2.Intact
  | [], _ => by simp
  | (key, t) :: ms, h => by
    rw [skipMembers, andThen_eq_ok, andThen_eq_ok] at h
    obtain ⟨hkeys, hvalues⟩ := intact_of_skipMembers h.2.2
    exact ⟨List.forall_mem_cons.2 ⟨.inr (refuse_eq_ok.1 h.1), hkeys⟩,
      List.forall_mem_cons.2 ⟨Tree.intact_of_skip h.2.1, hvalues⟩⟩

end

/-! ## Codecs -/

variable {α β : Type} {αs : List Type} {levels : Nat}

namespace Codec

/-- a value is only read from a tree that is intact -/
def Thorough (c : Codec α) : Prop := ∀ levels t a, c.read levels t = .ok a → t.Intact

theorem mismatch_ne_ok (t : Tree) (expected : String) (a : α) : mismatch t expected ≠ .ok a := by
  have hbind : ∀ {β : Type} (r : Except Fault β) (g : β → Fault),
      (r.bind fun b => (.error (g b) : Except Fault α)) ≠ .ok a := by
    intro β r g h
    obtain ⟨b, -, hb⟩ := bind_eq_ok.1 h
    cases hb
  cases t with
  | plain t => exact hbind _ _
  | text t => exact hbind _ _
  | _ => nofun

theorem thorough_text : text.Thorough := by
  intro levels t s h
  simp only [text] at h
  split at h
  · exact .text (.inl ⟨s, h⟩)
  · exact absurd h (mismatch_ne_ok _ _ s)

theorem thorough_bool : bool.Thorough := by
  intro levels t b h
  simp only [bool] at h
  split at h
  · exact .plain (.inl ⟨_, rfl⟩)
  · exact absurd h (mismatch_ne_ok _ _ b)

theorem Thorough.optional {c : Codec α} (h : c.Thorough) : (optional c).Thorough := by
  intro levels t a hread
  simp only [Codec.optional] at hread
  split at hread
  · exact .plain (.inl ⟨_, rfl⟩)
  · obtain ⟨a, ha, -⟩ := map_eq_ok.1 hread
    exact h levels t a ha

theorem Thorough.imap {c : Codec α} (h : c.Thorough) (forth : α → β) (back : β → α) : (c.imap forth back).Thorough := by
  intro levels t b hread
  obtain ⟨a, ha, -⟩ := map_eq_ok.1 hread
  exact h levels t a ha

theorem Thorough.readItems {c : Codec α} (h : c.Thorough) {ts : List Tree} {as : List α}
    (hread : readItems (c.read levels) ts = .ok as) : ∀ t ∈ ts, t.Intact := by
  induction ts generalizing as with
  | nil => simp
  | cons t ts ih =>
    rw [Json.readItems, bind_eq_ok] at hread
    obtain ⟨a, ha, hrest⟩ := hread
    obtain ⟨as, has, -⟩ := map_eq_ok.1 hrest
    exact List.forall_mem_cons.2 ⟨h levels t a ha, ih has⟩

theorem Thorough.list {c : Codec α} (h : c.Thorough) : (list c).Thorough := by
  intro levels t as hread
  simp only [Codec.list] at hread
  split at hread
  · rename_i items ending
    cases levels with
    | zero => cases hread
    | succ levels =>
      rw [deeper, bind_eq_ok] at hread
      obtain ⟨as, has, hend⟩ := hread
      obtain rfl := ListEnd.eq_closed (.inl (mapConst_eq_ok.1 hend).1)
      exact .list (h.readItems has)
  · exact absurd hread (mismatch_ne_ok _ _ as)

end Codec

namespace Members

/-- values of members are only read from trees that are intact -/
def Thorough : {αs : List Type} → Members αs → Prop
  | _, nil => True
  | _, cons m ms => m.codec.Thorough ∧ ms.Thorough

theorem Thorough.nil : Members.nil.Thorough := trivial

theorem Thorough.cons {m : Member α} {ms : Members αs} (hm : m.codec.Thorough) (hms : ms.Thorough) :
    (Members.cons m ms).Thorough := ⟨hm, hms⟩

variable {ms : Members αs} {d e : Draft αs}

theorem Thorough.put? (h : ms.Thorough) {name : String} {t : Tree} (hput : ms.put? levels name t d = some (.ok e)) :
    t.Intact := by
  induction ms with
  | nil => cases hput
  | cons m ms ih =>
    obtain ⟨slot, d⟩ := d
    rcases put?_cons_eq_ok.1 hput with ⟨-, -, a, ha, -⟩ | ⟨-, d', hd', -⟩
    · exact h.1 _ _ _ ha
    · exact ih h.2 hd'

theorem Thorough.fill (h : ms.Thorough) {members : List (Token String × Tree)}
    (hfill : ms.fill levels d members = .ok e) : (∀ m ∈ members, m.1.Intact) ∧ ∀ m ∈ members, m.2.Intact := by
  induction members generalizing d with
  | nil => simp
  | cons m members ih =>
    obtain ⟨key, t⟩ := m
    rw [Members.fill, bind_eq_ok] at hfill
    obtain ⟨name, hname, hrest⟩ := hfill
    obtain ⟨d', hone, hmore⟩ := bind_eq_ok.1 hrest
    obtain ⟨hkeys, hvalues⟩ := ih hmore
    refine ⟨List.forall_mem_cons.2 ⟨.inl ⟨name, hname⟩, hkeys⟩, List.forall_mem_cons.2 ⟨?_, hvalues⟩⟩
    split at hone
    · rename_i r hput
      exact h.put? (hone ▸ hput)
    · exact Tree.intact_of_skip (mapConst_eq_ok.1 hone).1

theorem Thorough.readRow (h : ms.Thorough) {title : String} {size present : Nat} {ending : ListEnd} {ts : List Tree}
    {row : Row αs} (hread : ms.readRow title size levels present ending ts = .ok row) :
    (∀ t ∈ ts, t.Intact) ∧ ending = .closed := by
  induction ms generalizing present ts with
  | nil =>
    cases ts with
    | nil => exact ⟨by simp, ListEnd.eq_closed (.inr (.inl (mapConst_eq_ok.1 hread).1))⟩
    | cons t ts => cases hread
  | cons m ms ih =>
    cases ts with
    | nil =>
      rw [Members.readRow, andThen_eq_ok] at hread
      exact ⟨by simp, ListEnd.eq_closed (.inl hread.1)⟩
    | cons t ts =>
      rw [Members.readRow, bind_eq_ok] at hread
      obtain ⟨a, ha, hrest⟩ := hread
      obtain ⟨row, hrow, -⟩ := map_eq_ok.1 hrest
      obtain ⟨hts, hend⟩ := ih h.2 hrow
      exact ⟨List.forall_mem_cons.2 ⟨h.1 _ _ _ ha, hts⟩, hend⟩

end Members

theorem Codec.thorough_record {ms : Members αs} (h : ms.Thorough) (title : String) : (ms.codec title).Thorough := by
  intro levels t row hread
  simp only [Members.codec] at hread
  split at hread
  · rename_i members ending
    cases levels with
    | zero => cases hread
    | succ levels =>
      rw [deeper, bind_eq_ok] at hread
      obtain ⟨d, hd, hrest⟩ := hread
      obtain ⟨hkeys, hvalues⟩ := h.fill hd
      obtain rfl := ObjectEnd.eq_closed (.inl (andThen_eq_ok.1 hrest).1)
      exact .object hkeys hvalues
  · rename_i items ending
    cases levels with
    | zero => cases hread
    | succ levels =>
      obtain ⟨hitems, rfl⟩ := h.readRow hread
      exact .list hitems
  · exact absurd hread (Codec.mismatch_ne_ok _ _ row)

/-! ## Texts -/

/-- a text that is read as an intact tree, with nothing after it, is a text of the grammar -/
theorem Tree.Intact.exists_source {t : Tree} (h : t.Intact) {text : String} (hparse : parse text = ⟨t, false⟩) :
    ∃ v : Source, v.WrittenAs text ∧ v.tree = t := by
  have hls : Json.lexemes text.toList = t.lexemes := h.whole.lexemes_of_parse hparse
  obtain ⟨ss, hss, hmap⟩ := symbols_of_lexemes (hls ▸ h.forall_lexemes)
  obtain ⟨v, rfl, hv⟩ := h.whole.fromSource ss (hmap.trans hls)
  exact ⟨v, hss, hv⟩

/-- **Only texts of the grammar.** A text that holds a value is a text of the grammar, and the value is read from its
tree. -/
theorem Codec.Thorough.exists_source {c : Codec α} (hc : c.Thorough) {text : String} {a : α}
    (h : c.ofText text = .ok a) : ∃ v : Source, v.WrittenAs text ∧ c.read depthLimit v.tree = .ok a := by
  rw [ofText, ofParsed, bind_eq_ok] at h
  obtain ⟨b, hread, hend⟩ := h
  cases htrailing : (parse text).trailing with
  | true => rw [htrailing] at hend; cases hend
  | false =>
    rw [htrailing] at hend
    cases hend
    have hparse : parse text = ⟨(parse text).tree, false⟩ := by rw [← htrailing]
    obtain ⟨v, hv, htree⟩ := (hc _ _ _ hread).exists_source hparse
    exact ⟨v, hv, by rw [htree, hread]⟩

end EntitySchema.Json
