/-
Texts that differ in a number. What stands in the place of the number `x` may be another number or one that is out of
range; `y` says which. Wherever the text with `x` is read as a value, the text with `y` is read as the same value with
some of its numbers `x` replaced, or the fault of `y` is met.

- `Tree.Replaced`: trees that differ in such numbers only.
- `assemble_replaced`: lexemes that differ so make up trees that do, by what one lexeme does to what is open.
- `Tree.Replaced.skip_eq`: passing over the tree, the difference is not seen.
- `Codec.Follows`: a codec reads such trees as values that differ accordingly; `follows_text`, `follows_optional`,
  `follows_list`, `Follows.imap`, `follows_record`: this is kept when codecs are put together.
-/
import EntitySchema.Json.Record
import EntitySchema.Proofs.Json.Assembling
import EntitySchema.Proofs.Json.Lexing
import EntitySchema.Proofs.Tables
import Mathlib.Data.List.Forall2

namespace EntitySchema.Json

open EntitySchema.Decimal

/-! ## Trees -/

/-- the trees are the same but for numbers `x` in the first that are `y` in the second -/
inductive Tree.Replaced (x : Number) (y : Except Fault Number) : Tree → Tree → Prop
  | here : Replaced x y (.plain (numberToken (.ok x))) (.plain (numberToken y))
  | same (t : Tree) : Replaced x y t t
  | list {items items' : List Tree} {ending : ListEnd} (hlength : items.length = items'.length)
    (heach : ∀ p ∈ items.zip items', Replaced x y p.1 p.2) : Replaced x y (.list items ending) (.list items' ending)
  | object {members members' : List (Token String × Tree)} {ending : ObjectEnd}
    (hkeys : members.map Prod.fst = members'.map Prod.fst)
    (heach : ∀ p ∈ members.zip members', Replaced x y p.1.2 p.2.2) :
    Replaced x y (.object members ending) (.object members' ending)

variable {x : Number} {y : Except Fault Number}

/-- the members have the same key, and values that are the same but for numbers -/
def MemberReplaced (x : Number) (y : Except Fault Number) (m m' : Token String × Tree) : Prop :=
  m.1 = m'.1 ∧ m.2.Replaced x y m'.2

theorem forall₂_replaced {items items' : List Tree} (hlength : items.length = items'.length)
    (heach : ∀ p ∈ items.zip items', p.1.Replaced x y p.2) : List.Forall₂ (Tree.Replaced x y) items items' :=
  List.forall₂_iff_zip.2 ⟨hlength, fun h => heach _ h⟩

theorem forall₂_memberReplaced {members members' : List (Token String × Tree)}
    (hkeys : members.map Prod.fst = members'.map Prod.fst) (heach : ∀ p ∈ members.zip members', p.1.2.Replaced x y p.2.2) :
    List.Forall₂ (MemberReplaced x y) members members' := by
  obtain ⟨hlength, hsame⟩ := List.forall₂_iff_zip.1 (forall₂_of_map_eq hkeys)
  exact List.forall₂_iff_zip.2 ⟨hlength, fun h => ⟨hsame h, heach _ h⟩⟩

theorem Tree.Replaced.ofItems {items items' : List Tree} (h : List.Forall₂ (Tree.Replaced x y) items items')
    (ending : ListEnd) : (Tree.list items ending).Replaced x y (.list items' ending) :=
  .list h.length_eq fun _ hp => (List.forall₂_iff_zip.1 h).2 hp

theorem Tree.Replaced.ofMembers {members members' : List (Token String × Tree)}
    (h : List.Forall₂ (MemberReplaced x y) members members') (ending : ObjectEnd) :
    (Tree.object members ending).Replaced x y (.object members' ending) :=
  .object (map_eq_of_forall₂ h fun _ _ hm => hm.1) fun _ hp => ((List.forall₂_iff_zip.1 h).2 hp).2

/-! ## Passing over -/

theorem skipItems_congr {items items' : List Tree} (h : List.Forall₂ (fun t t' => t.skip = t'.skip) items items') :
    skipItems items = skipItems items' := by
  induction h with
  | nil => rfl
  | cons ht _ ih => rw [skipItems, skipItems, ht, ih]

theorem skipMembers_congr {members members' : List (Token String × Tree)}
    (h : List.Forall₂ (fun m m' => m.1 = m'.1 ∧ m.2.skip = m'.2.skip) members members') :
    skipMembers members = skipMembers members' := by
  induction h with
  | nil => rfl
  | @cons m m' _ _ hm _ ih =>
    obtain ⟨key, t⟩ := m
    obtain ⟨key', t'⟩ := m'
    obtain ⟨rfl, ht⟩ := hm
    simp only at ht
    rw [skipMembers, skipMembers, ht, ih]

/-- passing over, a number out of range is like any other -/
theorem Tree.Replaced.skip_eq {t t' : Tree} (h : t.Replaced x y t') : t.skip = t'.skip := by
  induction h with
  | here => rfl
  | same => rfl
  | list hlength _ ih =>
    have hitems := skipItems_congr (List.forall₂_iff_zip.2 ⟨hlength, fun h => ih _ h⟩)
    rw [Tree.skip, Tree.skip, hitems]
  | object hkeys _ ih =>
    obtain ⟨hlength, hsame⟩ := List.forall₂_iff_zip.1 (forall₂_of_map_eq hkeys)
    have hmembers := skipMembers_congr (List.forall₂_iff_zip.2 ⟨hlength, fun h => ⟨hsame h, ih _ h⟩⟩)
    rw [Tree.skip, Tree.skip, hmembers]

/-! ## From lexemes to trees -/

/-- the lexemes are the same but for a number -/
inductive Lexeme.Replaced (x : Number) (y : Except Fault Number) : Lexeme → Lexeme → Prop
  | here : Replaced x y (.plain (numberToken (.ok x))) (.plain (numberToken y))
  | same (l : Lexeme) : Replaced x y l l

/-- the lists or objects that are open are the same but for numbers in their earlier parts -/
inductive Frame.Replaced (x : Number) (y : Except Fault Number) : Frame → Frame → Prop
  | item {before before' : List Tree} (h : List.Forall₂ (Tree.Replaced x y) before before') :
    Replaced x y (.item before) (.item before')
  | member {before before' : List (Token String × Tree)} (h : List.Forall₂ (MemberReplaced x y) before before')
    (key : Token String) : Replaced x y (.member before key) (.member before' key)

/-- the same comes next but for numbers in what has been read -/
inductive Awaits.Replaced (x : Number) (y : Except Fault Number) : Awaits → Awaits → Prop
  | value : Replaced x y .value .value
  | item {before before' : List Tree} (h : List.Forall₂ (Tree.Replaced x y) before before') (comma : Bool) :
    Replaced x y (.item before comma) (.item before' comma)
  | key {before before' : List (Token String × Tree)} (h : List.Forall₂ (MemberReplaced x y) before before')
    (comma : Bool) : Replaced x y (.key before comma) (.key before' comma)
  | colon {before before' : List (Token String × Tree)} (h : List.Forall₂ (MemberReplaced x y) before before')
    (key : Token String) : Replaced x y (.colon before key) (.colon before' key)
  | after {t t' : Tree} (h : t.Replaced x y t') : Replaced x y (.after t) (.after t')

theorem Lexeme.Replaced.begin? {l l' : Lexeme} (h : l.Replaced x y l') :
    Option.Rel (Awaits.Replaced x y) l.begin? l'.begin? := by
  cases h with
  | here => exact .some (.after .here)
  | same =>
    cases l with
    | beginList => exact .some (.item .nil false)
    | beginObject => exact .some (.key .nil false)
    | text t => exact .some (.after (.same _))
    | plain t => exact .some (.after (.same _))
    | _ => exact .none

theorem abandon_replaced {t t' : Tree} {fs fs' : List Frame} (ht : t.Replaced x y t')
    (hfs : List.Forall₂ (Frame.Replaced x y) fs fs') : (abandon t fs).Replaced x y (abandon t' fs') := by
  induction hfs generalizing t t' with
  | nil => exact ht
  | cons hf _ ih =>
    cases hf with
    | item hbefore => exact ih (.ofItems (List.rel_reverse (.cons ht hbefore)) .cut)
    | member hbefore key =>
      have hmember : MemberReplaced x y (key, t) (key, t') := ⟨rfl, ht⟩
      exact ih (.ofMembers (List.rel_reverse (.cons hmember hbefore)) .cut)

/-- the trees and the lexemes after them are the same but for numbers -/
structure ResultReplaced (x : Number) (y : Except Fault Number) (r r' : Tree × List Lexeme) : Prop where
  tree : r.1.Replaced x y r'.1
  rest : List.Forall₂ (Lexeme.Replaced x y) r.2 r'.2

theorem ResultReplaced.abandoned {t t' : Tree} {fs fs' : List Frame} (ht : t.Replaced x y t')
    (hfs : List.Forall₂ (Frame.Replaced x y) fs fs') : ResultReplaced x y (abandon t fs, []) (abandon t' fs', []) :=
  ⟨abandon_replaced ht hfs, .nil⟩

section Step

variable {l l' : Lexeme} {ls ls' : List Lexeme} {fs fs' : List Frame} (hl : l.Replaced x y l')
  (hfs : List.Forall₂ (Frame.Replaced x y) fs fs')
  (ih : ∀ {aw aw' : Awaits} {fs fs' : List Frame}, aw.Replaced x y aw' → List.Forall₂ (Frame.Replaced x y) fs fs' →
    ResultReplaced x y (assemble aw fs ls) (assemble aw' fs' ls'))
include hl hfs ih

theorem assemble_value_replaced :
    ResultReplaced x y (assemble .value fs (l :: ls)) (assemble .value fs' (l' :: ls')) := by
  have hbegin := hl.begin?
  rw [assemble, assemble]
  generalize l.begin? = next at hbegin
  generalize l'.begin? = next' at hbegin
  cases hbegin with
  | none => exact .abandoned (.same _) hfs
  | some hnext => exact ih hnext hfs

theorem assemble_item_replaced {before before' : List Tree} (h : List.Forall₂ (Tree.Replaced x y) before before')
    (comma : Bool) :
    ResultReplaced x y (assemble (.item before comma) fs (l :: ls)) (assemble (.item before' comma) fs' (l' :: ls')) := by
  by_cases hend : l = .endList
  · subst hend
    cases hl
    cases comma with
    | true => exact .abandoned (.ofItems (List.rel_reverse h) .commaClosed) hfs
    | false => exact ih (.after (.ofItems (List.rel_reverse h) .closed)) hfs
  · have hend' : l' ≠ .endList := by
      rintro rfl
      cases hl
      exact hend rfl
    rw [assemble_item_eq_value hend, assemble_item_eq_value hend']
    exact assemble_value_replaced hl (.cons (.item h) hfs) ih

theorem assemble_key_replaced {before before' : List (Token String × Tree)}
    (h : List.Forall₂ (MemberReplaced x y) before before') (comma : Bool) :
    ResultReplaced x y (assemble (.key before comma) fs (l :: ls)) (assemble (.key before' comma) fs' (l' :: ls')) := by
  have hmembers := List.rel_reverse h
  cases hl with
  | here => exact .abandoned (.ofMembers hmembers .noKey) hfs
  | same =>
    cases l with
    | endObject =>
      cases comma with
      | true => exact .abandoned (.ofMembers hmembers .commaClosed) hfs
      | false => exact ih (.after (.ofMembers hmembers .closed)) hfs
    | text key => exact ih (.colon h key) hfs
    | _ => exact .abandoned (.ofMembers hmembers .noKey) hfs

theorem assemble_colon_replaced {before before' : List (Token String × Tree)}
    (h : List.Forall₂ (MemberReplaced x y) before before') (key : Token String) :
    ResultReplaced x y (assemble (.colon before key) fs (l :: ls)) (assemble (.colon before' key) fs' (l' :: ls')) := by
  have hopen : List.Forall₂ (Frame.Replaced x y) (.member before key :: fs) (.member before' key :: fs') :=
    .cons (.member h key) hfs
  cases hl with
  | here => exact .abandoned (.same _) hopen
  | same =>
    cases l with
    | colon => exact ih .value hopen
    | _ => exact .abandoned (.same _) hopen

theorem assemble_after_replaced {t t' : Tree} (ht : t.Replaced x y t') {f f' : Frame} (hf : f.Replaced x y f') :
    ResultReplaced x y (assemble (.after t) (f :: fs) (l :: ls)) (assemble (.after t') (f' :: fs') (l' :: ls')) := by
  cases hf with
  | item hbefore =>
    have hitems := List.rel_reverse (List.Forall₂.cons ht hbefore)
    cases hl with
    | here => exact .abandoned (.ofItems hitems .noComma) hfs
    | same =>
      cases l with
      | comma => exact ih (.item (.cons ht hbefore) true) hfs
      | endList => exact ih (.after (.ofItems hitems .closed)) hfs
      | _ => exact .abandoned (.ofItems hitems .noComma) hfs
  | member hbefore key =>
    have hmember : MemberReplaced x y (key, t) (key, t') := ⟨rfl, ht⟩
    have hmembers := List.rel_reverse (List.Forall₂.cons hmember hbefore)
    cases hl with
    | here => exact .abandoned (.ofMembers hmembers .noComma) hfs
    | same =>
      cases l with
      | comma => exact ih (.key (.cons hmember hbefore) true) hfs
      | endObject => exact ih (.after (.ofMembers hmembers .closed)) hfs
      | _ => exact .abandoned (.ofMembers hmembers .noComma) hfs

end Step

/-- the text ends -/
theorem assemble_nil_replaced {aw aw' : Awaits} {fs fs' : List Frame} (haw : aw.Replaced x y aw')
    (hfs : List.Forall₂ (Frame.Replaced x y) fs fs') : ResultReplaced x y (assemble aw fs []) (assemble aw' fs' []) := by
  cases haw with
  | value => exact .abandoned (.same _) hfs
  | item h comma => exact .abandoned (.ofItems (List.rel_reverse h) _) hfs
  | key h comma => exact .abandoned (.ofMembers (List.rel_reverse h) _) hfs
  | colon h key => exact .abandoned (.same _) (.cons (.member h key) hfs)
  | @after t t' ht =>
    cases hfs with
    | nil => exact ⟨ht, .nil⟩
    | cons hf hfs =>
      cases hf with
      | item hbefore => exact .abandoned (.ofItems (List.rel_reverse (.cons ht hbefore)) .cut) hfs
      | member hbefore key =>
        have hmember : MemberReplaced x y (key, t) (key, t') := ⟨rfl, ht⟩
        exact .abandoned (.ofMembers (List.rel_reverse (.cons hmember hbefore)) .cut) hfs

/-- **Lexemes and trees.** Lexemes that differ in a number make up trees that differ in it. -/
theorem assemble_replaced {ls ls' : List Lexeme} (hls : List.Forall₂ (Lexeme.Replaced x y) ls ls') {aw aw' : Awaits}
    {fs fs' : List Frame} (haw : aw.Replaced x y aw') (hfs : List.Forall₂ (Frame.Replaced x y) fs fs') :
    ResultReplaced x y (assemble aw fs ls) (assemble aw' fs' ls') := by
  induction hls generalizing aw aw' fs fs' with
  | nil => exact assemble_nil_replaced haw hfs
  | cons hl hls ih =>
    cases haw with
    | value => exact assemble_value_replaced hl hfs ih
    | item h comma => exact assemble_item_replaced hl hfs ih h comma
    | key h comma => exact assemble_key_replaced hl hfs ih h comma
    | colon h key => exact assemble_colon_replaced hl hfs ih h key
    | after ht =>
      cases hfs with
      | nil => exact ⟨ht, .cons hl hls⟩
      | cons hf hfs => exact assemble_after_replaced hl hfs ih ht hf

/-! ## Outcomes of reading -/

variable {α β : Type} {αs : List Type} {levels : Nat}

/-- where the first outcome is a value, the second is one that is related to it, or the fault of the number `y` -/
def Carried (y : Except Fault Number) (R : α → α → Prop) (r r' : Except Fault α) : Prop :=
  ∀ a, r = .ok a → (∃ b, r' = .ok b ∧ R a b) ∨ ∃ f, y = .error f ∧ r' = .error f

theorem Carried.ok {R : α → α → Prop} {a b : α} (h : R a b) : Carried y R (.ok a) (.ok b) := by
  intro a' ha
  cases ha
  exact .inl ⟨b, rfl, h⟩

theorem Carried.error {R : α → α → Prop} (f : Fault) (r : Except Fault α) : Carried y R (.error f) r := by
  intro a ha
  cases ha

theorem Carried.same {R : α → α → Prop} (hR : ∀ a, R a a) (r : Except Fault α) : Carried y R r r :=
  fun a ha => .inl ⟨a, ha, hR a⟩

theorem Carried.bind {R : α → α → Prop} {S : β → β → Prop} {r r' : Except Fault α} {f f' : α → Except Fault β}
    (h : Carried y R r r') (hf : ∀ a b, R a b → Carried y S (f a) (f' b)) : Carried y S (r.bind f) (r'.bind f') := by
  cases r with
  | error e => exact .error e _
  | ok a =>
    rcases h a rfl with ⟨b, rfl, hab⟩ | ⟨e, he, rfl⟩
    · exact hf a b hab
    · exact fun _ _ => .inr ⟨e, he, rfl⟩

theorem Carried.map {R : α → α → Prop} {S : β → β → Prop} {r r' : Except Fault α} {f f' : α → β} (h : Carried y R r r')
    (hf : ∀ a b, R a b → S (f a) (f' b)) : Carried y S (r.map f) (r'.map f') := by
  cases r with
  | error e => exact .error e _
  | ok a =>
    rcases h a rfl with ⟨b, rfl, hab⟩ | ⟨e, he, rfl⟩
    · exact .ok (hf a b hab)
    · exact fun _ _ => .inr ⟨e, he, rfl⟩

/-- after the same outcome -/
theorem Carried.bind_same {S : β → β → Prop} {r : Except Fault α} {f f' : α → Except Fault β}
    (hf : ∀ a, Carried y S (f a) (f' a)) : Carried y S (r.bind f) (r.bind f') := by
  cases r with
  | error e => exact .error e _
  | ok a => exact hf a

theorem Carried.map_same {S : β → β → Prop} {r : Except Fault α} {f f' : α → β} (hf : ∀ a, S (f a) (f' a)) :
    Carried y S (r.map f) (r.map f') := by
  cases r with
  | error e => exact .error e _
  | ok a => exact .ok (hf a)

theorem Carried.mono {R S : α → α → Prop} {r r' : Except Fault α} (h : Carried y R r r') (hRS : ∀ a b, R a b → S a b) :
    Carried y S r r' :=
  fun a ha => (h a ha).imp_left fun ⟨b, hb, hab⟩ => ⟨b, hb, hRS a b hab⟩

/-! ## Codecs -/

theorem option_rel_refl {R : α → α → Prop} (hR : ∀ a, R a a) (a : Option α) : Option.Rel R a a := by
  cases a with
  | none => exact .none
  | some a => exact .some (hR a)

/-- the codec reads trees that differ in numbers `x` as values that are related -/
structure Codec.Follows (x : Number) (y : Except Fault Number) (c : Codec α) (R : α → α → Prop) : Prop where
  refl : ∀ a, R a a
  read : ∀ {levels : Nat} {t t' : Tree}, t.Replaced x y t' → Carried y R (c.read levels t) (c.read levels t')

namespace Codec

theorem follows_text : text.Follows x y (· = ·) where
  refl _ := rfl
  read h := by
    cases h with
    | same => exact .same (fun _ => rfl) _
    | _ => exact .error _ _

theorem follows_bool : bool.Follows x y (· = ·) where
  refl _ := rfl
  read h := by
    cases h with
    | same => exact .same (fun _ => rfl) _
    | _ => exact .error _ _

theorem Follows.mono {c : Codec α} {R S : α → α → Prop} (h : c.Follows x y R) (hRS : ∀ a b, R a b → S a b) :
    c.Follows x y S where
  refl a := hRS a a (h.refl a)
  read ht := (h.read ht).mono hRS

theorem Follows.imap {c : Codec α} {R : α → α → Prop} {S : β → β → Prop} {forth : α → β} {back : β → α}
    (h : c.Follows x y R) (hS : ∀ b, S b b) (hRS : ∀ a a', R a a' → S (forth a) (forth a')) :
    (c.imap forth back).Follows x y S where
  refl := hS
  read ht := (h.read ht).map hRS

/-- a number is no absence, even if it is out of range -/
theorem read_optional_number (c : Codec α) (r : Except Fault Number) :
    (optional c).read levels (.plain (numberToken r)) = (c.read levels (.plain (numberToken r))).map some := by
  cases r <;> rfl

theorem follows_optional {c : Codec α} {R : α → α → Prop} (h : c.Follows x y R) :
    (optional c).Follows x y (Option.Rel R) where
  refl := option_rel_refl h.refl
  read ht := by
    cases ht with
    | same => exact .same (option_rel_refl h.refl) _
    | here =>
      rw [read_optional_number, read_optional_number]
      exact (h.read .here).map fun _ _ hab => .some hab
    | list hlength heach => exact (h.read (.list hlength heach)).map fun _ _ hab => .some hab
    | object hkeys heach => exact (h.read (.object hkeys heach)).map fun _ _ hab => .some hab

theorem follows_items {c : Codec α} {R : α → α → Prop} (h : c.Follows x y R) {items items' : List Tree}
    (hitems : List.Forall₂ (Tree.Replaced x y) items items') :
    Carried y (List.Forall₂ R) (readItems (c.read levels) items) (readItems (c.read levels) items') := by
  induction hitems with
  | nil => exact .ok .nil
  | cons ht _ ih => exact (h.read ht).bind fun a b hab => ih.map fun as bs habs => .cons hab habs

theorem follows_list {c : Codec α} {R : α → α → Prop} (h : c.Follows x y R) :
    (list c).Follows x y (List.Forall₂ R) where
  refl as := List.forall₂_same.2 fun a _ => h.refl a
  read {levels t t'} ht := by
    cases ht with
    | same => exact .same (fun as => List.forall₂_same.2 fun a _ => h.refl a) _
    | here => exact .error _ _
    | object => exact .error _ _
    | list hlength heach =>
      cases levels with
      | zero => exact .error _ _
      | succ levels =>
        refine (follows_items h (forall₂_replaced hlength heach)).bind fun as bs habs => ?_
        exact .map_same fun _ => habs

end Codec

/-! ## Records -/

namespace Members

/-- the codecs of all members follow; rows are then related member by member, and so are drafts where something is read -/
inductive Follows (x : Number) (y : Except Fault Number) :
    {αs : List Type} → Members αs → (Row αs → Row αs → Prop) → (Draft αs → Draft αs → Prop) → Prop
  | nil : Follows x y .nil (fun _ _ => True) (fun _ _ => True)
  | cons {α : Type} {αs : List Type} {m : Member α} {ms : Members αs} {R : α → α → Prop} {S : Row αs → Row αs → Prop}
    {D : Draft αs → Draft αs → Prop} (hm : m.codec.Follows x y R) (hms : Follows x y ms S D) :
    Follows x y (.cons m ms) (fun r r' => R r.1 r'.1 ∧ S r.2 r'.2) (fun d d' => Option.Rel R d.1 d'.1 ∧ D d.2 d'.2)

variable {ms : Members αs} {S : Row αs → Row αs → Prop} {D : Draft αs → Draft αs → Prop}

theorem Follows.refl (h : ms.Follows x y S D) (row : Row αs) : S row row := by
  induction h with
  | nil => trivial
  | cons hm _ ih => exact ⟨hm.refl row.1, ih row.2⟩

theorem Follows.blank (h : ms.Follows x y S D) : D ms.blank ms.blank := by
  induction h with
  | nil => trivial
  | cons _ _ ih => exact ⟨.none, ih⟩

/-- a member that is read, is repeated, or is not there -/
theorem Follows.put? (h : ms.Follows x y S D) {t t' : Tree} (ht : t.Replaced x y t') (name : String) {d d' : Draft αs}
    (hd : D d d') : Option.Rel (Carried y D) (ms.put? levels name t d) (ms.put? levels name t' d') := by
  induction h with
  | nil => exact .none
  | @cons _ _ m ms R S D hm _ ih =>
    obtain ⟨slot, d⟩ := d
    obtain ⟨slot', d'⟩ := d'
    obtain ⟨hslot, hd⟩ := hd
    by_cases hname : m.name = name
    · simp only [Members.put?, hname, if_true]
      refine .some ?_
      cases hslot with
      | some => exact .error _ _
      | none => exact (hm.read ht).map fun a b hab => ⟨.some hab, hd⟩
    · simp only [Members.put?, hname, if_false]
      have hput := ih hd
      generalize ms.put? levels name t d = r at hput
      generalize ms.put? levels name t' d' = r' at hput
      cases hput with
      | none => exact .none
      | some hr => exact .some (hr.map fun _ _ hdd => ⟨hslot, hdd⟩)

theorem Follows.fill (h : ms.Follows x y S D) {members members' : List (Token String × Tree)}
    (hmembers : List.Forall₂ (MemberReplaced x y) members members') {d d' : Draft αs} (hd : D d d') :
    Carried y D (ms.fill levels d members) (ms.fill levels d' members') := by
  induction hmembers generalizing d d' with
  | nil => exact .ok hd
  | @cons m m' _ _ hm _ ih =>
    obtain ⟨key, t⟩ := m
    obtain ⟨key', t'⟩ := m'
    obtain ⟨rfl, ht⟩ := hm
    simp only [Members.fill]
    refine .bind_same fun name => ?_
    refine Carried.bind ?_ fun _ _ hdd => ih hdd
    have hput : Option.Rel (Carried y D) (ms.put? levels name t d) (ms.put? levels name t' d') := h.put? ht name hd
    generalize ms.put? levels name t d = r at hput
    generalize ms.put? levels name t' d' = r' at hput
    cases hput with
    | some hr => exact hr
    | none =>
      rw [ht.skip_eq]
      exact .map_same fun _ => hd

theorem Follows.complete (h : ms.Follows x y S D) {d d' : Draft αs} (hd : D d d') :
    Carried y S (ms.complete d) (ms.complete d') := by
  induction h with
  | nil => exact .ok trivial
  | @cons _ _ m ms R S D hm _ ih =>
    obtain ⟨slot, d⟩ := d
    obtain ⟨slot', d'⟩ := d'
    obtain ⟨hslot, hd⟩ := hd
    have hvalue : Option.Rel R (slot.or m.absent) (slot'.or m.absent) := by
      cases hslot with
      | some hab => exact .some hab
      | none => exact option_rel_refl hm.refl m.absent
    simp only [Members.complete]
    generalize slot.or m.absent = a at hvalue
    generalize slot'.or m.absent = a' at hvalue
    cases hvalue with
    | none => exact .error _ _
    | some hab => exact (ih hd).map fun _ _ hrow => ⟨hab, hrow⟩

theorem Follows.readRow (h : ms.Follows x y S D) (title : String) (size : Nat) (ending : ListEnd)
    {items items' : List Tree} (hitems : List.Forall₂ (Tree.Replaced x y) items items') (present : Nat) :
    Carried y S (ms.readRow title size levels present ending items)
      (ms.readRow title size levels present ending items') := by
  induction h generalizing items items' present with
  | nil =>
    cases hitems with
    | nil => exact .same (fun _ => trivial) _
    | cons => exact .error _ _
  | cons hm hms ih =>
    cases hitems with
    | nil => exact .same ((Follows.cons hm hms).refl) _
    | cons ht hitems =>
      simp only [Members.readRow]
      exact (hm.read ht).bind fun a b hab => (ih hitems (present + 1)).map fun _ _ hrow => ⟨hab, hrow⟩

end Members

theorem Codec.follows_record {ms : Members αs} {S : Row αs → Row αs → Prop} {D : Draft αs → Draft αs → Prop}
    (h : ms.Follows x y S D) (title : String) : (ms.codec title).Follows x y S where
  refl := h.refl
  read {levels t t'} ht := by
    cases ht with
    | same => exact .same h.refl _
    | here => exact .error _ _
    | list hlength heach =>
      cases levels with
      | zero => exact .error _ _
      | succ levels => exact h.readRow title ms.count _ (forall₂_replaced hlength heach) 0
    | object hkeys heach =>
      cases levels with
      | zero => exact .error _ _
      | succ levels =>
        refine (h.fill (forall₂_memberReplaced hkeys heach) h.blank).bind fun d d' hd => ?_
        exact .bind_same fun _ => h.complete hd

/-! ## Texts -/

/-- what comes after these characters is cut into lexemes as if it stood alone -/
def Cut (front : List Char) : Prop := ∃ ls, ∀ rest, lexemes (front ++ rest) = ls ++ lexemes rest

theorem Cut.flatten {parts : List (List Char)} (h : ∀ cs ∈ parts, Cut cs) : Cut parts.flatten := by
  induction parts with
  | nil => exact ⟨[], fun _ => rfl⟩
  | cons cs parts ih =>
    obtain ⟨hcs, hparts⟩ := List.forall_mem_cons.1 h
    obtain ⟨ls, hls⟩ := hcs
    obtain ⟨ms, hms⟩ := ih hparts
    refine ⟨ls ++ ms, fun rest => ?_⟩
    rw [List.flatten_cons, List.append_assoc, hls, hms, List.append_assoc]

theorem cut_text (s : String) : Cut (writeText s) := ⟨[.text ⟨.ok s, none⟩], fun rest => lexemes_writeText s rest⟩

theorem cut_mark {c : Char} (hc : c ∈ ['[', ']', '\x7b', '\x7d', ',', ':']) : Cut [c] := by
  have hmark : isSpace c = false ∧ ∃ l, ∀ rest, lexeme c rest = (l, some rest) := by
    simp only [List.mem_cons, List.not_mem_nil, or_false] at hc
    rcases hc with rfl | rfl | rfl | rfl | rfl | rfl <;> exact ⟨rfl, _, fun _ => rfl⟩
  obtain ⟨hspace, l, hl⟩ := hmark
  exact ⟨[l], fun rest => lexemes_cons hspace (hl rest)⟩

theorem lexemes_replaced {front back cs ds : List Char} {v w : Literal} (hfront : Cut front) (hback : Delimited back)
    (hv : v.SpelledBy cs) (hw : w.SpelledBy ds) (hx : v.number? = some x) :
    List.Forall₂ (Lexeme.Replaced x (numberOf w)) (lexemes (front ++ cs ++ back)) (lexemes (front ++ ds ++ back)) := by
  obtain ⟨ls, hls⟩ := hfront
  have hsame : ∀ ls, List.Forall₂ (Lexeme.Replaced x (numberOf w)) ls ls :=
    fun ls => List.forall₂_same.2 fun l _ => .same l
  have hnumber : numberOf v = .ok x := by rw [numberOf, hx]
  rw [List.append_assoc, List.append_assoc, hls, hls, lexemes_spelled hv hback, lexemes_spelled hw hback, hnumber]
  exact List.rel_append (hsame ls) (.cons .here (hsame _))

theorem isEmpty_eq_of_forall₂ {R : α → β → Prop} {as : List α} {bs : List β} (h : List.Forall₂ R as bs) :
    as.isEmpty = bs.isEmpty := by
  cases h with
  | nil => rfl
  | cons => rfl

/-- **Texts.** Texts whose lexemes differ in a number are read as values that differ accordingly, or the fault of the
number is met. -/
theorem Codec.Follows.ofText {c : Codec α} {R : α → α → Prop} (h : c.Follows x y R) {text text' : String}
    (hls : List.Forall₂ (Lexeme.Replaced x y) (lexemes text.toList) (lexemes text'.toList)) :
    Carried y R (c.ofText text) (c.ofText text') := by
  obtain ⟨htree, hrest⟩ := assemble_replaced hls .value .nil
  have htrailing : (parse text).trailing = (parse text').trailing := congrArg Bool.not (isEmpty_eq_of_forall₂ hrest)
  rw [Codec.ofText, Codec.ofText, ofParsed, ofParsed, htrailing]
  refine (h.read htree).bind fun a b hab => ?_
  split
  · exact .error _ _
  · exact .ok hab

end EntitySchema.Json
