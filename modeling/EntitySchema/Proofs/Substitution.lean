/-
Numbers in the text of a document. Where one literal stands as the argument of a clause, any other literal may be put in
its place: the text is then read as the same document with the other number there, or as none if that is out of range.

Where the literal stands is told by what two literals do there: with `0` and with `1` in the slot, the text is read as the
documents with these arguments at the same site. No other argument can then hang on the slot.

- `Document.Replaced`: documents that are the same but for numbers among the arguments.
- `Document.follows`: how a document is read from a text with another number.
- `Document.Replaced.eq_documentWith`: two numbers settle the site.
- `Slot`, `Slot.ofText`: the document of a text with any literal in the slot.
-/
import EntitySchema.Document.Codec
import EntitySchema.Proofs.Json.Replacement

namespace EntitySchema

open EntitySchema.Decimal EntitySchema.Json

variable {x : Number} {y : Except Fault Number}

/-! ## Documents that differ in numbers -/

/-- the arguments are the same, or `x` and `y` -/
inductive Argument.Replaced (x : Number) (y : Except Fault Number) : Argument → Argument → Prop
  | here {n : Number} (hy : y = .ok n) : Replaced x y (.number x) (.number n)
  | same (a : Argument) : Replaced x y a a

/-- the clauses are the same but for numbers as arguments -/
structure Clause.Replaced (x : Number) (y : Except Fault Number) (c c' : Clause) : Prop where
  key : c.key = c'.key
  argument : Option.Rel (Argument.Replaced x y) c.argument c'.argument

structure FieldDecl.Replaced (x : Number) (y : Except Fault Number) (f f' : FieldDecl) : Prop where
  name : f.name = f'.name
  type : f.type = f'.type
  clauses : List.Forall₂ (Clause.Replaced x y) f.clauses f'.clauses
  comment : f.comment = f'.comment

structure EntityDecl.Replaced (x : Number) (y : Except Fault Number) (e e' : EntityDecl) : Prop where
  name : e.name = e'.name
  table : e.table = e'.table
  fields : List.Forall₂ (FieldDecl.Replaced x y) e.fields e'.fields
  comment : e.comment = e'.comment

/-- the documents are the same but for numbers as arguments -/
structure Document.Replaced (x : Number) (y : Except Fault Number) (d d' : Document) : Prop where
  entities : List.Forall₂ (EntityDecl.Replaced x y) d.entities d'.entities
  enumerations : d.enumerations = d'.enumerations
  relationships : d.relationships = d'.relationships
  directives : d.directives = d'.directives

theorem Clause.Replaced.refl (c : Clause) : c.Replaced x y c := ⟨rfl, option_rel_refl .same c.argument⟩

theorem FieldDecl.Replaced.refl (f : FieldDecl) : f.Replaced x y f :=
  ⟨rfl, rfl, List.forall₂_same.2 fun c _ => .refl c, rfl⟩

theorem EntityDecl.Replaced.refl (e : EntityDecl) : e.Replaced x y e :=
  ⟨rfl, rfl, List.forall₂_same.2 fun f _ => .refl f, rfl⟩

theorem Document.Replaced.refl (d : Document) : d.Replaced x y d :=
  ⟨List.forall₂_same.2 fun e _ => .refl e, rfl, rfl, rfl⟩

/-! ## Reading -/

theorem follows_optional_text : (Codec.optional .text).Follows x y (· = ·) :=
  (Codec.follows_optional Codec.follows_text).mono fun a b hab => by
    cases hab with
    | none => rfl
    | some h => rw [h]

theorem follows_list_eq {α : Type} {c : Codec α} (h : c.Follows x y (· = ·)) : (Codec.list c).Follows x y (· = ·) :=
  (Codec.follows_list h).mono fun as bs habs => by rwa [List.forall₂_eq_eq_eq] at habs

theorem Argument.follows : Argument.codec.Follows x y (Argument.Replaced x y) where
  refl := .same
  read {levels t t'} ht := by
    cases ht with
    | same => exact .same .same _
    | here =>
      cases y with
      | ok n => exact .ok (.here rfl)
      | error f => exact fun _ _ => .inr ⟨f, rfl, rfl⟩
    | list =>
      intro a ha
      obtain ⟨_, _, hnone⟩ := Outcome.bind_eq_ok.1 ha
      cases hnone
    | object =>
      intro a ha
      obtain ⟨_, _, hnone⟩ := Outcome.bind_eq_ok.1 ha
      cases hnone

theorem Clause.follows : Clause.codec.Follows x y (Clause.Replaced x y) := by
  have hmembers : Clause.members.Follows x y _ _ :=
    .cons Codec.follows_text (.cons (Codec.follows_optional Argument.follows) .nil)
  refine (Codec.follows_record hmembers _).imap .refl fun a b hab => ?_
  obtain ⟨hkey, hargument, _⟩ := hab
  exact ⟨hkey, hargument⟩

theorem FieldDecl.follows : FieldDecl.codec.Follows x y (FieldDecl.Replaced x y) := by
  have hmembers : FieldDecl.members.Follows x y _ _ :=
    .cons Codec.follows_text (.cons Codec.follows_text (.cons (Codec.follows_list Clause.follows)
      (.cons follows_optional_text .nil)))
  refine (Codec.follows_record hmembers _).imap .refl fun a b hab => ?_
  obtain ⟨hname, htype, hclauses, hcomment, _⟩ := hab
  exact ⟨hname, htype, hclauses, hcomment⟩

theorem EntityDecl.follows : EntityDecl.codec.Follows x y (EntityDecl.Replaced x y) := by
  have hmembers : EntityDecl.members.Follows x y _ _ :=
    .cons Codec.follows_text (.cons follows_optional_text (.cons (Codec.follows_list FieldDecl.follows)
      (.cons follows_optional_text .nil)))
  refine (Codec.follows_record hmembers _).imap .refl fun a b hab => ?_
  obtain ⟨hname, htable, hfields, hcomment, _⟩ := hab
  exact ⟨hname, htable, hfields, hcomment⟩

theorem EnumDecl.follows : EnumDecl.codec.Follows x y (· = ·) := by
  have hmembers : EnumDecl.members.Follows x y _ _ :=
    .cons Codec.follows_text (.cons (follows_list_eq Codec.follows_text) .nil)
  refine (Codec.follows_record hmembers _).imap (fun _ => rfl) fun a b hab => ?_
  obtain ⟨name, values, _⟩ := a
  obtain ⟨rfl, rfl, _⟩ := hab
  rfl

theorem EndDecl.follows : EndDecl.codec.Follows x y (· = ·) := by
  have hmembers : EndDecl.members.Follows x y _ _ :=
    .cons Codec.follows_text (.cons follows_optional_text (.cons follows_optional_text (.cons Codec.follows_bool .nil)))
  refine (Codec.follows_record hmembers _).imap (fun _ => rfl) fun a b hab => ?_
  obtain ⟨entity, injected, comment, required, _⟩ := a
  obtain ⟨rfl, rfl, rfl, rfl, _⟩ := hab
  rfl

theorem RelationshipDecl.follows : RelationshipDecl.codec.Follows x y (· = ·) := by
  have hmembers : RelationshipDecl.members.Follows x y _ _ :=
    .cons Codec.follows_text (.cons EndDecl.follows (.cons EndDecl.follows .nil))
  refine (Codec.follows_record hmembers _).imap (fun _ => rfl) fun a b hab => ?_
  obtain ⟨cardinality, source, target, _⟩ := a
  obtain ⟨rfl, rfl, rfl, _⟩ := hab
  rfl

theorem DirectiveDecl.follows : DirectiveDecl.codec.Follows x y (· = ·) := by
  have hmembers : DirectiveDecl.members.Follows x y _ _ :=
    .cons Codec.follows_text (.cons follows_optional_text (.cons (follows_list_eq Codec.follows_text)
      (.cons (follows_list_eq Codec.follows_text) .nil)))
  refine (Codec.follows_record hmembers _).imap (fun _ => rfl) fun a b hab => ?_
  obtain ⟨name, value, targets, excluded, _⟩ := a
  obtain ⟨rfl, rfl, rfl, rfl, _⟩ := hab
  rfl

/-- **Documents.** Where a text is read as a document, the text with another number is read as the document with other
arguments, or the fault of the number is met. -/
theorem Document.follows : Document.codec.Follows x y (Document.Replaced x y) := by
  have hmembers : Document.members.Follows x y _ _ :=
    .cons (Codec.follows_list EntityDecl.follows) (.cons (follows_list_eq EnumDecl.follows)
      (.cons (follows_list_eq RelationshipDecl.follows) (.cons (follows_list_eq DirectiveDecl.follows) .nil)))
  refine (Codec.follows_record hmembers _).imap .refl fun a b hab => ?_
  obtain ⟨hentities, henumerations, hrelationships, hdirectives, _⟩ := hab
  exact ⟨hentities, henumerations, hrelationships, hdirectives⟩

/-! ## Two numbers settle the site -/

section Lists

variable {α : Type} {R S : α → α → Prop} {as bs before after : List α} {a a' : α}

theorem eq_of_forall₂_both (hRS : ∀ a b, R a b → S a b → b = a) (hR : List.Forall₂ R as bs) (hS : List.Forall₂ S as bs) :
    bs = as := by
  induction hR with
  | nil => rfl
  | cons hab _ ih =>
    cases hS with
    | cons hab' hS => rw [hRS _ _ hab hab', ih hS]

/-- where two lists that differ in one item are related to the same list, it differs from them in that item only -/
theorem exists_item_of_both (hRS : ∀ a b, R a b → S a b → b = a) (hR : List.Forall₂ R (before ++ a :: after) bs)
    (hS : List.Forall₂ S (before ++ a' :: after) bs) : ∃ b, bs = before ++ b :: after ∧ R a b ∧ S a' b := by
  induction before generalizing bs with
  | nil =>
    cases hR with
    | @cons _ b _ bs hab hR =>
      cases hS with
      | cons hab' hS => exact ⟨b, by rw [eq_of_forall₂_both hRS hR hS]; rfl, hab, hab'⟩
  | cons c before ih =>
    cases hR with
    | cons hc hR =>
      cases hS with
      | cons hc' hS =>
        obtain ⟨b, rfl, hab, hab'⟩ := ih hR hS
        exact ⟨b, by rw [hRS _ _ hc hc']; rfl, hab, hab'⟩

end Lists

section Both

variable {x' : Number} (hne : x ≠ x')
include hne

theorem Argument.Replaced.eq_of_both {a b : Argument} (h : a.Replaced x y b) (h' : a.Replaced x' y b) : b = a := by
  cases h with
  | same => rfl
  | here =>
    cases h' with
    | here => exact absurd rfl hne
    | same => rfl

/-- an argument that comes of two numbers is the number of the other text -/
theorem Argument.Replaced.eq_number {b : Argument} (h : (Argument.number x).Replaced x y b)
    (h' : (Argument.number x').Replaced x' y b) : ∃ n, y = .ok n ∧ b = .number n := by
  cases h with
  | here hy => exact ⟨_, hy, rfl⟩
  | same =>
    cases h' with
    | here hy => exact ⟨_, hy, rfl⟩
    | same => exact absurd rfl hne

theorem Clause.Replaced.eq_of_both {c c' : Clause} (h : c.Replaced x y c') (h' : c.Replaced x' y c') : c' = c := by
  obtain ⟨key, argument⟩ := c
  obtain ⟨key', argument'⟩ := c'
  obtain ⟨rfl, hargument⟩ := h
  obtain ⟨_, hargument'⟩ := h'
  cases hargument with
  | none => rfl
  | some ha =>
    cases hargument' with
    | some ha' => rw [ha.eq_of_both hne ha']

theorem FieldDecl.Replaced.eq_of_both {f f' : FieldDecl} (h : f.Replaced x y f') (h' : f.Replaced x' y f') : f' = f := by
  have hclauses := eq_of_forall₂_both (fun _ _ hc hc' => hc.eq_of_both hne hc') h.clauses h'.clauses
  obtain ⟨name, type, clauses, comment⟩ := f
  obtain ⟨rfl, rfl, _, rfl⟩ := h
  subst hclauses
  rfl

theorem EntityDecl.Replaced.eq_of_both {e e' : EntityDecl} (h : e.Replaced x y e') (h' : e.Replaced x' y e') :
    e' = e := by
  have hfields := eq_of_forall₂_both (fun _ _ hf hf' => hf.eq_of_both hne hf') h.fields h'.fields
  obtain ⟨name, table, fields, comment⟩ := e
  obtain ⟨rfl, rfl, _, rfl⟩ := h
  subst hfields
  rfl

end Both

/-- a place for the argument of a clause: the document around it, from the inside to the outside. What `field` says of
clauses, `entity` of fields and `others` of entities does not count. -/
structure Site where
  clausesBefore : List Clause := []
  key : String
  clausesAfter : List Clause := []
  fieldsBefore : List FieldDecl := []
  field : FieldDecl
  fieldsAfter : List FieldDecl := []
  entitiesBefore : List EntityDecl := []
  entity : EntityDecl
  entitiesAfter : List EntityDecl := []
  others : Document := {}

namespace Site

def clauseWith (s : Site) (a : Argument) : Clause := ⟨s.key, some a⟩

def fieldWith (s : Site) (a : Argument) : FieldDecl :=
  { s.field with clauses := s.clausesBefore ++ s.clauseWith a :: s.clausesAfter }

def entityWith (s : Site) (a : Argument) : EntityDecl :=
  { s.entity with fields := s.fieldsBefore ++ s.fieldWith a :: s.fieldsAfter }

/-- the document with this argument at the site -/
def documentWith (s : Site) (a : Argument) : Document :=
  { s.others with entities := s.entitiesBefore ++ s.entityWith a :: s.entitiesAfter }

end Site

/-- **Two numbers settle the site.** A document that comes both of the one with `x` and of the one with `x'` at a site is
the one with the number of the other text at this site. -/
theorem Document.Replaced.eq_documentWith {x' : Number} (hne : x ≠ x') {site : Site} {d : Document}
    (h : (site.documentWith (.number x)).Replaced x y d) (h' : (site.documentWith (.number x')).Replaced x' y d) :
    ∃ n, y = .ok n ∧ d = site.documentWith (.number n) := by
  obtain ⟨entities, enumerations, relationships, directives⟩ := d
  obtain ⟨hentities, rfl, rfl, rfl⟩ := h
  obtain ⟨hentities', _, _, _⟩ := h'
  obtain ⟨entity, rfl, he, he'⟩ := exists_item_of_both (fun _ _ he he' => he.eq_of_both hne he') hentities hentities'
  obtain ⟨_, table, fields, comment⟩ := entity
  obtain ⟨rfl, rfl, hfields, rfl⟩ := he
  obtain ⟨field, rfl, hf, hf'⟩ := exists_item_of_both (fun _ _ hf hf' => hf.eq_of_both hne hf') hfields he'.fields
  obtain ⟨_, _, clauses, _⟩ := field
  obtain ⟨rfl, rfl, hclauses, rfl⟩ := hf
  obtain ⟨clause, rfl, hc, hc'⟩ := exists_item_of_both (fun _ _ hc hc' => hc.eq_of_both hne hc') hclauses hf'.clauses
  obtain ⟨_, argument⟩ := clause
  obtain ⟨rfl, hargument⟩ := hc
  obtain ⟨_, hargument'⟩ := hc'
  cases hargument with
  | some ha =>
    cases hargument' with
    | some ha' =>
      obtain ⟨n, hy, rfl⟩ := ha.eq_number hne ha'
      exact ⟨n, hy, rfl⟩

/-! ## The slot in a text -/

/-- the argument at the site stands between two parts of a text -/
structure Slot (front back : String) (site : Site) : Prop where
  /-- what follows the front is cut into lexemes as if it stood alone -/
  cut : Cut front.toList
  /-- no number goes on with the back -/
  delimited : Delimited back.toList
  zero : Document.ofText (front ++ "0" ++ back) = .ok (some (site.documentWith (.number (.integer 0))))
  one : Document.ofText (front ++ "1" ++ back) = .ok (some (site.documentWith (.number (.integer 1))))

def digitLiteral (d : Char) : Literal := ⟨false, [d], none, none⟩

theorem digitLiteral_spelled {d : Char} (hd : d.isDigit) : (digitLiteral d).SpelledBy [d] := by
  have hwhole : WholeDigits [d] := ⟨⟨by simp, by simpa using hd⟩, by simp⟩
  exact .positive rfl (.of_whole hwhole rfl rfl)

theorem Slot.carried {front back : String} {site : Site} (h : Slot front back site) {d : Char} (hd : d.isDigit) {n : Number}
    (hn : (digitLiteral d).number? = some n) {w : Literal} {text : String} (hw : w.SpelledBy text.toList) :
    Carried (numberOf w) (Option.Rel (Document.Replaced n (numberOf w)))
      (Document.ofText (front ++ String.singleton d ++ back)) (Document.ofText (front ++ text ++ back)) := by
  refine (Codec.follows_optional Document.follows).ofText ?_
  simp only [String.toList_append, String.toList_singleton]
  exact lexemes_replaced h.cut h.delimited (digitLiteral_spelled hd) hw hn

/-- **Any literal in the slot.** The text with a literal in the slot is read as the document with its number at the site; if
it is out of range, this is what is wrong with the text. -/
theorem Slot.ofText {front back : String} {site : Site} (h : Slot front back site) {w : Literal} {text : String}
    (hw : w.SpelledBy text.toList) :
    Document.ofText (front ++ text ++ back) = (numberOf w).map fun n => some (site.documentWith (.number n)) := by
  have hzero := h.carried (d := '0') (by decide) rfl hw _ h.zero
  have hone := h.carried (d := '1') (by decide) rfl hw _ h.one
  rcases hzero with ⟨found, hfound, hd⟩ | ⟨f, hf, hfault⟩
  · rcases hone with ⟨found', hfound', hd'⟩ | ⟨f, _, hfault⟩
    · obtain rfl : found = found' := Except.ok.inj (hfound.symm.trans hfound')
      cases hd with
      | some hd =>
        cases hd' with
        | some hd' =>
          obtain ⟨n, hn, rfl⟩ := hd.eq_documentWith (by decide) hd'
          rw [hfound, hn]
          rfl
    · rw [hfound] at hfault
      cases hfault
  · rw [hfault, hf]
    rfl

end EntitySchema
