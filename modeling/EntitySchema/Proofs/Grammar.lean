/-
Texts of documents are texts of the grammar. Every kind of declaration is a record of texts, options and lists, all of
which are read to the end, and an argument is read to the end before it is looked at. So nothing in a text that holds a
document is left unread, and no other texts hold one.

- `Document.thorough`: a document is only read from a tree in which nothing is broken.
- `Document.ofText_eq_some_iff`: a text holds a document just when it is a text of the grammar from whose tree the
  document is read.
-/
import EntitySchema.Document.Codec
import EntitySchema.Proofs.Json.Grammar

namespace EntitySchema

open EntitySchema.Json EntitySchema.Outcome
open EntitySchema.Json.Codec (Thorough thorough_text thorough_bool thorough_record)

/-! ## Declarations -/

theorem Argument.thorough : Argument.codec.Thorough := by
  intro levels t a h
  obtain ⟨u, hcheck, -⟩ := bind_eq_ok.1 h
  exact Tree.intact_of_check hcheck

theorem thorough_texts : (Codec.list .text).Thorough := thorough_text.list

theorem thorough_optional_text : (Codec.optional .text).Thorough := thorough_text.optional

theorem Clause.thorough : Clause.codec.Thorough :=
  (thorough_record (.cons thorough_text (.cons Argument.thorough.optional .nil)) _).imap _ _

theorem FieldDecl.thorough : FieldDecl.codec.Thorough :=
  (thorough_record (.cons thorough_text (.cons thorough_text (.cons Clause.thorough.list
    (.cons thorough_optional_text .nil)))) _).imap _ _

theorem EntityDecl.thorough : EntityDecl.codec.Thorough :=
  (thorough_record (.cons thorough_text (.cons thorough_optional_text (.cons FieldDecl.thorough.list
    (.cons thorough_optional_text .nil)))) _).imap _ _

theorem EnumDecl.thorough : EnumDecl.codec.Thorough :=
  (thorough_record (.cons thorough_text (.cons thorough_texts .nil)) _).imap _ _

theorem EndDecl.thorough : EndDecl.codec.Thorough :=
  (thorough_record (.cons thorough_text (.cons thorough_optional_text (.cons thorough_optional_text
    (.cons thorough_bool .nil)))) _).imap _ _

theorem RelationshipDecl.thorough : RelationshipDecl.codec.Thorough :=
  (thorough_record (.cons thorough_text (.cons EndDecl.thorough (.cons EndDecl.thorough .nil))) _).imap _ _

theorem DirectiveDecl.thorough : DirectiveDecl.codec.Thorough :=
  (thorough_record (.cons thorough_text (.cons thorough_optional_text (.cons thorough_texts
    (.cons thorough_texts .nil)))) _).imap _ _

namespace Document

/-- a document is only read from a tree in which nothing is broken -/
theorem thorough : Document.codec.Thorough :=
  (thorough_record (.cons EntityDecl.thorough.list (.cons EnumDecl.thorough.list (.cons RelationshipDecl.thorough.list
    (.cons DirectiveDecl.thorough.list .nil)))) _).imap _ _

/-! ## Texts of documents -/

/-- a document is no word or number -/
theorem read_plain (levels : Nat) (t : Token Scalar) (d : Document) :
    Document.codec.read levels (.plain t) ≠ .ok d := by
  intro h
  obtain ⟨row, hrow, -⟩ := map_eq_ok.1 h
  exact Codec.mismatch_ne_ok (.plain t) "struct RawDocument" row hrow

theorem read_optional_iff {levels : Nat} {t : Tree} {d : Document} :
    (Codec.optional Document.codec).read levels t = .ok (some d) ↔ Document.codec.read levels t = .ok d := by
  simp only [Codec.optional]
  split
  · simp [read_plain]
  · simp [map_eq_ok]

/-- a text of the grammar holds a document if the document is read from its tree -/
theorem ofText_iff {v : Source} {text : String} (h : v.WrittenAs text) {d : Document} :
    Document.ofText text = .ok (some d) ↔ Document.codec.read depthLimit v.tree = .ok d := by
  rw [Document.ofText, Codec.ofText, Codec.ofParsed, h.parse_eq, ← read_optional_iff]
  simp [bind_eq_ok]

/-- **Texts that hold a document.** They are the texts of the grammar from whose trees the document is read. -/
theorem ofText_eq_some_iff {text : String} {d : Document} :
    Document.ofText text = .ok (some d) ↔
      ∃ v : Source, v.WrittenAs text ∧ Document.codec.read depthLimit v.tree = .ok d := by
  constructor
  · intro h
    obtain ⟨v, hv, hread⟩ := thorough.optional.exists_source h
    exact ⟨v, hv, read_optional_iff.1 hread⟩
  · rintro ⟨v, hv, hread⟩
    exact (ofText_iff hv).2 hread

end Document

end EntitySchema
