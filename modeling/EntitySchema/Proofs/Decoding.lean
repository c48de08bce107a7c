/-
The text of a document is read as the document.

Every kind of declaration is a record of texts, options and lists, so each is read back because its members are; a
document opens seven lists and objects inside one another, well within the limit of depth. Arguments are told apart by
how they are written: a whole number stays within its range, and a text stays a text whatever is in it. Binary numbers
are left out, as their shortest decimals are not looked into here.

- `Document.ofText_render`: the text of a document without binary numbers is read as this document and compiles as it
  does, for every technology.
-/
import EntitySchema.Compilation
import EntitySchema.Proofs.Json.ReadBack

namespace EntitySchema

open EntitySchema.Json EntitySchema.Decimal
open EntitySchema.Json.Codec (readsBack_text readsBack_bool readsBack_optional readsBack_optional_text readsBack_list
  readsBack_record)

variable {levels : Nat}

/-! ## Arguments -/

theorem Argument.readsBack {a : Argument} (h : ∀ x, a ≠ .number (.real x)) : Argument.codec.ReadsBack levels a where
  withoutReals := by
    cases a with
    | number n => exact .scalar fun x hx => h x (by simpa using hx)
    | boolean b => exact .scalar fun x => by simp
    | text s => exact .scalar fun x => by simp
  read := by cases a <;> rfl

theorem Argument.write_ne_null (a : Argument) : Argument.codec.write a ≠ .null := by
  cases a <;> simp [Argument.codec]

/-! ## Declarations -/

/-- the argument of the clause is no binary number -/
def Clause.WithoutReals (c : Clause) : Prop := ∀ x, c.argument ≠ some (.number (.real x))

def FieldDecl.WithoutReals (f : FieldDecl) : Prop := ∀ c ∈ f.clauses, c.WithoutReals

/-- no clause in the document has a binary number for its argument -/
def Document.WithoutReals (d : Document) : Prop := ∀ e ∈ d.entities, ∀ f ∈ e.fields, f.WithoutReals

theorem Clause.readsBack {c : Clause} (h : c.WithoutReals) : Clause.codec.ReadsBack (levels + 1) c := by
  have argument : (Codec.optional Argument.codec).ReadsBack levels c.argument :=
    readsBack_optional (fun a ha => Argument.readsBack fun x hx => h x (by simp_all)) fun a _ => a.write_ne_null
  exact .imap (readsBack_record (.cons (readsBack_text _) (.cons argument .nil)) (by decide) _) rfl

theorem FieldDecl.readsBack {f : FieldDecl} (h : f.WithoutReals) : FieldDecl.codec.ReadsBack (levels + 3) f := by
  have clauses : (Codec.list Clause.codec).ReadsBack (levels + 2) f.clauses :=
    readsBack_list fun c hc => Clause.readsBack (h c hc)
  exact .imap (readsBack_record (.cons (readsBack_text _) (.cons (readsBack_text _) (.cons clauses
    (.cons (readsBack_optional_text _) .nil)))) (by decide) _) rfl

theorem EntityDecl.readsBack {e : EntityDecl} (h : ∀ f ∈ e.fields, f.WithoutReals) :
    EntityDecl.codec.ReadsBack (levels + 5) e := by
  have fields : (Codec.list FieldDecl.codec).ReadsBack (levels + 4) e.fields :=
    readsBack_list fun f hf => FieldDecl.readsBack (h f hf)
  exact .imap (readsBack_record (.cons (readsBack_text _) (.cons (readsBack_optional_text _) (.cons fields
    (.cons (readsBack_optional_text _) .nil)))) (by decide) _) rfl

theorem readsBack_texts (ss : List String) : (Codec.list .text).ReadsBack (levels + 1) ss :=
  readsBack_list fun s _ => readsBack_text s

theorem EnumDecl.readsBack (e : EnumDecl) : EnumDecl.codec.ReadsBack (levels + 2) e :=
  .imap (readsBack_record (.cons (readsBack_text _) (.cons (readsBack_texts _) .nil)) (by decide) _) rfl

theorem EndDecl.readsBack (e : EndDecl) : EndDecl.codec.ReadsBack (levels + 1) e :=
  .imap (readsBack_record (.cons (readsBack_text _) (.cons (readsBack_optional_text _) (.cons (readsBack_optional_text _)
    (.cons (readsBack_bool _) .nil)))) (by decide) _) rfl

theorem RelationshipDecl.readsBack (r : RelationshipDecl) : RelationshipDecl.codec.ReadsBack (levels + 2) r :=
  .imap (readsBack_record (.cons (readsBack_text _) (.cons r.source.readsBack (.cons r.target.readsBack .nil)))
    (by decide) _) rfl

theorem DirectiveDecl.readsBack (d : DirectiveDecl) : DirectiveDecl.codec.ReadsBack (levels + 2) d :=
  .imap (readsBack_record (.cons (readsBack_text _) (.cons (readsBack_optional_text _) (.cons (readsBack_texts _)
    (.cons (readsBack_texts _) .nil)))) (by decide) _) rfl

/-! ## Documents -/

theorem Document.readsBack {d : Document} (h : d.WithoutReals) : Document.codec.ReadsBack (levels + 7) d := by
  have entities : (Codec.list EntityDecl.codec).ReadsBack (levels + 6) d.entities :=
    readsBack_list fun e he => EntityDecl.readsBack (h e he)
  have enumerations : (Codec.list EnumDecl.codec).ReadsBack (levels + 6) d.enumerations :=
    readsBack_list fun e _ => e.readsBack
  have relationships : (Codec.list RelationshipDecl.codec).ReadsBack (levels + 6) d.relationships :=
    readsBack_list fun r _ => r.readsBack
  have directives : (Codec.list DirectiveDecl.codec).ReadsBack (levels + 6) d.directives :=
    readsBack_list fun e _ => e.readsBack
  exact .imap (readsBack_record (.cons entities (.cons enumerations (.cons relationships (.cons directives .nil))))
    (by decide) _) rfl

/-- the text of a document is read as this document, and compiles as it does -/
theorem Document.ofText_render {d : Document} (h : d.WithoutReals) :
    Document.ofText d.render = .ok (some d) ∧ ∀ storage, compileText d.render storage = compile (some d) storage := by
  -- seven of the levels that the limit allows are taken
  have within : Document.codec.ReadsBack (120 + 7) d := Document.readsBack h
  have optional : (Codec.optional Document.codec).ReadsBack depthLimit (some d) :=
    readsBack_optional (fun x hx => Option.some.inj hx ▸ within)
      fun x _ => by simp [Document.codec, Codec.imap, Members.codec]
  have read : Document.ofText d.render = .ok (some d) := optional.ofText
  exact ⟨read, fun storage => by simp only [compileText, read]⟩

/-- quotes, backslashes, control characters, foreign letters and empty texts as names, and arguments at the ends of
their ranges or spelled like other values -/
def awkward : Document where
  entities := [
    { name := "\"", table := some "\\", comment := some "two\nlines", fields := [
      { name := "\x00\x1f", type := "\x7f", comment := some "", clauses := [
        ⟨"", none⟩,
        ⟨"\\u0041", some (.number (.integer Int64.minValue))⟩,
        ⟨"\t", some (.number (.integer Int64.maxValue))⟩,
        ⟨"é", some (.number (.large (1 <<< 63) (by decide)))⟩,
        ⟨"𝄞", some (.boolean false)⟩,
        ⟨"\u2028", some (.text "null")⟩] }] },
    {}]
  enumerations := [⟨"\x08\x0c", ["", "0", "\r"]⟩]
  relationships := [⟨"", ⟨"\"", some "", none, true⟩, ⟨"", none, some "\\", false⟩⟩]
  directives := [⟨"*", some "", ["", "*"], ["\\\""]⟩]

theorem awkward_read_back :
    awkward.WithoutReals ∧ Document.ofText awkward.render = .ok (some awkward) ∧
      ∀ storage, compileText awkward.render storage = compile (some awkward) storage := by
  have h : awkward.WithoutReals := by
    simp [awkward, Document.WithoutReals, FieldDecl.WithoutReals, Clause.WithoutReals]
  exact ⟨h, Document.ofText_render h⟩

end EntitySchema
