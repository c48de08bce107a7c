/-
What may be changed in the text of a document without changing what is read. In the records of the text members may
change places; members may be put in that are not keys of the record, whatever they say; and a member that may be left
off is as good as absent when it says what stands in for it. This goes for the document and for every record inside it.

- `RecordKind.keys`: the keys of each kind of record, what stands under each, and which may be left off.
- `RecordKind.Edit`: one such change, in a record or anywhere inside it.
- `RecordKind.described`: the codec of each kind of record has these keys.
- `RecordKind.Edit.keeps`: whatever is read before a change is read after it.
- `Document.ofText_edited`: so a text after any number of changes is read as the same document, and compiles alike.
-/
import EntitySchema.Compilation
import EntitySchema.Proofs.Grammar
import Mathlib.Logic.Relation

namespace EntitySchema

open EntitySchema.Json

/-! ## Records and their keys -/

/-- the kinds of records in the text of a document -/
inductive RecordKind where
  | document
  | entity
  | field
  | clause
  | enumeration
  | relationship
  | relationshipEnd
  | directive

/-- what stands under a key: a record, a list of records, or anything else -/
inductive Content where
  | plain
  | record (k : RecordKind)
  | records (k : RecordKind)

/-- a key of a record; if it may be left off, `spare?` says what is then as good as written -/
structure Key where
  name : String
  content : Content
  spare? : Option Source

namespace RecordKind

def keys : RecordKind → List Key
  | document =>
    [⟨"entities", .records entity, some (.list [])⟩, ⟨"enums", .records enumeration, some (.list [])⟩,
      ⟨"relationships", .records relationship, some (.list [])⟩, ⟨"options", .records directive, some (.list [])⟩]
  | entity =>
    [⟨"name", .plain, some (.text [])⟩, ⟨"tableName", .plain, some .null⟩, ⟨"body", .records field, some (.list [])⟩,
      ⟨"javadoc", .plain, some .null⟩]
  | field =>
    [⟨"name", .plain, none⟩, ⟨"type", .plain, none⟩, ⟨"validations", .records clause, some (.list [])⟩,
      ⟨"javadoc", .plain, some .null⟩]
  | clause => [⟨"key", .plain, none⟩, ⟨"value", .plain, some .null⟩]
  | enumeration => [⟨"name", .plain, some (.text [])⟩, ⟨"values", .plain, some (.list [])⟩]
  | relationship =>
    [⟨"cardinality", .plain, none⟩, ⟨"from", .record relationshipEnd, none⟩, ⟨"to", .record relationshipEnd, none⟩]
  | relationshipEnd =>
    [⟨"name", .plain, none⟩, ⟨"injectedField", .plain, some .null⟩, ⟨"javadoc", .plain, some .null⟩,
      ⟨"required", .plain, some (.bool false)⟩]
  | directive =>
    [⟨"name", .plain, none⟩, ⟨"value", .plain, some .null⟩, ⟨"list", .plain, some (.list [])⟩,
      ⟨"excluded", .plain, some (.list [])⟩]

def keyNames (k : RecordKind) : List String := k.keys.map Key.name

/-- one change to a record of this kind, or to one inside it -/
inductive Edit : RecordKind → Source → Source → Prop
  /-- members change places -/
  | reorder {k : RecordKind} {members members' : List (List Piece × Source)} (h : members.Perm members') :
    Edit k (.object members) (.object members')
  /-- a member is put in that is not a key of the record -/
  | insert {k : RecordKind} (before after : List (List Piece × Source)) {ps : List Piece} {name : String} (v : Source)
    (hps : StandsFor ps name.toList) (hname : name ∉ k.keyNames) :
    Edit k (.object (before ++ after)) (.object (before ++ (ps, v) :: after))
  /-- a member is left off that says what stands in for it -/
  | leaveOff {k : RecordKind} (before after : List (List Piece × Source)) {ps : List Piece} {key : Key} {v : Source}
    (hkey : key ∈ k.keys) (hps : StandsFor ps key.name.toList) (hspare : key.spare? = some v) :
    Edit k (.object (before ++ (ps, v) :: after)) (.object (before ++ after))
  /-- the record under a key is changed -/
  | inRecord {k j : RecordKind} (before after : List (List Piece × Source)) {ps : List Piece} {key : Key}
    {v v' : Source} (hkey : key ∈ k.keys) (hps : StandsFor ps key.name.toList) (hcontent : key.content = .record j)
    (h : Edit j v v') : Edit k (.object (before ++ (ps, v) :: after)) (.object (before ++ (ps, v') :: after))
  /-- a record in the list under a key is changed -/
  | inList {k j : RecordKind} (before after : List (List Piece × Source)) (front back : List Source) {ps : List Piece}
    {key : Key} {v v' : Source} (hkey : key ∈ k.keys) (hps : StandsFor ps key.name.toList)
    (hcontent : key.content = .records j) (h : Edit j v v') :
    Edit k (.object (before ++ (ps, .list (front ++ v :: back)) :: after))
      (.object (before ++ (ps, .list (front ++ v' :: back)) :: after))

/-! ## Codecs of records -/

/-- the declarations that records of this kind hold -/
def type : RecordKind → Type
  | document => Document
  | entity => EntityDecl
  | field => FieldDecl
  | clause => Clause
  | enumeration => EnumDecl
  | relationship => RelationshipDecl
  | relationshipEnd => EndDecl
  | directive => DirectiveDecl

def codec : (k : RecordKind) → Codec k.type
  | document => Document.codec
  | entity => EntityDecl.codec
  | field => FieldDecl.codec
  | clause => Clause.codec
  | enumeration => EnumDecl.codec
  | relationship => RelationshipDecl.codec
  | relationshipEnd => EndDecl.codec
  | directive => DirectiveDecl.codec

end RecordKind

/-- what is read of such content from the first tree is read from the second -/
def Content.Keeps : Content → Tree → Tree → Prop
  | .plain, t, t' => t = t'
  | .record k, t, t' => k.codec.Keeps t t'
  | .records k, t, t' => (Codec.list k.codec).Keeps t t'

variable {α : Type} {αs : List Type}

/-- the member is what the key says -/
structure Json.Member.Meets (m : Member α) (key : Key) : Prop where
  name : m.name = key.name
  content : ∀ t t', key.content.Keeps t t' → m.codec.Keeps t t'
  spare : ∀ v, key.spare? = some v → ∀ levels a, m.codec.read levels v.tree = .ok a → m.absent = some a

/-- the members are what the keys say, one by one -/
inductive Json.Members.Meet : {αs : List Type} → Members αs → List Key → Prop
  | nil : Meet .nil []
  | cons {α : Type} {αs : List Type} {m : Member α} {ms : Members αs} {key : Key} {keys : List Key}
    (hm : m.Meets key) (hms : Meet ms keys) : Meet (.cons m ms) (key :: keys)

namespace Json.Members

variable {ms : Members αs} {keys : List Key}

theorem Meet.names_eq (h : ms.Meet keys) : ms.names = keys.map Key.name := by
  induction h with
  | nil => rfl
  | cons hm _ ih => rw [names, hm.name, ih, List.map_cons]

/-- under the name of a key stands the member that is what the key says -/
theorem Meet.at_key (h : ms.Meet keys) (hnodup : (keys.map Key.name).Nodup) {key : Key} (hkey : key ∈ keys)
    {P : ∀ {α : Type}, Member α → Prop} (hP : ∀ {α : Type} (m : Member α), m.Meets key → P m) : ms.At P key.name := by
  induction h with
  | nil => cases hkey
  | @cons _ _ m ms key' keys hm _ ih =>
    rw [List.map_cons, List.nodup_cons] at hnodup
    rw [At]
    rcases List.mem_cons.1 hkey with rfl | hkey
    · rw [if_pos hm.name]
      exact hP m hm
    · have hne : m.name ≠ key.name := by
        intro hname
        exact hnodup.1 (hm.name ▸ hname ▸ List.mem_map_of_mem hkey)
      rw [if_neg hne]
      exact ih hnodup.2 hkey

end Json.Members

/-! ## Members of each kind -/

theorem needed_meets {c : Codec α} {name : String} {content : Content}
    (hcontent : ∀ t t', content.Keeps t t' → c.Keeps t t') : (needed name c).Meets ⟨name, content, none⟩ :=
  ⟨rfl, hcontent, fun _ h => nomatch h⟩

theorem spare_meets {c : Codec α} {name : String} {content : Content} {v : Source} {absent : α}
    (hcontent : ∀ t t', content.Keeps t t' → c.Keeps t t')
    (hv : ∀ levels a, c.read levels v.tree = .ok a → absent = a) :
    (spare name c absent).Meets ⟨name, content, some v⟩ where
  name := rfl
  content := hcontent
  spare := by
    rintro _ ⟨⟩ levels a ha
    exact congrArg some (hv levels a ha)

theorem plain_keeps (c : Codec α) (t t' : Tree) (h : Content.plain.Keeps t t') : c.Keeps t t' := by
  subst h
  exact .refl c t

theorem read_null (c : Codec α) (levels : Nat) (a : Option α)
    (h : (Codec.optional c).read levels Source.null.tree = .ok a) : none = a := by
  rw [Source.tree] at h
  exact Except.ok.inj h

theorem read_emptyList (c : Codec α) (levels : Nat) (as : List α)
    (h : (Codec.list c).read levels (Source.list []).tree = .ok as) : [] = as := by
  rw [Source.tree, sourceItems] at h
  cases levels with
  | zero => cases h
  | succ levels => exact Except.ok.inj h

theorem read_emptyText (levels : Nat) (s : String) (h : Codec.text.read levels (Source.text []).tree = .ok s) :
    "" = s := by
  rw [Source.tree] at h
  exact Except.ok.inj h

theorem read_false (levels : Nat) (b : Bool) (h : Codec.bool.read levels (Source.bool false).tree = .ok b) :
    false = b := by
  rw [Source.tree] at h
  exact Except.ok.inj h

theorem needed_plain (name : String) (c : Codec α) : (needed name c).Meets ⟨name, .plain, none⟩ :=
  needed_meets (plain_keeps c)

theorem spare_optional (name : String) (c : Codec α) :
    (spare name (.optional c) none).Meets ⟨name, .plain, some .null⟩ :=
  spare_meets (plain_keeps _) (read_null c)

theorem spare_text (name : String) : (spare name .text "").Meets ⟨name, .plain, some (.text [])⟩ :=
  spare_meets (plain_keeps _) read_emptyText

theorem spare_texts (name : String) : (spare name (.list .text) []).Meets ⟨name, .plain, some (.list [])⟩ :=
  spare_meets (plain_keeps _) (read_emptyList _)

theorem spare_records (name : String) (k : RecordKind) :
    (spare name (.list k.codec) []).Meets ⟨name, .records k, some (.list [])⟩ :=
  spare_meets (fun _ _ h => h) (read_emptyList _)

namespace RecordKind

theorem nodup_keyNames (k : RecordKind) : k.keyNames.Nodup := by
  cases k <;> decide

/-- the codec of each kind of record is that of members with the keys of the kind -/
theorem described (k : RecordKind) :
    ∃ (αs : List Type) (ms : Members αs) (title : String) (forth : Row αs → k.type) (back : k.type → Row αs),
      k.codec = (ms.codec title).imap forth back ∧ ms.Meet k.keys := by
  cases k with
  | document =>
    exact ⟨_, Document.members, _, _, _, rfl, .cons (spare_records _ entity) (.cons (spare_records _ enumeration)
      (.cons (spare_records _ relationship) (.cons (spare_records _ directive) .nil)))⟩
  | entity =>
    exact ⟨_, EntityDecl.members, _, _, _, rfl, .cons (spare_text _) (.cons (spare_optional _ _)
      (.cons (spare_records _ field) (.cons (spare_optional _ _) .nil)))⟩
  | field =>
    exact ⟨_, FieldDecl.members, _, _, _, rfl, .cons (needed_plain _ _) (.cons (needed_plain _ _)
      (.cons (spare_records _ clause) (.cons (spare_optional _ _) .nil)))⟩
  | clause =>
    exact ⟨_, Clause.members, _, _, _, rfl, .cons (needed_plain _ _) (.cons (spare_optional _ _) .nil)⟩
  | enumeration =>
    exact ⟨_, EnumDecl.members, _, _, _, rfl, .cons (spare_text _) (.cons (spare_texts _) .nil)⟩
  | relationship =>
    have hend : ∀ name, (needed name EndDecl.codec).Meets ⟨name, .record relationshipEnd, none⟩ :=
      fun name => needed_meets fun _ _ h => h
    exact ⟨_, RelationshipDecl.members, _, _, _, rfl, .cons (needed_plain _ _) (.cons (hend _) (.cons (hend _) .nil))⟩
  | relationshipEnd =>
    have hrequired : (spare "required" .bool false).Meets ⟨"required", .plain, some (.bool false)⟩ :=
      spare_meets (plain_keeps _) read_false
    exact ⟨_, EndDecl.members, _, _, _, rfl, .cons (needed_plain _ _) (.cons (spare_optional _ _)
      (.cons (spare_optional _ _) (.cons hrequired .nil)))⟩
  | directive =>
    exact ⟨_, DirectiveDecl.members, _, _, _, rfl, .cons (needed_plain _ _) (.cons (spare_optional _ _)
      (.cons (spare_texts _) (.cons (spare_texts _) .nil)))⟩

/-! ## One change, and any number of them -/

/-- a record keeps what is read if it does as a record of members with its keys -/
theorem keeps_of_members {k : RecordKind} {members members' : List (List Piece × Source)}
    (h : ∀ {αs : List Type} (ms : Members αs) (title : String), ms.Meet k.keys →
      (ms.codec title).Keeps (.object (sourceMembers members) .closed) (.object (sourceMembers members') .closed)) :
    k.codec.Keeps (Source.object members).tree (Source.object members').tree := by
  obtain ⟨αs, ms, title, forth, back, hcodec, hmeet⟩ := k.described
  rw [hcodec, Source.tree, Source.tree]
  exact (h ms title hmeet).imap

theorem sourceMembers_append (members members' : List (List Piece × Source)) :
    sourceMembers (members ++ members') = sourceMembers members ++ sourceMembers members' := by
  simp only [sourceMembers_eq_map, List.map_append]

theorem strict_textToken {ps : List Piece} {name : String} (h : StandsFor ps name.toList) :
    (textToken ps).strict = .ok name := by
  rw [textToken_of_standsFor h]

/-- the value under a key is changed for one from which the same is read -/
theorem keeps_under {k : RecordKind} {before after : List (List Piece × Source)} {ps : List Piece} {key : Key}
    {v v' : Source} (hkey : key ∈ k.keys) (hps : StandsFor ps key.name.toList)
    (hcontent : key.content.Keeps v.tree v'.tree) :
    k.codec.Keeps (Source.object (before ++ (ps, v) :: after)).tree
      (Source.object (before ++ (ps, v') :: after)).tree := by
  refine keeps_of_members fun ms title hmeet => ?_
  have hname : key.name ∈ ms.names := hmeet.names_eq ▸ List.mem_map_of_mem hkey
  have hat : ms.At (fun m => m.codec.Keeps v.tree v'.tree) key.name :=
    hmeet.at_key k.nodup_keyNames hkey fun m hm => hm.content _ _ hcontent
  simp only [sourceMembers_append, sourceMembers]
  exact Codec.keeps_changed (strict_textToken hps) hname hat

/-- **One change.** Whatever is read before a change is read after it. -/
theorem Edit.keeps {k : RecordKind} {v v' : Source} (h : k.Edit v v') : k.codec.Keeps v.tree v'.tree := by
  induction h with
  | reorder h =>
    refine keeps_of_members fun ms title _ => ?_
    rw [sourceMembers_eq_map, sourceMembers_eq_map]
    exact Codec.keeps_reordered (h.map _)
  | @insert k before after ps name v hps hname =>
    refine keeps_of_members fun ms title hmeet => ?_
    have hunknown : name ∉ ms.names := hmeet.names_eq ▸ hname
    simp only [sourceMembers_append, sourceMembers]
    exact Codec.keeps_inserted (strict_textToken hps) hunknown v.skip_tree
  | @leaveOff k before after ps key v hkey hps hspare =>
    refine keeps_of_members fun ms title hmeet => ?_
    have hat : ms.At (fun m => ∀ levels a, m.codec.read levels v.tree = .ok a → m.absent = some a) key.name :=
      hmeet.at_key k.nodup_keyNames hkey fun m hm => hm.spare v hspare
    simp only [sourceMembers_append, sourceMembers]
    exact Codec.keeps_leftOff (strict_textToken hps) hat
  | inRecord before after hkey hps hcontent _ ih =>
    refine keeps_under hkey hps ?_
    rw [hcontent]
    exact ih
  | inList before after front back hkey hps hcontent _ ih =>
    refine keeps_under hkey hps ?_
    rw [hcontent, Source.tree, Source.tree, sourceItems_eq_map, sourceItems_eq_map, List.map_append, List.map_append]
    exact Codec.keeps_item ih _ _ _

/-- whatever is read before any number of changes is read after them -/
theorem keeps_of_edits {k : RecordKind} {v v' : Source} (h : Relation.ReflTransGen k.Edit v v') :
    k.codec.Keeps v.tree v'.tree := by
  induction h with
  | refl => exact .refl _ _
  | tail _ hlast ih => exact ih.trans hlast.keeps

end RecordKind

/-! ## Texts of documents -/

/-- **Members in any order.** A text that is read as a document is one of the grammar, and so is read as this document
every text in whose records members have changed places, members that are not keys have been put in, or members have been
left off that say what stands in for them; and for every technology it gives the same model or the same error. -/
theorem Document.ofText_edited {text : String} {d : Document} (h : Document.ofText text = .ok (some d)) :
    (∃ v : Source, v.WrittenAs text) ∧ ∀ v v' text', v.WrittenAs text → v'.WrittenAs text' →
      Relation.ReflTransGen RecordKind.document.Edit v v' →
      Document.ofText text' = .ok (some d) ∧ ∀ storage, compileText text' storage = compileText text storage := by
  constructor
  · obtain ⟨v, hv, -⟩ := Document.ofText_eq_some_iff.1 h
    exact ⟨v, hv⟩
  · intro v v' text' hv hv' hedits
    have hread : Document.codec.read depthLimit v.tree = .ok d := (Document.ofText_iff hv).1 h
    have hsame : Document.ofText text' = .ok (some d) :=
      (Document.ofText_iff hv').2 (RecordKind.keeps_of_edits hedits _ _ hread)
    refine ⟨hsame, fun storage => ?_⟩
    rw [compileText, compileText, h, hsame]

/-- an entity with an empty body, before a list of directives -/
def plainText : Value :=
  .object [("entities", .list [.object [("name", .text "A"), ("body", .list [])]]), ("options", .list [])]

/-- the same entity in other words, without the body and the directives, after a note that no document knows -/
def notedText : Value :=
  .object [("note", .list [.null, .object []]), ("entities", .list [.object [("name", .text "A")]])]

theorem plainText_noted :
    Document.ofText notedText.render = .ok (some { entities := [{ name := "A" }] }) ∧
      ∀ storage, compileText notedText.render storage = compileText plainText.render storage := by
  have hname : (Value.text "A").WithoutReals := .scalar fun x => by simp
  have hempty : (Value.list []).WithoutReals := .list (by simp)
  have hplain : plainText.WithoutReals :=
    .object (List.forall_mem_cons.2 ⟨.list (List.forall_mem_singleton.2 (.object
      (List.forall_mem_cons.2 ⟨hname, List.forall_mem_singleton.2 hempty⟩))), List.forall_mem_singleton.2 hempty⟩)
  have hnoted : notedText.WithoutReals :=
    .object (List.forall_mem_cons.2 ⟨.list (List.forall_mem_cons.2 ⟨.scalar fun x => by simp,
      List.forall_mem_singleton.2 (.object (by simp))⟩), List.forall_mem_singleton.2 (.list
        (List.forall_mem_singleton.2 (.object (List.forall_mem_singleton.2 hname))))⟩)
  have hread : Document.ofText plainText.render = .ok (some { entities := [{ name := "A" }] }) :=
    (Document.ofText_iff hplain.writtenAs).2 rfl
  have hps : ∀ name : String, StandsFor (name.toList.map pieceOf) name.toList := fun name => standsFor_pieceOf _
  have hbody : RecordKind.document.Edit plainText.source _ :=
    .inList [] [("options".toList.map pieceOf, .list [])] [] [] (.head _) (hps "entities") rfl
      (.leaveOff [("name".toList.map pieceOf, .text ("A".toList.map pieceOf))] [] (.tail _ (.tail _ (.head _)))
        (hps "body") rfl)
  have hoptions : RecordKind.document.Edit (.object [("entities".toList.map pieceOf, .list [.object
      [("name".toList.map pieceOf, .text ("A".toList.map pieceOf))]]), ("options".toList.map pieceOf, .list [])]) _ :=
    .leaveOff [_] [] (.tail _ (.tail _ (.tail _ (.head _)))) (hps "options") rfl
  have hnote : RecordKind.document.Edit _ notedText.source :=
    .insert [] [("entities".toList.map pieceOf, .list [.object
      [("name".toList.map pieceOf, .text ("A".toList.map pieceOf))]])] _ (hps "note") (by decide)
  exact (Document.ofText_edited hread).2 _ _ _ hplain.writtenAs hnoted.writtenAs
    (.head hbody (.head hoptions (.single hnote)))

end EntitySchema
