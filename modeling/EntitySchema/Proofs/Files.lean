/-
Documents from files: all or nothing, and in order. All files are read before any text is decoded, so the first path that
cannot be read decides over every text that cannot be decoded; only where all can be read does the first text that holds
no document decide. Otherwise the documents are joined in the order of the paths, a path that is given twice twice.

- `Disk.Holds`, `Disk.HoldsDocument`: what a path must lead to; `Disk.Unreadable`, `Disk.Undecodable`: what else there may
  be, with the problem that it is.
- `Disk.fileText_eq_ok`, `Disk.fileText_eq_error`, `Disk.decode_eq_ok`, `Disk.decode_eq_error`: one file.
- `Disk.document_eq`: the two rounds, each a walk through the paths.
- `Disk.document_allOrNothing`: which paths yield a document, which one, and the problem with the others.
-/
import EntitySchema.Files.Basic
import EntitySchema.Proofs.Decoding
import EntitySchema.Proofs.Traversal

namespace EntitySchema

open Outcome

/-! ## Joined documents -/

namespace Document

/-- all declarations of some documents, kind by kind and in order -/
def concatenation (ds : List Document) : Document where
  entities := ds.flatMap Document.entities
  enumerations := ds.flatMap Document.enumerations
  relationships := ds.flatMap Document.relationships
  directives := ds.flatMap Document.directives

theorem foldl_append (d : Document) (ds : List Document) : ds.foldl append d = d.append (concatenation ds) := by
  induction ds generalizing d with
  | nil => simp [concatenation, append]
  | cons e ds ih =>
    rw [List.foldl_cons, ih]
    simp only [append, concatenation, List.flatMap_cons, List.append_assoc]

theorem join_eq (ds : List Document) : join ds = concatenation ds := by
  rw [join, foldl_append]
  rfl

end Document

namespace Disk

/-! ## One file -/

variable {disk : Disk} {path text : String} {paths : List String} {p : Problem}

/-- a path that is not empty and leads to a file, whose bytes are those of the text -/
structure Holds (disk : Disk) (path text : String) : Prop where
  named : path ≠ ""
  bytes : disk path = .file text.toUTF8

/-- the path leads to a file with the text of a document -/
def HoldsDocument (disk : Disk) (path : String) (d : Document) : Prop :=
  ∃ text, disk.Holds path text ∧ Document.ofText text = .ok (some d)

/-- why no text is read at a path -/
inductive Unreadable (disk : Disk) : String → Problem → Prop
  | unnamed : Unreadable disk "" .noPath
  | absent {path : String} (named : path ≠ "") (h : disk path = .absent) : Unreadable disk path (.noFile path)
  | directory {path : String} (named : path ≠ "") (h : disk path = .directory) : Unreadable disk path (.noFile path)
  /-- the bytes are those of no text -/
  | notText {path : String} {bytes : ByteArray} (named : path ≠ "") (h : disk path = .file bytes)
    (hbytes : ∀ text : String, bytes ≠ text.toUTF8) : Unreadable disk path (.notText path)

/-- why the text at a path yields no document -/
inductive Undecodable (disk : Disk) : String → Problem → Prop
  | faulty {path text : String} {f : Json.Fault} (h : disk.Holds path text) (hf : Document.ofText text = .error f) :
    Undecodable disk path (.notDocument path f)
  | empty {path text : String} (h : disk.Holds path text) (hnone : Document.ofText text = .ok none) :
    Undecodable disk path (.emptyDocument path)

theorem fromUTF8?_eq_some {bytes : ByteArray} : String.fromUTF8? bytes = some text ↔ bytes = text.toUTF8 := by
  unfold String.fromUTF8?
  split
  · rename_i hvalid
    rw [Option.some.injEq]
    constructor
    · intro h
      subst h
      rfl
    · intro h
      subst h
      rfl
  · rename_i hinvalid
    constructor
    · intro h
      cases h
    · intro h
      subst h
      exact absurd text.isValidUTF8 hinvalid

/-- under a path that is not empty, what stands there decides -/
theorem fileText_of_named (hnamed : path ≠ "") :
    disk.fileText path =
      match disk path with
      | .absent | .directory => .error (.noFile path)
      | .file bytes =>
        match String.fromUTF8? bytes with
        | some text => .ok text
        | none => .error (.notText path) := by
  have hpath : path.isEmpty = false := by simpa using hnamed
  unfold fileText
  exact if_neg (by rw [hpath]; exact Bool.false_ne_true)

theorem fileText_eq_ok : disk.fileText path = .ok text ↔ disk.Holds path text := by
  by_cases hnamed : path = ""
  · subst hnamed
    constructor
    · intro h
      cases h
    · intro h
      exact absurd rfl h.named
  · rw [fileText_of_named hnamed]
    constructor
    · intro h
      split at h
      · cases h
      · cases h
      · rename_i bytes hbytes
        split at h
        · rename_i text' htext
          cases h
          exact ⟨hnamed, by rw [hbytes, fromUTF8?_eq_some.1 htext]⟩
        · cases h
    · intro h
      have htext : String.fromUTF8? text.toUTF8 = some text := fromUTF8?_eq_some.2 rfl
      simp only [h.bytes, htext]

theorem fileText_eq_error : disk.fileText path = .error p ↔ disk.Unreadable path p := by
  constructor
  · intro h
    by_cases hnamed : path = ""
    · subst hnamed
      cases h
      exact .unnamed
    · rw [fileText_of_named hnamed] at h
      split at h
      · rename_i hnode
        cases h
        exact .absent hnamed hnode
      · rename_i hnode
        cases h
        exact .directory hnamed hnode
      · rename_i bytes hnode
        split at h
        · cases h
        · rename_i hnone
          cases h
          refine .notText hnamed hnode fun text hbytes => ?_
          rw [fromUTF8?_eq_some.2 hbytes] at hnone
          cases hnone
  · intro h
    cases h with
    | unnamed => rfl
    | absent hnamed hnode => simp only [fileText_of_named hnamed, hnode]
    | directory hnamed hnode => simp only [fileText_of_named hnamed, hnode]
    | @notText _ bytes hnamed hnode hbytes =>
      have hnone : String.fromUTF8? bytes = none := by
        rw [Option.eq_none_iff_forall_ne_some]
        intro text htext
        exact hbytes text (fromUTF8?_eq_some.1 htext)
      simp only [fileText_of_named hnamed, hnode, hnone]

/-- the document of one file, read and decoded in one go -/
def decode (disk : Disk) (path : String) : Except Problem Document := (disk.fileText path).bind (decodeFile path)

theorem decode_eq_ok {d : Document} : disk.decode path = .ok d ↔ disk.HoldsDocument path d := by
  have hdecodes : ∀ text, decodeFile path text = .ok d ↔ Document.ofText text = .ok (some d) := by
    intro text
    unfold decodeFile
    split <;> simp_all
  rw [decode, bind_eq_ok]
  simp only [fileText_eq_ok, hdecodes]
  rfl

theorem decode_eq_error (hreadable : ∃ text, disk.Holds path text) :
    disk.decode path = .error p ↔ disk.Undecodable path p := by
  obtain ⟨text, hholds⟩ := hreadable
  have hread : disk.decode path = decodeFile path text := by
    rw [decode, fileText_eq_ok.2 hholds]
    rfl
  rw [hread]
  constructor
  · intro h
    unfold decodeFile at h
    split at h
    · rename_i f hf
      cases h
      exact .faulty hholds hf
    · rename_i hnone
      cases h
      exact .empty hholds hnone
    · cases h
  · intro h
    -- what stands at the path is one text only
    have hsame : ∀ text', disk.Holds path text' → text' = text := by
      intro text' hholds'
      have hok := (fileText_eq_ok.2 hholds').symm.trans (fileText_eq_ok.2 hholds)
      exact Except.ok.inj hok
    cases h with
    | faulty hholds' hf =>
      obtain rfl := hsame _ hholds'
      rw [decodeFile, hf]
    | empty hholds' hnone =>
      obtain rfl := hsame _ hholds'
      rw [decodeFile, hnone]

/-! ## Several files -/

theorem eachText_eq (disk : Disk) (paths : List String) : disk.eachText paths = paths.mapM disk.fileText := by
  induction paths with
  | nil => rfl
  | cons path paths ih => rw [eachText, mapM_cons_eq, ih]

/-- texts stay with the paths that they were read at -/
theorem decodeEach_zip {texts : List String} (h : List.Forall₂ (fun path text => disk.fileText path = .ok text) paths texts) :
    decodeEach (paths.zip texts) = paths.mapM disk.decode := by
  induction h with
  | nil => rfl
  | @cons path text paths texts htext _ ih =>
    have hread : disk.decode path = decodeFile path text := by
      rw [decode, htext]
      rfl
    rw [List.zip_cons_cons, decodeEach, mapM_cons_eq, ih, hread]

/-- **Two rounds.** First every path is read, then every file is decoded, then all documents are joined. -/
theorem document_eq (disk : Disk) (paths : List String) :
    disk.document paths =
      if paths = [] then .error .noFiles
      else (paths.mapM disk.fileText).bind fun _ => (paths.mapM disk.decode).map Document.join := by
  by_cases hnil : paths = []
  · subst hnil
    rfl
  · have hsome : paths.isEmpty = false := by simpa using hnil
    rw [if_neg hnil, document, fileTexts, hsome, if_neg Bool.false_ne_true, eachText_eq]
    cases htexts : paths.mapM disk.fileText with
    | error p => rfl
    | ok texts =>
      simp only [Except.bind]
      rw [decodeEach_zip (mapM_eq_ok.1 htexts)]

/-! ## All or nothing -/

def Readable (disk : Disk) (path : String) : Prop := ∃ text, disk.Holds path text

def Decodable (disk : Disk) (path : String) : Prop := ∃ d, disk.HoldsDocument path d

/-- the problem is that of a path before which all others pass -/
def FirstOf (passes : String → Prop) (fails : String → Problem → Prop) (paths : List String) (p : Problem) : Prop :=
  ∃ before path after, paths = before ++ path :: after ∧ (∀ earlier ∈ before, passes earlier) ∧ fails path p

/-- the problem with some paths -/
def Rejects (disk : Disk) (paths : List String) (p : Problem) : Prop :=
  paths = [] ∧ p = .noFiles ∨
    FirstOf disk.Readable disk.Unreadable paths p ∨
      (∀ path ∈ paths, disk.Readable path) ∧ FirstOf disk.Decodable disk.Undecodable paths p

theorem exists_texts_iff : (∃ texts, paths.mapM disk.fileText = .ok texts) ↔ ∀ path ∈ paths, disk.Readable path := by
  rw [exists_mapM_eq_ok]
  simp only [fileText_eq_ok]
  rfl

theorem eachRead_eq_error : paths.mapM disk.fileText = .error p ↔ FirstOf disk.Readable disk.Unreadable paths p := by
  rw [mapM_eq_error]
  simp only [fileText_eq_ok, fileText_eq_error]
  rfl

theorem eachDecoded_eq_ok {ds : List Document} :
    paths.mapM disk.decode = .ok ds ↔ List.Forall₂ disk.HoldsDocument paths ds := by
  rw [mapM_eq_ok]
  simp only [decode_eq_ok]

/-- where all can be read, the first that cannot be decoded decides -/
theorem eachDecoded_eq_error (hreadable : ∀ path ∈ paths, disk.Readable path) :
    paths.mapM disk.decode = .error p ↔ FirstOf disk.Decodable disk.Undecodable paths p := by
  rw [mapM_eq_error]
  simp only [decode_eq_ok]
  constructor
  · intro h
    obtain ⟨before, path, after, rfl, hbefore, hpath⟩ := h
    exact ⟨before, path, after, rfl, hbefore, (decode_eq_error (hreadable path (by simp))).1 hpath⟩
  · intro h
    obtain ⟨before, path, after, rfl, hbefore, hpath⟩ := h
    exact ⟨before, path, after, rfl, hbefore, (decode_eq_error (hreadable path (by simp))).2 hpath⟩

theorem HoldsDocument.readable {d : Document} (h : disk.HoldsDocument path d) : disk.Readable path := by
  obtain ⟨text, hholds, _⟩ := h
  exact ⟨text, hholds⟩

theorem document_eq_ok {d : Document} :
    disk.document paths = .ok d ↔
      paths ≠ [] ∧ ∃ ds, List.Forall₂ disk.HoldsDocument paths ds ∧ d = .concatenation ds := by
  rw [document_eq]
  by_cases hnil : paths = []
  · simp [hnil]
  · rw [if_neg hnil, bind_eq_ok]
    simp only [map_eq_ok, eachDecoded_eq_ok, Document.join_eq]
    constructor
    · intro h
      obtain ⟨_, _, ds, hds, rfl⟩ := h
      exact ⟨hnil, ds, hds, rfl⟩
    · intro h
      obtain ⟨_, ds, hds, rfl⟩ := h
      have hreadable : ∀ path ∈ paths, disk.Readable path := by
        intro path hpath
        obtain ⟨d, _, hd⟩ := forall₂_exists_of_mem_right hds.flip hpath
        exact HoldsDocument.readable hd
      obtain ⟨texts, htexts⟩ := exists_texts_iff.2 hreadable
      exact ⟨texts, htexts, ds, hds, rfl⟩

theorem document_eq_error : disk.document paths = .error p ↔ disk.Rejects paths p := by
  rw [document_eq, Rejects]
  by_cases hnil : paths = []
  · subst hnil
    simp [FirstOf, eq_comm]
  · rw [if_neg hnil, bind_eq_error]
    simp only [map_eq_error, eachRead_eq_error, hnil, false_and, false_or]
    refine or_congr_right ?_
    constructor
    · intro h
      obtain ⟨texts, htexts, hdecoded⟩ := h
      have hreadable := exists_texts_iff.1 ⟨texts, htexts⟩
      exact ⟨hreadable, (eachDecoded_eq_error hreadable).1 hdecoded⟩
    · intro h
      obtain ⟨hreadable, hfirst⟩ := h
      obtain ⟨texts, htexts⟩ := exists_texts_iff.2 hreadable
      exact ⟨texts, htexts, (eachDecoded_eq_error hreadable).2 hfirst⟩

theorem Unreadable.kind_eq (h : disk.Unreadable path p) :
    p.kind = if p = .noFiles ∨ p = .noPath then .missing else .invalidFile := by
  cases h with
  | unnamed => rfl
  | absent => rfl
  | directory => rfl
  | notText => rfl

theorem Undecodable.kind_eq (h : disk.Undecodable path p) :
    p.kind = if p = .noFiles ∨ p = .noPath then .missing else .invalidFile := by
  cases h with
  | faulty => rfl
  | empty => rfl

theorem Rejects.kind_eq (h : disk.Rejects paths p) :
    p.kind = if p = .noFiles ∨ p = .noPath then .missing else .invalidFile := by
  rcases h with ⟨_, rfl⟩ | ⟨_, _, _, _, _, hpath⟩ | ⟨_, _, _, _, _, _, hpath⟩
  · rfl
  · exact hpath.kind_eq
  · exact hpath.kind_eq

/-- **All or nothing, in order.** Some paths yield a document when there are any and each leads to the text of one; it is
then all of these documents in the order of the paths. Otherwise the first path that cannot be read tells what is wrong,
and where all can be read, the first that cannot be decoded. -/
theorem document_allOrNothing (disk : Disk) (paths : List String) :
    (∀ d, disk.document paths = .ok d ↔
      paths ≠ [] ∧ ∃ ds, List.Forall₂ disk.HoldsDocument paths ds ∧ d = .concatenation ds) ∧
    (∀ p, disk.document paths = .error p ↔
      paths = [] ∧ p = .noFiles ∨
        FirstOf disk.Readable disk.Unreadable paths p ∨
          (∀ path ∈ paths, disk.Readable path) ∧ FirstOf disk.Decodable disk.Undecodable paths p) ∧
    ∀ p, disk.document paths = .error p →
      p.kind = if p = .noFiles ∨ p = .noPath then .missing else .invalidFile := by
  refine ⟨fun _ => document_eq_ok, fun _ => document_eq_error, fun p h => ?_⟩
  have hrejects : disk.Rejects paths p := document_eq_error.1 h
  exact hrejects.kind_eq

end Disk

/-- an entity and nothing else -/
def onlyBlog : Document where
  entities := [{ name := "Blog" }]

/-- a disk with a document, a text that ends too early, and a directory -/
def smallDisk : Disk
  | "blog" => .file onlyBlog.render.toUTF8
  | "torn" => .file "[".toUTF8
  | "archive" => .directory
  | _ => .absent

/-- where a directory stands after a text that holds no document, the directory is the problem; where a document is given
twice, it is read twice -/
theorem smallDisk_documents :
    smallDisk.document ["torn", "archive", "blog"] = .error (.noFile "archive") ∧
      (Problem.noFile "archive").kind = .invalidFile ∧
        smallDisk.document ["blog", "blog"] = .ok (.concatenation [onlyBlog, onlyBlog]) := by
  have hreals : onlyBlog.WithoutReals := by simp [onlyBlog, Document.WithoutReals]
  have hread : smallDisk.Readable "torn" := ⟨"[", by decide, rfl⟩
  have hunread : smallDisk.Unreadable "archive" (.noFile "archive") := .directory (by decide) rfl
  have hfirst : Disk.FirstOf smallDisk.Readable smallDisk.Unreadable ["torn", "archive", "blog"] (.noFile "archive") :=
    ⟨["torn"], "archive", ["blog"], rfl, by simpa using hread, hunread⟩
  have hblog : smallDisk.HoldsDocument "blog" onlyBlog :=
    ⟨onlyBlog.render, ⟨by decide, rfl⟩, (Document.ofText_render hreals).1⟩
  obtain ⟨_, herror, hkind⟩ := smallDisk.document_allOrNothing ["torn", "archive", "blog"]
  have htorn := (herror (.noFile "archive")).2 (.inr (.inl hfirst))
  obtain ⟨hok, _, _⟩ := smallDisk.document_allOrNothing ["blog", "blog"]
  exact ⟨htorn, hkind _ htorn, (hok _).2 ⟨by simp, _, .cons hblog (.cons hblog .nil), rfl⟩⟩

end EntitySchema
