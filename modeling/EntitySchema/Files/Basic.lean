/-
Documents in files. A disk is a map from paths to what stands there; each file holds the text of one document, and
several files are joined in the order given.

All files are read before the first is decoded, and nothing is joined unless all hold a document.
-/
import EntitySchema.Document.Codec
import EntitySchema.Problem

namespace EntitySchema

/-- what stands at a path -/
inductive Node where
  | absent
  | directory
  | file (bytes : ByteArray)

abbrev Disk := String → Node

namespace Disk

def fileText (disk : Disk) (path : String) : Except Problem String :=
  if path.isEmpty then .error .noPath
  else
    match disk path with
    | .absent | .directory => .error (.noFile path)
    | .file bytes =>
      match String.fromUTF8? bytes with
      | some text => .ok text
      | none => .error (.notText path)

/-- the texts of the files from left to right -/
def eachText (disk : Disk) : List String → Except Problem (List String)
  | [] => .ok []
  | path :: paths => (disk.fileText path).bind fun text => (disk.eachText paths).map (text :: ·)

/-- the texts of the files, of which there must be one -/
def fileTexts (disk : Disk) (paths : List String) : Except Problem (List String) :=
  if paths.isEmpty then .error .noFiles else disk.eachText paths

end Disk

def decodeFile (path text : String) : Except Problem Document :=
  match Document.ofText text with
  | .error f => .error (.notDocument path f)
  | .ok none => .error (.emptyDocument path)
  | .ok (some d) => .ok d

/-- the documents in the texts of files from left to right -/
def decodeEach : List (String × String) → Except Problem (List Document)
  | [] => .ok []
  | (path, text) :: files => (decodeFile path text).bind fun d => (decodeEach files).map (d :: ·)

/-- the documents of the files, joined -/
def Disk.document (disk : Disk) (paths : List String) : Except Problem Document :=
  (disk.fileTexts paths).bind fun texts => (decodeEach (paths.zip texts)).map Document.join

end EntitySchema
