/-
A disk laid out from a list of files and directories. Paths are relative to its root and walked name by name: `.` and
empty names stay, `..` goes back, and only a directory can be walked through. What lies outside the root is absent.
-/
import EntitySchema.Files.Basic

namespace EntitySchema

/-- files, with their bytes, and directories, without; of two entries of one path the later counts -/
abbrev Layout := List (String × Option ByteArray)

namespace Layout

/-- the names of a path that say where to go -/
def steps (path : String) : List String := ((path.splitOn "/").filter fun n => n != "" && n != ".")

/-- what stands at the place that these names lead to from the root -/
def nodeAt (layout : Layout) (place : List String) : Node :=
  match layout.reverse.find? fun e => steps e.1 == place with
  | some (_, some bytes) => .file bytes
  | some (_, none) => .directory
  | none => if place.isEmpty || layout.any fun e => place.isPrefixOf (steps e.1) then .directory else .absent

/-- what a path leads to from a place -/
def walk (layout : Layout) (place : List String) : List String → Node
  | [] => layout.nodeAt place
  | name :: names =>
    match layout.nodeAt place with
    | .directory =>
      if name = "" || name = "." then layout.walk place names
      else if name = ".." then if place.isEmpty then .absent else layout.walk place.dropLast names
      else layout.walk (place ++ [name]) names
    | _ => .absent

def disk (layout : Layout) : Disk := fun path =>
  if path.startsWith "/" then .absent else layout.walk [] (path.splitOn "/")

end Layout

end EntitySchema
