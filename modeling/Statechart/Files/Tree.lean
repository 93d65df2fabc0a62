import Statechart.Files.Path
import Statechart.Text.Utf8

/-!
# Trees of files

A `FileTree` holds the files and folders below the working folder.  `FileTree.read` follows a path
part by part, the way an operating system does, and gives the bytes of the file at its end or the
first obstacle on the way.  Of what lies outside the working folder, only the folders above it
are there.
-/

namespace Statechart

/-- What keeps a path from leading to a file that can be read. -/
inductive Obstacle where
  /-- There is nothing of this name. -/
  | missing
  /-- The path goes on below a file. -/
  | notFolder
  /-- The path leads to a folder. -/
  | folder
  /-- A part of the path, or the whole path, is too long. -/
  | longName
  /-- The file must not be read. -/
  | denied
  deriving DecidableEq, Inhabited

/-- What stands at a place. -/
inductive Entry where
  /-- A file with these bytes. -/
  | file (bytes : List UInt8)
  /-- A folder. -/
  | folder
  deriving DecidableEq, Inhabited

/-- The files and folders below the working folder, by the parts of their paths. -/
structure FileTree where
  /-- The entries; the first one for a place counts. -/
  entries : List (List Text × Entry) := []
  deriving DecidableEq, Inhabited

namespace FileTree

/-- The greatest number of bytes in a part of a path. -/
def longestPart : Nat := 255

/-- The greatest number of bytes in a path. -/
def longestPath : Nat := 4095

/-- Put a file at a place, with the folders on the way to it. -/
def putFile (t : FileTree) (place : List Text) (bytes : List UInt8) : FileTree where
  entries :=
    (place, .file bytes) ::
      (List.range place.length).map (fun n => (place.take n, .folder)) ++ t.entries

/-- Put a folder at a place, with the folders on the way to it. -/
def putFolder (t : FileTree) (place : List Text) : FileTree where
  entries :=
    (List.range (place.length + 1)).map (fun n => (place.take n, .folder)) ++ t.entries

/-- What stands at a place. -/
def entry? (t : FileTree) (place : List Text) : Option Entry :=
  if place.isEmpty then some .folder else t.entries.lookup place

/-- Where a path has led so far. -/
inductive Location where
  /-- To a place below the working folder. -/
  | inside (place : List Text)
  /-- To a folder above it. -/
  | outside
  deriving DecidableEq, Inhabited

/-- Follow one part of a path from a folder or a file. -/
def follow (t : FileTree) (location : Location) (part : Text) : Except Obstacle Location :=
  match location with
  | .outside =>
    if part = ['.', '.'] then .ok .outside
    else if longestPart < (Utf8.encode part).length then .error .longName
    else .error .missing
  | .inside place =>
    match t.entry? place with
    | some .folder =>
      if part = ['.', '.'] then .ok (if place.isEmpty then .outside else .inside place.dropLast)
      else if longestPart < (Utf8.encode part).length then .error .longName
      else if (t.entry? (place ++ [part])).isSome then .ok (.inside (place ++ [part]))
      else .error .missing
    | _ => .error .notFolder

/-- The bytes of the file at a path. -/
def read (t : FileTree) (p : Path) : Except Obstacle (List UInt8) :=
  if longestPath < (Utf8.encode p.text).length then .error .longName
  else
    let start : Location := if p.lead.isEmpty then .inside [] else .outside
    match p.parts.foldlM t.follow start with
    | .error obstacle => .error obstacle
    | .ok .outside => .error .folder
    | .ok (.inside place) =>
      match t.entry? place with
      | some (.file bytes) => .ok bytes
      | some .folder => .error .folder
      | none => .error .missing

end FileTree

end Statechart
