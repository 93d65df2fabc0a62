import Statechart.Files.Tree
import Statechart.Log.Value
import Statechart.Log.Record

/-!
# Hosts

A `Host` is all that a command can learn about the world it runs in: the environment, the files,
the standard input and the time.  `Host.read` reads a document from a file, and `ReadFault` says
why it cannot be read.  Documents are in UTF-8, and all line ends are read as line feeds.
-/

namespace Statechart

/-- The world of a command. -/
structure Host where
  /-- The environment, in order. -/
  environment : List (Text × Text) := []
  /-- The bytes of the file at a path. -/
  file : Path → Except Obstacle (List UInt8) := fun _ => .error .missing
  /-- The bytes of the standard input. -/
  input : List UInt8 := []
  /-- The time, in seconds since the beginning of 1970. -/
  now : Value := .int 0

/-- Why a document cannot be read. -/
inductive ReadFault where
  /-- There is an obstacle on the way to the file. -/
  | obstacle (o : Obstacle) (path : Path)
  /-- The path holds a character with the code zero. -/
  | zeroInPath
  /-- The bytes are no UTF-8. -/
  | encoding (f : Utf8.Fault)
  deriving DecidableEq, Inhabited

/-- What an obstacle is called by the operating system: the kind of failure, its number and its
description. -/
def Obstacle.description : Obstacle → Text × Nat × Text
  | .missing => ("FileNotFoundError".toList, 2, "No such file or directory".toList)
  | .notFolder => ("NotADirectoryError".toList, 20, "Not a directory".toList)
  | .folder => ("IsADirectoryError".toList, 21, "Is a directory".toList)
  | .longName => ("OSError".toList, 36, "File name too long".toList)
  | .denied => ("PermissionError".toList, 13, "Permission denied".toList)

namespace ReadFault

/-- The failure that a fault is reported as. -/
def failure : ReadFault → Failure
  | .obstacle o path =>
    let (kind, number, description) := o.description
    { kind
      message := "[Errno ".toList ++ Digits.ofNat number ++ ']' :: ' ' :: description ++
        ':' :: ' ' :: Text.quoted path.text }
  | .zeroInPath => { kind := "ValueError".toList, message := "embedded null byte".toList }
  | .encoding f => { kind := "UnicodeDecodeError".toList, message := f.message }

/-- Whether the fault lies with the operating system and not with the document. -/
def isObstacle : ReadFault → Bool
  | .obstacle .. => true
  | _ => false

end ReadFault

/-- Bytes as the text of a document. -/
def Document.ofBytes (bytes : List UInt8) : Except ReadFault Text :=
  match Utf8.decode bytes with
  | .ok s => .ok s.unifyLineEnds
  | .error f => .error (.encoding f)

/-- The document in the file at a path. -/
def Host.read (h : Host) (path : Text) : Except ReadFault Text :=
  if '\x00' ∈ path then .error .zeroInPath
  else
    let path := Path.ofText path
    match h.file path with
    | .ok bytes => Document.ofBytes bytes
    | .error o => .error (.obstacle o path)

end Statechart
