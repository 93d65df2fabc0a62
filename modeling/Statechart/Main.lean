import Statechart.CommandLine.Run
import Std.Time.DateTime.Timestamp

/-!
# The program

The command line on a real host.  What a command reads is known from its arguments, so it is all
read first; then the command is run, and what it prints is printed.
-/

namespace Statechart.Main

/-- The obstacle that a failure to read a file stands for, by its number, which may come with a
minus sign. -/
def obstacleOfCode (code : UInt32) : Obstacle :=
  let number := if code < 2147483648 then code else 0 - code
  if number = 13 then .denied
  else if number = 20 then .notFolder
  else if number = 21 then .folder
  else if number = 36 then .longName
  else .missing

/-- The obstacle that a failure to read a file stands for. -/
def obstacleOf : IO.Error → Obstacle
  | .permissionDenied _ code _ | .inappropriateType _ code _ | .invalidArgument _ code _
  | .noFileOrDirectory _ code _ | .otherError code _ => obstacleOfCode code
  | _ => .missing

/-- Read a file. -/
def readFile (path : Path) : IO (Except Obstacle (List UInt8)) := do
  try
    let bytes ← IO.FS.readBinFile (String.ofList path.text)
    return .ok bytes.toList
  catch e => return .error (obstacleOf e)

/-- Read a stream to its end. -/
partial def readStream (stream : IO.FS.Stream) (before : List UInt8) : IO (List UInt8) := do
  let chunk ← stream.read 65536
  if chunk.isEmpty then return before
  readStream stream (before ++ chunk.toList)

/-- Bytes cut at every zero. -/
def piecesAtZero (bytes : List UInt8) : List (List UInt8) :=
  bytes.foldr
    (fun b pieces =>
      match pieces with
      | [] => [[b]]
      | piece :: pieces => if b = 0 then [] :: piece :: pieces else (b :: piece) :: pieces)
    [[]]

/-- The entries of the environment that are texts. -/
def environmentOf (bytes : List UInt8) : List (Text × Text) :=
  (piecesAtZero bytes).filterMap fun piece => do
    Text.cut? '=' (← (Utf8.decode piece).toOption)

/-- The environment of this process. -/
def readEnvironment : IO (List (Text × Text)) := do
  let stream ← IO.FS.Handle.mk "/proc/self/environ" .read
  return environmentOf (← readStream (.ofHandle stream) [])

/-- The settings of the environment, where it cannot be listed as a whole. -/
def readSettings : IO (List (Text × Text)) := do
  let names := [Settings.logLevelName, Settings.indentName]
  let given ← names.mapM fun name => do
    return (← IO.getEnv (String.ofList name)).map fun value => (name, value.toList)
  return given.filterMap id

/-- The time, in seconds since the beginning of 1970. -/
def readClock : IO Value := do
  let duration := (← Std.Time.Timestamp.now).val
  let nanoseconds : Int := duration.second.val * 1000000000 + duration.nano.val
  return .double (.ofRatio (nanoseconds < 0) nanoseconds.natAbs 1000000000)

/-- What a command that reads documents at the given paths can learn about its host. -/
def readHost (paths : List Text) : IO Host := do
  let environment ← try readEnvironment catch _ => readSettings
  let places := (".env".toList :: paths).map Path.ofText
  let files ← places.mapM fun place => do return (place, ← readFile place)
  let input ← if paths.contains Command.inputPath then readStream (← IO.getStdin) [] else pure []
  return { environment, input, now := ← readClock,
           file := fun place => (files.lookup place).getD (.error .missing) }

end Statechart.Main

/-- Run the command line. -/
def main (arguments : List String) : IO UInt32 := do
  let arguments := arguments.map String.toList
  let paths := match Statechart.Command.ofArguments arguments with
    | .ok c => c.paths
    | .error _ => []
  let host ← Statechart.Main.readHost paths
  match Statechart.CommandLine.run host arguments with
  | .error fault =>
    IO.eprintln (String.ofList fault.failure.text)
    return 1
  | .ok outcome =>
    IO.print (String.ofList outcome.output)
    IO.eprint (String.ofList outcome.errors)
    return outcome.exit.toUInt32
