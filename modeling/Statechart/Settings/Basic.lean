import Statechart.Files.Host
import Statechart.Numeral.Lenient
import Statechart.Settings.Dotenv
import Statechart.Text.Case

/-!
# Settings

A few settings may be given in the environment or in the dotenv file of the working folder, where
the environment goes first.  Their names are read without regard to the case of letters.

`Settings.ofSources` makes the settings of the command line out of what is given, or lists
everything that is wrong with it; `Settings.report` is the text of such a list.
-/

namespace Statechart

/-- Where settings are given. -/
structure Settings.Sources where
  /-- The environment. -/
  environment : List (Text × Text)
  /-- What the dotenv file binds. -/
  dotenv : Catalog (Option Text) := ∅

/-- The settings of the command line. -/
structure Settings where
  /-- The name of the least level that is reported. -/
  logLevel : Text := "INFO".toList
  /-- The number of spaces by which each level of JSON is indented. -/
  indent : Nat := 2
  deriving DecidableEq, Inhabited

namespace Settings

/-- The small letter of a letter that may stand in the name of a setting. -/
def smallLetter (c : Char) : Char := if c = '\u212a' then 'k' else c.toLower

/-- Whether two names are the same but for the case of their letters. -/
def sameName (name other : Text) : Bool := name.map smallLetter = other.map smallLetter

/-- The last value that is given under a name. -/
def last? {α : Type} (name : Text) (given : List (Text × α)) : Option α :=
  ((given.filter fun e => sameName name e.1).getLast?).map Prod.snd

/-- The value of a setting, if it is given. -/
def Sources.get? (s : Sources) (name : Text) : Option Text :=
  last? name s.environment <|> (last? name s.dotenv.entries).join

/-- The setting for the least level that is reported. -/
def logLevelName : Text := "LOG_LEVEL".toList

/-- The setting for the indentation of JSON. -/
def indentName : Text := "MERMAID_WORKFLOW_JSON_INDENT".toList

/-- The level names that may be given. -/
def logLevels : List Text := ["CRITICAL", "ERROR", "WARNING", "INFO", "DEBUG"].map String.toList

/-- What is wrong with a value. -/
inductive Defect where
  /-- There is no such level. -/
  | unknownLevel
  /-- It is no integer. -/
  | notInteger
  /-- It is too long for an integer. -/
  | longInteger
  /-- It is less than zero. -/
  | negative
  deriving DecidableEq, Inhabited

/-- A value that cannot be used. -/
structure Fault where
  /-- The setting. -/
  name : Text
  /-- What is wrong. -/
  defect : Defect
  /-- The value. -/
  value : Text
  deriving DecidableEq, Inhabited

/-- The short name of a defect. -/
def Defect.code : Defect → Text
  | .unknownLevel => "value_error".toList
  | .notInteger => "int_parsing".toList
  | .longInteger => "int_parsing_size".toList
  | .negative => "greater_than_equal".toList

/-- The message of a fault. -/
def Fault.message (f : Fault) : Text :=
  match f.defect with
  | .unknownLevel => "Value error, Unknown log level: ".toList ++ Text.quoted f.value
  | .notInteger =>
    "Input should be a valid integer, unable to parse string as an integer".toList
  | .longInteger =>
    "Unable to parse input string as an integer, exceeded maximum size".toList
  | .negative => "Input should be greater than or equal to 0".toList

/-- The level that a value names. -/
def logLevelOf (value : Text) : Except Fault Text :=
  let level := Text.upper (Text.trim value)
  if logLevels.contains level then .ok level else .error ⟨logLevelName, .unknownLevel, value⟩

/-- The indentation that a value gives. -/
def indentOf (value : Text) : Except Fault Nat :=
  match Numeral.lenient value with
  | .error .malformed => .error ⟨indentName, .notInteger, value⟩
  | .error .long => .error ⟨indentName, .longInteger, value⟩
  | .ok (.ofNat n) => .ok n
  | .ok (.negSucc _) => .error ⟨indentName, .negative, value⟩

/-- What is made of a setting: the default if it is not given. -/
def settle {α : Type} (read : Text → Except Fault α) (fallback : α) (given : Option Text) :
    Except Fault α :=
  match given with
  | none => .ok fallback
  | some value => read value

/-- The fault of a setting, if it has one. -/
def faultOf? {α : Type} : Except Fault α → Option Fault
  | .ok _ => none
  | .error fault => some fault

/-- The settings that are given, or all faults in the order of the settings. -/
def ofSources (s : Sources) : Except (List Fault) Settings :=
  let level := settle logLevelOf ({} : Settings).logLevel (s.get? logLevelName)
  let indent := settle indentOf ({} : Settings).indent (s.get? indentName)
  match level, indent with
  | .ok logLevel, .ok indent => .ok { logLevel, indent }
  | level, indent => .error ((faultOf? level).toList ++ (faultOf? indent).toList)

/-- The characters at the start of a text that take at most `bytes` bytes. -/
def takeBytes : Nat → Text → Text
  | _, [] => []
  | bytes, c :: s =>
    let width := (Utf8.encodeChar c).length
    if width ≤ bytes then c :: takeBytes (bytes - width) s else []

/-- A long text is shown by its two ends only. -/
def shorten (s : Text) : Text :=
  if 50 < (Utf8.encode s).length then
    takeBytes 25 s ++ "...".toList ++ (takeBytes 24 s.reverse).reverse
  else s

/-- A fault in a report. -/
def Fault.report (f : Fault) : Text :=
  f.name ++ '\n' :: ' ' :: ' ' :: f.message ++ " [type=".toList ++ f.defect.code ++
    ", input_value=".toList ++ shorten (Text.quoted f.value) ++ ", input_type=str]".toList

/-- The report of all faults. -/
def report (faults : List Fault) : Text :=
  let count := Digits.ofNat faults.length ++
    (if faults.length = 1 then " validation error".toList else " validation errors".toList) ++
    " for WorkflowSettings".toList
  List.intercalate ['\n'] (count :: faults.map Fault.report)

end Settings

namespace Host

/-- The path of the dotenv file. -/
def dotenvPath : Path := .ofText ".env".toList

/-- The text of the dotenv file, which is empty if there is no such file.  It is a fault if the file
must not be read. -/
def dotenvText (h : Host) : Except ReadFault Text :=
  match h.file dotenvPath with
  | .ok bytes => Document.ofBytes bytes
  | .error .denied => .error (.obstacle .denied dotenvPath)
  | .error _ => .ok []

/-- The lines of the dotenv file. -/
def dotenvLines (h : Host) : Except ReadFault (List Dotenv.Line) := h.dotenvText.map Dotenv.read

/-- Where settings are given, with the lines of the dotenv file. -/
def sources (h : Host) (lines : List Dotenv.Line) : Settings.Sources where
  environment := h.environment
  dotenv := Dotenv.values h.environment lines

end Host

end Statechart
