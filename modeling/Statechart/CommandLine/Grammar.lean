import Statechart.CommandLine.Command
import Statechart.Numeral.AnyScript

/-!
# The grammar of the command line

The arguments are a command and what belongs to it.  Options may be shortened as long as they
remain unique, and their value may follow after `=` or as the next argument.  A lone `--` ends the
options.  A negative number, a lone dash, and an argument with a space in it are no options.

Arguments are first sorted into tokens, by what an argument looks like alone; then
`Command.ofArguments` makes a command out of the tokens, or says what else is to be done: to show
a help text or the version, or to report a fault.
-/

namespace Statechart

/-- The options. -/
inductive Switch where
  /-- Show a help text. -/
  | help
  /-- Show the version. -/
  | version
  /-- Set the indentation. -/
  | indent
  deriving DecidableEq, Inhabited

namespace Switch

/-- The names of an option. -/
def names : Switch → List Text
  | .help => ["-h".toList, "--help".toList]
  | .version => ["--version".toList]
  | .indent => ["--indent".toList]

/-- What messages call an option. -/
def title (s : Switch) : Text := List.intercalate ['/'] s.names

end Switch

/-- The names of the commands. -/
inductive CommandName where
  /-- Print a workflow. -/
  | compile
  /-- Print a diagram. -/
  | extract
  /-- Print a composition. -/
  | compose
  deriving DecidableEq, Inhabited

namespace CommandName

/-- All commands. -/
def all : List CommandName := [.compile, .extract, .compose]

/-- The word for a command. -/
def word : CommandName → Text
  | .compile => "compile".toList
  | .extract => "extract".toList
  | .compose => "compose".toList

/-- The command that a word names. -/
def ofWord? (s : Text) : Option CommandName := all.find? fun c => c.word = s

/-- The options of a command. -/
def switches : CommandName → List Switch
  | .extract => [.help]
  | _ => [.help, .indent]

/-- Whether a command takes any number of operands, and not just one. -/
def takesMany : CommandName → Bool
  | .compose => true
  | _ => false

/-- What messages call the operand of a command. -/
def operandTitle : CommandName → Text
  | .compose => "NAME=PATH".toList
  | _ => "path".toList

end CommandName

namespace CommandLine

/-- The options before the command. -/
def programSwitches : List Switch := [.help, .version]

/-- What is wrong with the arguments. -/
inductive Fault where
  /-- The beginning of an option fits several options. -/
  | ambiguous (written : Text) (fitting : List Text)
  /-- An option without a value is given one. -/
  | needlessValue (s : Switch) (value : Text)
  /-- An option has no value. -/
  | noValue (s : Switch)
  /-- The value of an option is no integer. -/
  | noInteger (s : Switch) (value : Text)
  /-- There is no such command. -/
  | noSuchCommand (name : Text)
  /-- Something is missing. -/
  | missing (title : Text)
  /-- There are arguments left. -/
  | leftOver (arguments : List Text)
  deriving DecidableEq, Inhabited

/-- Texts with a separator between them. -/
def joined (separator : String) (parts : List Text) : Text :=
  List.intercalate separator.toList parts

/-- The message of a fault. -/
def Fault.message : Fault → Text
  | .ambiguous written fitting =>
    "ambiguous option: ".toList ++ written ++ " could match ".toList ++ joined ", " fitting
  | .needlessValue s value =>
    "argument ".toList ++ s.title ++ ": ignored explicit argument ".toList ++ Text.quoted value
  | .noValue s => "argument ".toList ++ s.title ++ ": expected one argument".toList
  | .noInteger s value =>
    "argument ".toList ++ s.title ++ ": invalid int value: ".toList ++ Text.quoted value
  | .noSuchCommand name =>
    "argument command: invalid choice: ".toList ++ Text.quoted name ++ " (choose from ".toList ++
      joined ", " (CommandName.all.map fun c => Text.quoted c.word) ++ [')']
  | .missing title => "the following arguments are required: ".toList ++ title
  | .leftOver arguments => "unrecognized arguments: ".toList ++ joined " " arguments

/-- A part of the command line with a usage of its own. -/
inductive Place where
  /-- The whole. -/
  | program
  /-- What follows a command. -/
  | command (c : CommandName)
  deriving DecidableEq, Inhabited

/-- What is to be done instead of a command. -/
inductive Instead where
  /-- Show the help text. -/
  | help (place : Place)
  /-- Show the version. -/
  | version
  /-- Report a fault. -/
  | fault (place : Place) (f : Fault)
  deriving DecidableEq, Inhabited

/-! ### Tokens -/

/-- What an argument looks like. -/
inductive Token where
  /-- Something that is no option. -/
  | operand (s : Text)
  /-- The end of the options. -/
  | separator
  /-- An option by this name, with the value that stands in the same argument. -/
  | switch (s : Switch) (name : Text) (value : Option Text)
  /-- Something that looks like an option, but is none. -/
  | unknown (s : Text)
  deriving DecidableEq, Inhabited

/-- The argument that ends the options. -/
def endOfSwitches : Text := ['-', '-']

/-- Options with their names. -/
def named (switches : List Switch) : List (Switch × Text) :=
  switches.flatMap fun s => s.names.map (s, ·)

/-- The option of a name. -/
def ofName? (switches : List Switch) (name : Text) : Option Switch :=
  ((named switches).find? fun e => e.2 = name).map Prod.fst

/-- The options that an argument may be short for, with the name and the value of each. -/
def fitting (switches : List Switch) (s : Text) : List (Switch × Text × Option Text) :=
  match s with
  | '-' :: '-' :: _ =>
    let (lead, value) :=
      match Text.cut? '=' s with
      | some (lead, value) => (lead, some value)
      | none => (s, none)
    (named switches).filterMap fun (switch, name) =>
      if (Text.past? lead name).isSome then some (switch, name, value) else none
  | '-' :: c :: value =>
    (named switches).filterMap fun (switch, name) =>
      if name = ['-', c] then some (switch, name, some value)
      else if (Text.past? s name).isSome then some (switch, name, none)
      else none
  | _ => []

/-- Decimal digits of any script, perhaps none. -/
def areDigits (s : Text) : Bool := s.all fun c => (Digits.decimal? c).isSome

/-- Decimal digits, at least one, with perhaps a line feed after them. -/
def isNumber (s : Text) : Bool :=
  let s := if s.getLast? = some '\n' then s.dropLast else s
  !s.isEmpty && areDigits s

/-- Whether an argument is a negative number. -/
def isNegativeNumber (s : Text) : Bool :=
  match s with
  | '-' :: number =>
    isNumber number ||
      (match Text.cut? '.' number with
        | some (whole, fraction) => areDigits whole && isNumber fraction
        | none => false)
  | _ => false

/-- The token of an argument before the end of the options. -/
def Token.ofText (switches : List Switch) (s : Text) : Except Fault Token :=
  if s.head? ≠ some '-' ∨ s = ['-'] then .ok (.operand s)
  else
    let whole := (ofName? switches s).map fun which => Token.switch which s none
    let withValue := do
      let (name, value) ← Text.cut? '=' s
      return Token.switch (← ofName? switches name) name (some value)
    match whole <|> withValue with
    | some token => .ok token
    | none =>
      match fitting switches s with
      | [(which, name, value)] => .ok (.switch which name value)
      | [] => .ok (if isNegativeNumber s || s.contains ' ' then .operand s else .unknown s)
      | several => .error (.ambiguous s (several.map fun e => e.2.1))

/-- The tokens of arguments. -/
def tokens (switches : List Switch) : List Text → Except Fault (List Token)
  | [] => .ok []
  | s :: arguments =>
    if s = endOfSwitches then .ok (.separator :: arguments.map .operand)
    else
      match Token.ofText switches s with
      | .error f => .error f
      | .ok token => (tokens switches arguments).map (token :: ·)

/-! ### Options without a value -/

/-- Whether an option without a value may be carried out.  Its short name may be followed by the
letters of other short names; any other value is one too many. -/
def checkFlag (switches : List Switch) (s : Switch) (name : Text) : Option Text → Except Fault Unit
  | none => .ok ()
  | some [] => .error (.needlessValue s [])
  | some (c :: value) =>
    if name.length = 2 then
      match ofName? switches ['-', c] with
      | some next =>
        match value with
        | [] => .ok ()
        | d :: value => checkFlag switches next ['-', c] (some (d :: value))
      | none => .error (.needlessValue s (c :: value))
    else .error (.needlessValue s (c :: value))

/-- What an option without a value asks for. -/
def flag (place : Place) (switches : List Switch) (s : Switch) (name : Text)
    (value : Option Text) : Instead :=
  match checkFlag switches s name value with
  | .error f => .fault place f
  | .ok () => if s = .version then .version else .help place

/-! ### What follows a command -/

/-- How far the operands of a command have been read. -/
inductive Progress where
  /-- There has been none. -/
  | awaiting
  /-- The last argument was one. -/
  | reading
  /-- There can be no more of them. -/
  | done
  deriving DecidableEq, Inhabited

/-- Something else than an operand interrupts the operands. -/
def Progress.interrupt : Progress → Progress
  | .awaiting => .awaiting
  | _ => .done

/-- What has been read of the arguments of a command. -/
structure Arguments where
  /-- How far the operands have been read. -/
  progress : Progress := .awaiting
  /-- The operands. -/
  operands : List Text := []
  /-- The indentation. -/
  indentation : Option Indentation := none
  /-- What fits nowhere. -/
  leftOver : List Text := []
  deriving DecidableEq, Inhabited

namespace Arguments

/-- Take in an argument that is no option. -/
def addOperand (c : CommandName) (a : Arguments) (s : Text) : Arguments :=
  if a.progress = .awaiting ∨ (a.progress = .reading ∧ c.takesMany) then
    { a with progress := .reading, operands := a.operands ++ [s] }
  else { a with progress := .done, leftOver := a.leftOver ++ [s] }

/-- Take in the end of the options; `last` says whether nothing comes after it. -/
def addSeparator (a : Arguments) (last : Bool) : Arguments :=
  if a.progress = .done ∨ (a.progress = .awaiting ∧ last) then
    { a with leftOver := a.leftOver ++ [endOfSwitches] }
  else a

/-- Take in something that looks like an option, but is none. -/
def addUnknown (a : Arguments) (s : Text) : Arguments :=
  { a with progress := a.progress.interrupt, leftOver := a.leftOver ++ [s] }

/-- Take in the value of the indentation. -/
def addIndentation (a : Arguments) (value : Text) : Except Fault Arguments :=
  let set (i : Indentation) : Arguments :=
    { a with progress := a.progress.interrupt, indentation := some i }
  if value = endOfSwitches then .ok (set .missing)
  else
    match Numeral.anyScript? value with
    | some n => .ok (set (.spaces n))
    | none => .error (.noInteger .indent value)

/-- Take in the tokens of what follows a command. -/
def addTokens (c : CommandName) (a : Arguments) : List Token → Except Instead Arguments
  | [] => .ok a
  | .operand s :: rest => addTokens c (a.addOperand c s) rest
  | .separator :: rest => addTokens c (a.addSeparator rest.isEmpty) rest
  | .unknown s :: rest => addTokens c (a.addUnknown s) rest
  | .switch .indent _ (some value) :: rest =>
    match a.addIndentation value with
    | .ok a => addTokens c a rest
    | .error f => .error (.fault (.command c) f)
  | .switch .indent _ none :: .operand value :: rest =>
    match a.addIndentation value with
    | .ok a => addTokens c a rest
    | .error f => .error (.fault (.command c) f)
  | .switch .indent _ none :: _ => .error (.fault (.command c) (.noValue .indent))
  | .switch s name value :: _ => .error (flag (.command c) c.switches s name value)

end Arguments

/-- The command of a name and its arguments; `before` is what was left over before its name. -/
def commandOf (c : CommandName) (before arguments : List Text) : Except Instead Command :=
  match tokens c.switches arguments with
  | .error f => .error (.fault (.command c) f)
  | .ok tokens =>
    match Arguments.addTokens c {} tokens with
    | .error instead => .error instead
    | .ok a =>
      match a.operands with
      | [] => .error (.fault (.command c) (.missing c.operandTitle))
      | operand :: _ =>
        match before ++ a.leftOver with
        | [] =>
          match c with
          | .compile => .ok (.compile operand a.indentation)
          | .extract => .ok (.extract operand)
          | .compose => .ok (.compose a.operands a.indentation)
        | leftOver => .error (.fault .program (.leftOver leftOver))

/-- Look for the command in tokens and the arguments that they come from. -/
def findCommand (leftOver : List Text) : List (Token × Text) → Except Instead Command
  | [] => .error (.fault .program (.missing "command".toList))
  | (.unknown s, _) :: rest => findCommand (leftOver ++ [s]) rest
  | (.switch s name value, _) :: _ => .error (flag .program programSwitches s name value)
  | [(.separator, _)] => .error (.fault .program (.missing "command".toList))
  | (.separator, s) :: _ => .error (.fault .program (.noSuchCommand s))
  | (.operand name, _) :: rest =>
    match CommandName.ofWord? name with
    | some c => commandOf c leftOver (rest.map Prod.snd)
    | none => .error (.fault .program (.noSuchCommand name))

end CommandLine

/-- The command that arguments write, or what is to be done instead. -/
def Command.ofArguments (arguments : List Text) : Except CommandLine.Instead Command :=
  match CommandLine.tokens CommandLine.programSwitches arguments with
  | .error f => .error (.fault .program f)
  | .ok tokens => CommandLine.findCommand [] (tokens.zip arguments)

end Statechart
