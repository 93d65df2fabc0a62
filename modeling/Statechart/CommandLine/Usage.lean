import Statechart.CommandLine.Grammar

/-!
# Usage and help

The texts that the command line shows about itself, for a terminal of eighty columns: the usage
that goes before a fault, and the help texts.
-/

namespace Statechart.CommandLine

/-- The name of the program. -/
def programName : Text := "mermaid-workflow".toList

/-- The version. -/
def version : Text := "0.1.0".toList

/-- The line that shows the version. -/
def versionLine : Text := programName ++ ' ' :: version ++ ['\n']

/-- Lines, each with a line feed at its end. -/
def unlines (lines : List String) : Text := lines.flatMap fun l => l.toList ++ ['\n']

/-- What stands for the choice of a command. -/
def choices : Text := '\x7b' :: joined "," (CommandName.all.map CommandName.word) ++ ['\x7d']

/-- How a part of the command line is called. -/
def Place.title : Place → Text
  | .program => programName
  | .command c => programName ++ ' ' :: c.word

/-- What may follow the name of a part. -/
def Place.form : Place → Text
  | .program => "[-h] [--version] ".toList ++ choices ++ " ...".toList
  | .command .compile => "[-h] [--indent INDENT] path".toList
  | .command .extract => "[-h] path".toList
  | .command .compose =>
    "[-h] [--indent INDENT]\n".toList ++ List.replicate 32 ' ' ++
      "NAME=PATH [NAME=PATH ...]".toList

/-- The usage of a part. -/
def Place.usage (p : Place) : Text :=
  "usage: ".toList ++ p.title ++ ' ' :: p.form ++ ['\n']

/-- What the help text says about a part, after its usage. -/
def Place.details : Place → Text
  | .program =>
    unlines
        ["Compile Mermaid state diagrams embedded in Markdown into workflow machines", "",
          "positional arguments:"] ++
      ' ' :: ' ' :: choices ++ '\n' ::
      unlines
        ["    compile             Print the workflow descriptor of a Markdown document",
          "                        as JSON",
          "    extract             Print the raw Mermaid diagram embedded in a Markdown",
          "                        document",
          "    compose             Compose several Markdown workflows into one parallel",
          "                        workflow",
          "",
          "options:",
          "  -h, --help            show this help message and exit",
          "  --version             show program's version number and exit"]
  | .command .compile =>
    unlines
      ["positional arguments:",
        "  path             Markdown file to read ('-' for stdin)",
        "",
        "options:",
        "  -h, --help       show this help message and exit",
        "  --indent INDENT  JSON indentation (defaults to MERMAID_WORKFLOW_JSON_INDENT)"]
  | .command .extract =>
    unlines
      ["positional arguments:",
        "  path        Markdown file to read ('-' for stdin)",
        "",
        "options:",
        "  -h, --help  show this help message and exit"]
  | .command .compose =>
    unlines
      ["positional arguments:",
        "  NAME=PATH        Region name and the Markdown file describing it",
        "",
        "options:",
        "  -h, --help       show this help message and exit",
        "  --indent INDENT  JSON indentation (defaults to MERMAID_WORKFLOW_JSON_INDENT)"]

/-- The help text of a part. -/
def Place.help (p : Place) : Text := p.usage ++ '\n' :: p.details

/-- What is reported about a fault: the usage of the part where it lies, and its message. -/
def Fault.report (f : Fault) (p : Place) : Text :=
  p.usage ++ p.title ++ ": error: ".toList ++ f.message ++ ['\n']

end Statechart.CommandLine
