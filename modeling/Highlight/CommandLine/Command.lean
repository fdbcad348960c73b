import Highlight.CommandLine.Arguments
import Highlight.Text.Quoted

namespace Highlight

namespace CommandLine

inductive MainOption
  | version
  | verbose
  | help
  deriving DecidableEq, Repr

inductive CatOption
  | grammar
  | style
  | lineNumbers
  | lineEndings
  | jobs
  | colour
  | noColour
  | help
  deriving DecidableEq, Repr

inductive CheckOption
  | help
  deriving DecidableEq, Repr

def mainOptions : Options MainOption where
  names := [("--version", .version), ("--verbose", .verbose), ("-v", .verbose), ("--help", .help)]
  takesValue _ := false

def catOptions : Options CatOption where
  names := [("--grammar", .grammar), ("-g", .grammar), ("--style", .style), ("-s", .style),
    ("--line-numbers", .lineNumbers), ("-n", .lineNumbers), ("--line-endings", .lineEndings),
    ("-e", .lineEndings), ("--jobs", .jobs), ("-j", .jobs), ("--color", .colour),
    ("--no-color", .noColour), ("--help", .help)]
  takesValue
    | .grammar | .style | .jobs => true
    | _ => false

def checkOptions : Options CheckOption where
  names := [("--help", .help)]
  takesValue _ := false

inductive Command
  | main
  | cat
  | check
  deriving DecidableEq, Repr

namespace Command

def call : Command → String
  | main => "cli"
  | cat => "cli cat"
  | check => "cli check"

def usage : Command → String
  | main => "Usage: cli [OPTIONS] COMMAND [ARGS]...\n"
  | cat => "Usage: cli cat [OPTIONS] FILES...\n"
  | check => "Usage: cli check [OPTIONS] STYLESHEET\n"

def lines (ls : List String) : String :=
  String.join (ls.map (· ++ "\n"))

def help (c : Command) : String :=
  c.usage ++ match c with
    | main => lines [
      "",
      "  syncat - stylesheet-driven syntax highlighting for source files.",
      "",
      "Options:",
      "  --version      Show the version and exit.",
      "  -v, --verbose  Log debug output to stderr",
      "  --help         Show this message and exit.",
      "",
      "Commands:",
      "  cat    Print FILES with syntax highlighting.",
      "  check  Load and lint a stylesheet file."]
    | cat => lines [
      "",
      "  Print FILES with syntax highlighting.",
      "",
      "  Each file is parsed with --grammar (or the grammar configured for its",
      "  extension) and styled with --style (or the active stylesheet for its",
      "  extension). Stylesheets are loaded and checked before anything is printed.",
      "",
      "Options:",
      "  -g, --grammar FILE        Lark grammar used to parse the files",
      "  -s, --style FILE          Stylesheet to apply",
      "  -n, --line-numbers        Show line numbers",
      "  -e, --line-endings        Mark the end of every line",
      "  -j, --jobs INTEGER RANGE  Files to style in parallel  [x>=1]",
      "  --color / --no-color      Force or disable colour output",
      "  --help                    Show this message and exit."]
    | check => lines [
      "",
      "  Load and lint a stylesheet file.",
      "",
      "  Prints diagnostics (errors, warnings, info) and exits with code 0 if no errors",
      "  are found, or code 1 if there are errors.",
      "",
      "Options:",
      "  --help  Show this message and exit."]

end Command

def version : String := "syncat, version 0.1.0\n"

inductive Misuse
  | fault (f : Fault)
  | missingCommand
  | noSuchCommand (name : String) (similar : List String)
  | missingArgument (shown : String)
  | extraArguments (args : List String)
  | noSuchFile (parameter file : String)
  | isDirectory (parameter file : String)
  | notNumber (parameter value : String)
  | tooSmall (parameter : String) (value : Int)
  deriving DecidableEq, Repr

namespace Misuse

def invalid (parameter : String) : String :=
  "Invalid value for " ++ parameter ++ ": "

def hint : List String → String
  | [] => ""
  | [name] => " Did you mean " ++ Text.quoted name ++ "?"
  | names => " (Did you mean one of: " ++ ", ".intercalate (names.map Text.quoted) ++ "?)"

def message : Misuse → String
  | fault (.noSuchOption name similar) =>
    "No such option " ++ Text.quoted name ++ "." ++ hint similar
  | fault (.needsArgument name) => "Option " ++ Text.quoted name ++ " requires an argument."
  | fault (.takesNoValue name) => "Option " ++ Text.quoted name ++ " does not take a value."
  | missingCommand => "Missing command."
  | noSuchCommand name similar =>
    "No such command " ++ Text.quoted name ++ "." ++ hint similar
  | missingArgument shown => "Missing argument '" ++ shown ++ "'."
  | extraArguments args =>
    "Got unexpected extra argument" ++ (if args.length = 1 then "" else "s") ++ " (" ++
      " ".intercalate args ++ ")"
  | noSuchFile p file => invalid p ++ "File " ++ Text.quoted file ++ " does not exist."
  | isDirectory p file => invalid p ++ "File " ++ Text.quoted file ++ " is a directory."
  | notNumber p value => invalid p ++ Text.quoted value ++ " is not a valid integer range."
  | tooSmall p value => invalid p ++ toString value ++ " is not in the range x>=1."

-- Whether the message says how to call the command. A value that an option lacks or has in excess
-- says enough by itself.
def showsUsage : Misuse → Bool
  | fault (.needsArgument _) | fault (.takesNoValue _) => false
  | _ => true

def report (m : Misuse) (c : Command) : String :=
  (if m.showsUsage then c.usage ++ "Try '" ++ c.call ++ " --help' for help.\n\n" else "") ++
    "Error: " ++ m.message ++ "\n"

end Misuse

end CommandLine

end Highlight
