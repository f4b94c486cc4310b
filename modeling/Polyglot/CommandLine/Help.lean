import Polyglot.CommandLine.Invocation

/-!
# Help

What is said instead of a page when the arguments ask for help, or when they cannot be
understood.

- `UsageFault.message`: what is wrong with the arguments.
- `Stop`: why reading the arguments ends without an invocation.
- `helpText`, `versionText`: the texts that can be asked for.
-/

namespace Polyglot

/-- What is wrong with the arguments. -/
inductive UsageFault where
  | noCommand
  | unknownCommand (word : String)
  | unknownOption (text : String)
  | missingValue (option : CommandOption)
  | needlessValue (option : CommandOption)
  | repeated (option : CommandOption)
  | emptyPath
  | needlessOperand (text : String)
  | missingOperand (command : CommandName)
deriving DecidableEq, Repr

def UsageFault.message : UsageFault → String
  | .noCommand => "a command is required"
  | .unknownCommand word => "there is no command '" ++ word ++ "'"
  | .unknownOption text => "there is no option '" ++ text ++ "' here"
  | .missingValue o => "option '--" ++ o.longName ++ "' needs a value"
  | .needlessValue o => "option '--" ++ o.longName ++ "' takes no value"
  | .repeated o => "option '--" ++ o.longName ++ "' is given twice"
  | .emptyPath => "a path is empty"
  | .needlessOperand text => "argument '" ++ text ++ "' is one too many"
  | .missingOperand .detect => "a path is required"
  | .missingOperand _ => "a language is required"

/-- Why reading the arguments ends early. -/
inductive Stop where
  | help
  | version
  | fault (f : UsageFault)
deriving DecidableEq, Repr

/-! ## Texts -/

/-- Name and version of the program. -/
def versionText : String := "langmod 0.1.0\n"

/-- What the commands are and what they take. -/
def helpText : String :=
  "Inspect language modules: versions, aliases, defaults and extensions\n\n"
    ++ "Usage: langmod [-v] COMMAND [OPTIONS]\n\n"
    ++ "Commands:\n"
    ++ "  languages (or ls)           List all known languages\n"
    ++ "  versions LANGUAGE           Show the versions of one language\n"
    ++ "  resolve LANGUAGE [VERSION]  Resolve a version id or alias, or the default version\n"
    ++ "  detect PATH                 Count files per language under a path\n"
    ++ "  help [COMMAND]              Print this text\n\n"
    ++ "Options:\n"
    ++ "  -c, --catalog PATH          A catalog of languages, as YAML\n"
    ++ "  -f, --format FORMAT         pretty (the default) or json\n"
    ++ "  -e, --exclude PATTERN       Paths for detect to skip; may be repeated\n"
    ++ "  -v, --verbose               Write down what happens\n"
    ++ "  -h, --help                  Print this text\n"
    ++ "  -V, --version               Print name and version, before a command only\n"

end Polyglot
