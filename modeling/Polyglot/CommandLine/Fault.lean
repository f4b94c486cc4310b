import Polyglot.Catalog.Yaml
import Polyglot.Files.Expression
import Polyglot.Text.Quoted

/-!
# Faults of a run

Why a run ends without a page, what is then said, and how the run counts as a whole.

- `RunFault.message`: the complaint, in one or two lines.
- `RunFault.status`: what was not found is told apart from what failed.
-/

namespace Polyglot

/-- Why a run ends without a page. -/
inductive RunFault where
  | unknownFormat (format : String)
  | invalidPattern (pattern : String) (cause : Glob.Fault)
  | deepPattern (cause : Glob.DepthFault)
  | inaccessible (path : String) (cause : FileFault)
  | catalog (cause : CatalogFault)
  /-- The command that shows a language does not know it. -/
  | noLanguageToShow (name : String)
  /-- The command that resolves a version does not know its language. -/
  | noLanguageToResolve (name : String)
  | noVersion (language terseName key : String)

namespace RunFault

def message : RunFault → String
  | .unknownFormat format =>
    "Error: invalid format " ++ Text.quoted format ++ ", must be 'pretty' or 'json'"
  | .invalidPattern pattern cause =>
    "Error: invalid exclude pattern: error parsing glob '" ++ pattern ++ "': " ++ cause.message
  | .deepPattern cause => "Error: invalid exclude pattern: " ++ cause.message
  | .inaccessible path cause =>
    "Error: cannot access path " ++ Text.quoted path ++ ": " ++ cause.message
  | .catalog cause => cause.message
  | .noLanguageToShow name =>
    "Error: unknown language " ++ Text.quoted name
      ++ "\nRun 'langmod languages' to see available languages"
  | .noLanguageToResolve name => "Error: unknown language " ++ Text.quoted name
  | .noVersion language terseName key =>
    "Error: " ++ language ++ " has no version " ++ Text.quoted key
      ++ "\nRun 'langmod versions " ++ terseName ++ "' to see available versions"

end RunFault

/-- How a run ended. -/
inductive ExitStatus where
  | success
  | notFound
  | failure
deriving DecidableEq, Repr

def ExitStatus.code : ExitStatus → Nat
  | .success => 0
  | .notFound => 1
  | .failure => 2

/-- A language or version that does not exist is not found; every other fault is a failure. -/
def RunFault.status : RunFault → ExitStatus
  | .noLanguageToShow _ => .notFound
  | .noLanguageToResolve _ => .notFound
  | .noVersion .. => .notFound
  | _ => .failure

end Polyglot
