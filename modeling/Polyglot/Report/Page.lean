import Polyglot.Report.Language
import Polyglot.Report.Style
import Polyglot.Report.Summary
import Polyglot.Json.Printer

/-!
# Report pages

The texts that answer the commands: a table for a reader at a terminal, or indented
JSON.

- `Page.languages`: all languages of a registry.
- `Page.language`: the versions of one language.
- `Page.detection`: a summary of a scan.
- `Page.resolution`: a version that a language and a key were resolved to.
-/

namespace Polyglot

/-- The form of a page. -/
inductive PageFormat where
  | pretty
  | json
deriving DecidableEq, Repr

namespace Page

/-- A JSON page ends in a line break. -/
def jsonPage (v : Json.Value) : String := v.pretty ++ "\n"

/-! ## All languages -/

/-- The line of one language in the table of languages. -/
def languageRow (color : Bool) (m : LanguageModule VersionNote) : String :=
  let extensions := " ".intercalate (m.extensions.map ("." ++ ·))
  "  " ++ Style.cyan.paintTo color 20 m.name ++ " " ++ padRight 12 m.terseName
    ++ " default " ++ Style.green.paintTo color 8 m.defaultVersion.id
    ++ " " ++ Style.dimmed.paint color extensions ++ "\n"

/-- A table of languages. -/
def languageTable (color : Bool) (r : Registry VersionNote) : String :=
  Style.bold.paint color "Languages" ++ "\n\n"
    ++ String.join (r.modules.map (languageRow color))
    ++ "\n" ++ toString r.size ++ " languages\n"

/-- All languages of a registry. -/
def languages (format : PageFormat) (color : Bool) (r : Registry VersionNote) : String :=
  match format with
  | .pretty => languageTable color r
  | .json => jsonPage (LanguageReport.listToJson (LanguageReport.ofRegistry r))

/-! ## One language -/

/-- The sign in front of a version: a star for the default. -/
def marker (color : Bool) (m : LanguageModule VersionNote) (v : Version VersionNote) : String :=
  if m.isDefault v then Style.boldGreen.paint color "*" else Style.plain.paint color " "

/-- The line of one version. -/
def versionRow (color : Bool) (m : LanguageModule VersionNote) (v : Version VersionNote) :
    String :=
  let id := if v.id.isEmpty then "(unversioned)" else v.id
  let aliases := m.aliasesOf v
  let aliasText := if aliases.isEmpty then "" else "aliases: " ++ ", ".intercalate aliases
  "  " ++ marker color m v ++ " " ++ padRight 14 id ++ " " ++ Style.dimmed.paint color aliasText
    ++ (match v.handler.description? with
      | some d => "  " ++ d
      | none => "")
    ++ "\n"

/-- A table of versions. -/
def versionTable (color : Bool) (m : LanguageModule VersionNote) : String :=
  Style.bold.paint color m.name ++ " (" ++ m.terseName ++ "), dispatch: " ++ m.strategy.text
    ++ "\n\n" ++ String.join (m.versions.map (versionRow color m))

/-- The versions of one language. -/
def language (format : PageFormat) (color : Bool) (m : LanguageModule VersionNote) : String :=
  match format with
  | .pretty => versionTable color m
  | .json => jsonPage (LanguageReport.ofModule m).toJson

/-! ## Detection -/

/-- A table of counts. -/
def countTable (color : Bool) (s : DetectionSummary) : String :=
  (if s.byLanguage.isEmpty then Style.yellow.paint color "No recognized source files" ++ "\n"
    else String.join <| s.byLanguage.map fun (name, n) =>
      "  " ++ Style.cyan.paintTo color 20 name ++ " " ++ padLeft 6 (toString n) ++ "\n")
    ++ "\n" ++ toString s.filesScanned ++ " files scanned, " ++ toString s.unrecognized
    ++ " unrecognized\n"

/-- A summary of a scan. -/
def detection (format : PageFormat) (color : Bool) (s : DetectionSummary) : String :=
  match format with
  | .pretty => countTable color s
  | .json => jsonPage s.toJson

/-! ## One version -/

/-- A version that a language and a key were resolved to. -/
def resolution (format : PageFormat) (m : LanguageModule VersionNote) (v : Version VersionNote) :
    String :=
  match format with
  | .pretty => v.terseName ++ "\n"
  | .json =>
    jsonPage <| .object [("default", .boolean (m.isDefault v)), ("language", .text m.name),
      ("name", .text v.name), ("terse_name", .text v.terseName), ("version", .text v.id)]

end Page

end Polyglot
