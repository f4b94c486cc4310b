import Polyglot.Catalog.Build

/-!
# Reports on languages

What is told about a language and its versions, as plain data with a JSON form.
Empty alias lists and absent descriptions are left out of the JSON form and come
back as such when it is read.

- `LanguageReport.ofModule`: the report on a module.
- `LanguageReport.toJson`, `LanguageReport.ofJson`: its JSON form.
-/

namespace Polyglot

/-- What is told about a version. -/
structure VersionReport where
  version : String
  name : String
  aliases : List String := []
  isDefault : Bool
  description? : Option String := none
deriving DecidableEq, Repr, Inhabited

/-- What is told about a language. -/
structure LanguageReport where
  name : String
  shortName : String
  terseName : String
  extensions : List String
  strategy : String
  defaultVersion : String
  versions : List VersionReport
deriving DecidableEq, Repr, Inhabited

/-- The report on a version of a module. -/
def VersionReport.ofVersion (m : LanguageModule VersionNote) (v : Version VersionNote) :
    VersionReport where
  version := v.id
  name := v.name
  aliases := m.aliasesOf v
  isDefault := m.isDefault v
  description? := v.handler.description?

/-- The report on a module. -/
def LanguageReport.ofModule (m : LanguageModule VersionNote) : LanguageReport where
  name := m.name
  shortName := m.shortName
  terseName := m.terseName
  extensions := m.extensions
  strategy := m.strategy.text
  defaultVersion := m.defaultVersion.id
  versions := m.versions.map (VersionReport.ofVersion m)

/-- The reports on all languages of a registry, in order of name. -/
def LanguageReport.ofRegistry (r : Registry VersionNote) : List LanguageReport :=
  r.modules.map LanguageReport.ofModule

/-! ## JSON -/

def VersionReport.toJson (v : VersionReport) : Json.Value :=
  .object <|
    [("version", .text v.version), ("name", .text v.name)]
      ++ (if v.aliases.isEmpty then [] else [("aliases", .ofTexts v.aliases)])
      ++ [("default", .boolean v.isDefault)]
      ++ match v.description? with
        | some d => [("description", .text d)]
        | none => []

def LanguageReport.toJson (l : LanguageReport) : Json.Value :=
  .object [("name", .text l.name), ("short_name", .text l.shortName),
    ("terse_name", .text l.terseName), ("extensions", .ofTexts l.extensions),
    ("dispatch", .text l.strategy), ("default_version", .text l.defaultVersion),
    ("versions", .array (l.versions.map VersionReport.toJson))]

section Reading

variable {σ : Type} {m : Type → Type} [Monad m]

def VersionReport.reader (f : Format σ m) : σ → m VersionReport :=
  f.record "JsonVersion"
    [.required "version" f.text fun v x => { v with version := x },
      .required "name" f.text fun v x => { v with name := x },
      .optionally "aliases" (f.list f.text) fun v x => { v with aliases := x },
      .required "default" f.boolean fun v x => { v with isDefault := x },
      .optionally "description" f.optionalText fun v x => { v with description? := x }]
    { version := "", name := "", isDefault := false }

def LanguageReport.reader (f : Format σ m) : σ → m LanguageReport :=
  f.record "JsonLanguage"
    [.required "name" f.text fun l x => { l with name := x },
      .required "short_name" f.text fun l x => { l with shortName := x },
      .required "terse_name" f.text fun l x => { l with terseName := x },
      .required "extensions" (f.list f.text) fun l x => { l with extensions := x },
      .required "dispatch" f.text fun l x => { l with strategy := x },
      .required "default_version" f.text fun l x => { l with defaultVersion := x },
      .required "versions" (f.list (VersionReport.reader f)) fun l x => { l with versions := x }]
    default

end Reading

def LanguageReport.ofJson (v : Json.Value) : Except Problem LanguageReport :=
  LanguageReport.reader Json.format v

/-- A list of reports, as one JSON array. -/
def LanguageReport.listToJson (ls : List LanguageReport) : Json.Value :=
  .array (ls.map LanguageReport.toJson)

def LanguageReport.listOfJson (v : Json.Value) : Except Problem (List LanguageReport) :=
  Json.format.list (LanguageReport.reader Json.format) v

end Polyglot
