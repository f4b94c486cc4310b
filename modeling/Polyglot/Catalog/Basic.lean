import Polyglot.Decode.Format
import Polyglot.Dispatch.Strategy
import Polyglot.Json.Format

/-!
# Catalogs

A catalog lists languages with their versions, as the plain data from which modules
are built. It is read from any format and written as JSON.

- `Catalog.reader`: how a catalog is read, whatever the format.
- `Catalog.toJson`: the JSON form, with every field written out.
-/

namespace Polyglot

/-- A version in a catalog. -/
structure VersionEntry where
  version : String
  aliases : List String := []
  isDefault : Bool := false
  description? : Option String := none
deriving DecidableEq, Repr, Inhabited

/-- A language in a catalog. -/
structure LanguageEntry where
  name : String
  shortName? : Option String := none
  terseName : String
  extensions : List String := []
  strategy : Strategy := .baseline
  versions : List VersionEntry := []
deriving DecidableEq, Repr, Inhabited

/-- Languages, in the order of the document. -/
structure Catalog where
  languages : List LanguageEntry := []
deriving DecidableEq, Repr, Inhabited

/-! ## Reading -/

section Reading

variable {σ : Type} {m : Type → Type} [Monad m]

/-- The written forms of the strategies. -/
def Strategy.reader (f : Format σ m) : σ → m Strategy :=
  f.choice [(Strategy.baseline.text, .baseline), (Strategy.kindIndexed.text, .kindIndexed)]

def VersionEntry.reader (f : Format σ m) : σ → m VersionEntry :=
  f.record "VersionEntry"
    [.required "version" f.text fun e v => { e with version := v },
      .optionally "aliases" (f.list f.text) fun e v => { e with aliases := v },
      .optionally "default" f.boolean fun e v => { e with isDefault := v },
      .optionally "description" f.optionalText fun e v => { e with description? := v }]
    { version := "" }

def LanguageEntry.reader (f : Format σ m) : σ → m LanguageEntry :=
  f.record "LanguageEntry"
    [.required "name" f.text fun e v => { e with name := v },
      .optionally "short_name" f.optionalText fun e v => { e with shortName? := v },
      .required "terse_name" f.text fun e v => { e with terseName := v },
      .optionally "extensions" (f.list f.text) fun e v => { e with extensions := v },
      .optionally "dispatch" (Strategy.reader f) fun e v => { e with strategy := v },
      .optionally "versions" (f.list (VersionEntry.reader f)) fun e v => { e with versions := v }]
    { name := "", terseName := "" }

def Catalog.reader (f : Format σ m) : σ → m Catalog :=
  f.record "LanguageCatalog"
    [.optionally "languages" (f.list (LanguageEntry.reader f)) fun c v => { c with languages := v }]
    {}

end Reading

/-! ## JSON -/

def VersionEntry.toJson (e : VersionEntry) : Json.Value :=
  .object [("version", .text e.version), ("aliases", .ofTexts e.aliases),
    ("default", .boolean e.isDefault), ("description", .textOrNull e.description?)]

def LanguageEntry.toJson (e : LanguageEntry) : Json.Value :=
  .object [("name", .text e.name), ("short_name", .textOrNull e.shortName?),
    ("terse_name", .text e.terseName), ("extensions", .ofTexts e.extensions),
    ("dispatch", .text e.strategy.text),
    ("versions", .array (e.versions.map VersionEntry.toJson))]

def Catalog.toJson (c : Catalog) : Json.Value :=
  .object [("languages", .array (c.languages.map LanguageEntry.toJson))]

def Catalog.ofJson (v : Json.Value) : Except Problem Catalog := Catalog.reader Json.format v

end Polyglot
