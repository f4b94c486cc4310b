import Polyglot.Catalog.Basic
import Polyglot.Files.Path
import Polyglot.Language.Error
import Polyglot.Yaml.Format

/-!
# Catalogs as YAML documents

A catalog is kept in a file, as a YAML document. The file may be out of reach or not be a
text, the text may not be a catalog, and the catalog may not give a registry; each of these
faults is told with its cause.

- `Catalog.ofYaml`: the catalog in a text.
- `Catalog.ofFile`: the catalog in the content of a file.
- `CatalogFault.message`: what is told of a fault.
-/

namespace Polyglot

/-- The catalog in a YAML text. An empty text is the catalog without languages. -/
def Catalog.ofYaml (text : String) : Except Yaml.Fault Catalog :=
  Yaml.read {} (Catalog.reader Yaml.format) text

/-- Why there is no registry. -/
inductive CatalogFault where
  | builtin (cause : RegistryError)
  | unreadable (path : String) (cause : FileFault)
  | invalid (path : String) (cause : Yaml.Fault)
  | rejected (cause : RegistryError)

def CatalogFault.message : CatalogFault → String
  | .builtin cause => "Error: " ++ cause.message
  | .unreadable path cause =>
    "Error loading catalog: cannot read catalog " ++ path ++ ": " ++ cause.message
  | .invalid path cause =>
    "Error loading catalog: invalid catalog " ++ path ++ ": " ++ cause.message
  | .rejected cause => "Error loading catalog: " ++ cause.message

/-- The catalog in what was read of a file; `path` is where it was looked for. -/
def Catalog.ofFile (path : String) (content : Except FileFault (List UInt8)) :
    Except CatalogFault Catalog :=
  match content with
  | .error cause => .error (.unreadable path cause)
  | .ok bytes =>
    match String.fromUTF8? ⟨bytes.toArray⟩ with
    | none => .error (.unreadable path .notText)
    | some text => (ofYaml text).mapError (.invalid path)

end Polyglot
