import Polyglot.Language.Table
import Polyglot.Language.Extension
import Polyglot.Dispatch.Strategy

/-!
# Language modules

The finished description of one language: its names, its extensions, its dispatch
strategy and its versions, one of which is the default. A module is known by the
name of its language alone; sameness, hashing and order look at nothing else.
-/

namespace Polyglot

universe u

/-- One language with its versions. -/
structure LanguageModule (η : Type u) where
  table : VersionTable η
  extensions : List String
  strategy : Strategy
  /-- The ordinal of the default version. -/
  default : Nat
  default_lt : default < table.versions.length

namespace LanguageModule

variable {η : Type u}

def identity (m : LanguageModule η) : Identity := m.table.language

def name (m : LanguageModule η) : String := m.identity.name

def shortName (m : LanguageModule η) : String := m.identity.shortName

def terseName (m : LanguageModule η) : String := m.identity.terseName

/-- The versions in order of registration. -/
def versions (m : LanguageModule η) : List (Version η) := m.table.versions

def defaultVersion (m : LanguageModule η) : Version η :=
  m.table.versions.get ⟨m.default, m.default_lt⟩

/-- Whether the version is the same as the default version. -/
def isDefault (m : LanguageModule η) (v : Version η) : Bool := m.defaultVersion == v

/-- The version with the id or alias `key`. -/
def get? (m : LanguageModule η) (key : String) : Option (Version η) := m.table.get? key

def hasKey (m : LanguageModule η) (key : String) : Bool := m.table.hasKey key

/-- The keys of a version, ascending. -/
def keysOf (m : LanguageModule η) (v : Version η) : List String := m.table.keysOf v

/-- The keys of a version other than its id, ascending. -/
def aliasesOf (m : LanguageModule η) (v : Version η) : List String := m.table.aliasesOf v

/-- Whether the language has the extension, given with or without its dot. -/
def hasExtension (m : LanguageModule η) (e : String) : Bool := Extension.known m.extensions e

def display (m : LanguageModule η) : String := "LanguageModule:" ++ m.name

def outline (m : LanguageModule η) : Text.Outline :=
  .record "LanguageModule"
    [("name", .text m.name), ("terse_name", .text m.terseName),
      ("extensions", .list (m.extensions.map .text)),
      ("versions", .list (m.versions.map Version.outline)),
      ("default", .text m.defaultVersion.id)]
    false

/-! ## Sameness and order -/

instance : BEq (LanguageModule η) where
  beq m n := m.name == n.name

instance : Hashable (LanguageModule η) where
  hash m := hash m.name

instance : Ord (LanguageModule η) where
  compare m n := compare m.name n.name

/-- The default version is one of the versions. -/
theorem defaultVersion_mem (m : LanguageModule η) : m.defaultVersion ∈ m.versions :=
  List.get_mem _ _

end LanguageModule

end Polyglot
