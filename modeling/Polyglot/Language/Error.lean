/-!
# What a registry refuses

The causes for which a registration, a module or a language is turned away, and
the sentence that tells each.
-/

namespace Polyglot

/-- Why a registration, a module or a language was refused. -/
inductive RegistryError where
  /-- The key is taken, or stands twice in one registration. -/
  | duplicateKey (language key : String)
  /-- The language has a default version and a second one was offered. -/
  | defaultAlreadySet (language existing attempted : String)
  /-- A module was to be finished without a default version. -/
  | missingDefault (language : String)
  /-- A language of this name is in the registry. -/
  | duplicateLanguage (name : String)
deriving DecidableEq, Repr

/-- The cause as a sentence. -/
def RegistryError.message : RegistryError → String
  | .duplicateKey language key =>
    "version key '" ++ key ++ "' is duplicated in language " ++ language
  | .defaultAlreadySet language existing attempted =>
    "default version of " ++ language ++ " already set to " ++ existing
      ++ ", cannot set it to " ++ attempted
  | .missingDefault language => "language " ++ language ++ " has no default version"
  | .duplicateLanguage name => "language " ++ name ++ " is registered twice"

end Polyglot
