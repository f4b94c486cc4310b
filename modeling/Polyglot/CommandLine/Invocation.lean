/-!
# Invocations

What a command line asks for, once its arguments are understood.

- `CommandName`, `Setting`, `Switch`: the words that arguments are made of.
- `Invocation`: a command with everything it needs.
-/

namespace Polyglot

/-- The commands by name. -/
inductive CommandName where
  | languages
  | versions
  | resolve
  | detect
deriving DecidableEq, Repr

/-- Options that take a value. -/
inductive Setting where
  | catalog
  | format
  | exclude
deriving DecidableEq, Repr

/-- Options that take none. -/
inductive Switch where
  | verbose
  | help
  | version
deriving DecidableEq, Repr

/-- An option of either sort. -/
inductive CommandOption where
  | setting (s : Setting)
  | switch (s : Switch)
deriving DecidableEq, Repr

namespace CommandOption

/-- The name behind two dashes. -/
def longName : CommandOption → String
  | .setting .catalog => "catalog"
  | .setting .format => "format"
  | .setting .exclude => "exclude"
  | .switch .verbose => "verbose"
  | .switch .help => "help"
  | .switch .version => "version"

/-- The letter behind one dash. -/
def letter : CommandOption → Char
  | .setting .catalog => 'c'
  | .setting .format => 'f'
  | .setting .exclude => 'e'
  | .switch .verbose => 'v'
  | .switch .help => 'h'
  | .switch .version => 'V'

end CommandOption

namespace CommandName

/-- The command that a word names. -/
def ofWord? : String → Option CommandName
  | "languages" => some .languages
  | "ls" => some .languages
  | "versions" => some .versions
  | "resolve" => some .resolve
  | "detect" => some .detect
  | _ => none

/-- The options behind the name of a command. -/
def options : CommandName → List CommandOption
  | .detect =>
    [.setting .exclude, .setting .catalog, .setting .format, .switch .verbose, .switch .help]
  | _ => [.setting .catalog, .setting .format, .switch .verbose, .switch .help]

/-- The greatest number of operands. -/
def maxOperands : CommandName → Nat
  | .languages => 0
  | .versions => 1
  | .resolve => 2
  | .detect => 1

end CommandName

/-- A command and its operands. -/
inductive Command where
  | languages
  | versions (language : String)
  | resolve (language : String) (key? : Option String)
  | detect (path : String) (excludes : List String)
deriving DecidableEq, Repr

/-- All that a command line says. -/
structure Invocation where
  command : Command
  catalog? : Option String := none
  format : String := "pretty"
  verbose : Bool := false
deriving DecidableEq, Repr

end Polyglot
