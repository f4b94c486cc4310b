import Polyglot.CommandLine.Help

/-!
# Reading arguments

Arguments are read from left to right and the first thing that stops the reading
decides, be it a fault or the wish for help. An option stands before the command or
behind it; its value follows it as the next argument, behind an equals sign, or, if the
option is a letter, right behind the letter. Letters may share a dash.

- `Invocation.ofArguments`: read all arguments.
-/

namespace Polyglot

/-- What was read before the command or behind it; excludes and operands are kept last first. -/
structure ArgumentDraft where
  command? : Option CommandName
  verbose : Bool := false
  catalog? : Option String := none
  format? : Option String := none
  excludes : List String := []
  operands : List String := []
deriving Repr

namespace ArgumentDraft

/-- The options at this place. -/
def options (d : ArgumentDraft) : List CommandOption :=
  match d.command? with
  | none => [.switch .verbose, .switch .help, .switch .version]
  | some c => c.options

/-- Turn a switch. -/
def turn (d : ArgumentDraft) : Switch → Except Stop ArgumentDraft
  | .verbose =>
    if d.verbose then .error (.fault (.repeated (.switch .verbose)))
    else .ok { d with verbose := true }
  | .help => .error .help
  | .version => .error .version

/-- Give a setting its value. Only excludes may be given several times. -/
def assign (d : ArgumentDraft) (value : String) : Setting → Except Stop ArgumentDraft
  | .catalog =>
    if value.isEmpty then .error (.fault .emptyPath)
    else if d.catalog?.isSome then .error (.fault (.repeated (.setting .catalog)))
    else .ok { d with catalog? := some value }
  | .format =>
    if d.format?.isSome then .error (.fault (.repeated (.setting .format)))
    else .ok { d with format? := some value }
  | .exclude => .ok { d with excludes := value :: d.excludes }

/-- Take an operand. -/
def operand (d : ArgumentDraft) (word : String) : Except Stop ArgumentDraft :=
  match d.command? with
  | none => .error (.fault (.unknownCommand word))
  | some c =>
    if c.maxOperands ≤ d.operands.length then .error (.fault (.needlessOperand word))
    else if c = .detect && word.isEmpty then .error (.fault .emptyPath)
    else .ok { d with operands := word :: d.operands }

/-! ## Options -/

/-- What stands behind two dashes. A setting without its value is handed back. -/
def long (d : ArgumentDraft) (text : List Char) : Except Stop (ArgumentDraft × Option Setting) :=
  let name := String.ofList (text.takeWhile (· != '='))
  let value? := (text.dropWhile (· != '=')).tail?.map String.ofList
  match d.options.find? (·.longName == name), value? with
  | none, _ => .error (.fault (.unknownOption ("--" ++ name)))
  | some (.switch s), none => (d.turn s).map (·, none)
  | some (.switch s), some _ => .error (.fault (.needlessValue (.switch s)))
  | some (.setting s), none => .ok (d, some s)
  | some (.setting s), some value => (d.assign value s).map (·, none)

/-- Letters behind one dash, up to the first setting; what is left of the argument is its value.
A setting without its value is handed back. -/
def letters (d : ArgumentDraft) : List Char → Except Stop (ArgumentDraft × Option Setting)
  | [] => .ok (d, none)
  | c :: cs =>
    match d.options.find? (·.letter == c) with
    | none => .error (.fault (.unknownOption ("-" ++ c.toString)))
    | some (.switch s) =>
      match d.turn s with
      | .ok d => d.letters cs
      | .error e => .error e
    | some (.setting s) =>
      match cs with
      | [] => .ok (d, some s)
      | '=' :: value => (d.assign (String.ofList value) s).map (·, none)
      | value => (d.assign (String.ofList value) s).map (·, none)

/-- Whether an argument is an option: it has a dash and more. -/
def isOption (word : String) : Bool :=
  match word.toList with
  | '-' :: _ :: _ => true
  | _ => false

/-- An argument that is an option. -/
def option (d : ArgumentDraft) (word : String) : Except Stop (ArgumentDraft × Option Setting) :=
  match word.toList with
  | '-' :: '-' :: text => d.long text
  | '-' :: text => d.letters text
  | _ => .ok (d, none)

/-! ## All arguments -/

/-- The arguments behind a command. Behind two dashes alone all are operands. -/
def readAll (d : ArgumentDraft) : List String → Except Stop ArgumentDraft
  | [] => .ok d
  | word :: words =>
    if word = "--" then words.foldlM operand d
    else if isOption word then
      match d.option word with
      | .error e => .error e
      | .ok (d, none) => d.readAll words
      | .ok (d, some s) =>
        match words with
        | [] => .error (.fault (.missingValue (.setting s)))
        | value :: words =>
          if isOption value then .error (.fault (.missingValue (.setting s)))
          else
            match d.assign value s with
            | .ok d => d.readAll words
            | .error e => .error e
    else
      match d.operand word with
      | .ok d => d.readAll words
      | .error e => .error e

/-- The command with its operands. -/
def command (d : ArgumentDraft) : Except Stop Command :=
  match d.command?, d.operands.reverse with
  | none, _ => .error (.fault .noCommand)
  | some .languages, _ => .ok .languages
  | some .versions, language :: _ => .ok (.versions language)
  | some .resolve, language :: keys => .ok (.resolve language keys.head?)
  | some .detect, path :: _ => .ok (.detect path d.excludes.reverse)
  | some c, [] => .error (.fault (.missingOperand c))

/-- The invocation; `verbose` tells of the switch before the command. -/
def finish (d : ArgumentDraft) (verbose : Bool) : Except Stop Invocation :=
  d.command.map fun c => ⟨c, d.catalog?, d.format?.getD "pretty", verbose || d.verbose⟩

end ArgumentDraft

namespace Invocation

/-- What the arguments behind `help` lead to: one of them may name a command. -/
def helpStop : List String → Stop
  | [] => .help
  | word :: words =>
    if word ≠ "help" && (CommandName.ofWord? word).isNone then .fault (.unknownCommand word)
    else
      match words with
      | [] => .help
      | word :: _ => .fault (.unknownCommand word)

/-- Read arguments from before the command on. -/
def readFrom (d : ArgumentDraft) : List String → Except Stop Invocation
  | [] => .error (.fault .noCommand)
  | word :: words =>
    if ArgumentDraft.isOption word then
      match d.option word with
      | .ok (d, _) => readFrom d words
      | .error e => .error e
    else if word = "help" then .error (helpStop words)
    else
      match CommandName.ofWord? word with
      | none => .error (.fault (.unknownCommand word))
      | some c =>
        match ArgumentDraft.readAll { command? := some c } words with
        | .ok behind => behind.finish d.verbose
        | .error e => .error e

/-- The invocation that the arguments stand for. -/
def ofArguments (words : List String) : Except Stop Invocation :=
  readFrom { command? := none } words

end Invocation

end Polyglot
