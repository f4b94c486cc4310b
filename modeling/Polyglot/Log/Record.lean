import Polyglot.Log.Event
import Polyglot.Text.Quoted

/-!
# Log records

The record of an event: its level, the part of the program it comes from, its
message and its fields, and the line on which a record is written.
-/

namespace Polyglot

/-- How much an event matters. -/
inductive LogLevel where
  | trace
  | debug
  | info
  | warn
  | error
deriving DecidableEq, Repr

namespace LogLevel

def name : LogLevel → String
  | .trace => "trace"
  | .debug => "debug"
  | .info => "info"
  | .warn => "warn"
  | .error => "error"

/-- The name as it stands in a line. -/
def label : LogLevel → String
  | .trace => "TRACE"
  | .debug => "DEBUG"
  | .info => "INFO"
  | .warn => "WARN"
  | .error => "ERROR"

/-- Place in the order of levels. -/
def rank : LogLevel → Nat
  | .trace => 0
  | .debug => 1
  | .info => 2
  | .warn => 3
  | .error => 4

end LogLevel

/-- The value of a field: a text that is written as it is, one that is quoted in a line, a
number or a truth value. -/
inductive FieldValue where
  | bare (s : String)
  | text (s : String)
  | number (n : Nat)
  | boolean (b : Bool)
deriving DecidableEq, Repr

/-- The value in a line. -/
def FieldValue.line : FieldValue → String
  | .bare s => s
  | .text s => Text.quoted s
  | .number n => toString n
  | .boolean b => toString b

/-- An event as it is written down. -/
structure LogRecord where
  level : LogLevel
  target : String
  message : String
  fields : List (String × FieldValue)
deriving DecidableEq, Repr

/-- Level, target, message and fields on one line. -/
def LogRecord.line (r : LogRecord) : String :=
  r.level.label ++ " " ++ r.target ++ ": " ++ r.message
    ++ String.join (r.fields.map fun (name, v) => " " ++ name ++ "=" ++ v.line)

/-- The record of an event. -/
def Event.record : Event → LogRecord
  | .versionRejected language version cause =>
    ⟨.warn, "langmod::language::module", "rejected version registration",
      [("language", .bare language), ("version", .text version), ("error", .bare cause.message)]⟩
  | .versionRegistered language version aliases isDefault =>
    ⟨.debug, "langmod::language::module", "registered language version",
      [("language", .bare language), ("version", .text version),
        ("aliases", .bare (Text.quotedList aliases)), ("default", .boolean isDefault)]⟩
  | .moduleReady language versions default =>
    ⟨.info, "langmod::language::module", "language module ready",
      [("language", .bare language), ("versions", .number versions), ("default", .text default)]⟩
  | .languageAdded language =>
    ⟨.debug, "langmod::language::registry", "added language to registry",
      [("language", .text language)]⟩
  | .catalogLoading path =>
    ⟨.debug, "langmod::cli", "loading catalog", [("path", .bare path)]⟩
  | .catalogLoaded languages =>
    ⟨.info, "langmod::catalog", "language catalog loaded", [("languages", .number languages)]⟩
  | .ruleDispatched rule candidates =>
    ⟨.trace, "langmod::dispatch", "dispatching rule",
      [("rule", .text rule), ("nodes", .number candidates)]⟩
  | .nodesNotIndexed indexed nodes =>
    ⟨.warn, "langmod::dispatch::indexed", "candidates requested for nodes that were not indexed",
      [("indexed", .number indexed), ("nodes", .number nodes)]⟩

/-- The lines of the events of at least the given level. -/
def logLines (least : LogLevel) (events : List Event) : List String :=
  ((events.map Event.record).filter fun r => least.rank ≤ r.level.rank).map LogRecord.line

end Polyglot
