import Polyglot.Decimal.Shortest
import Polyglot.Json.Value
import Polyglot.Text.Quoted

/-!
# Writing JSON

`Value.pretty` puts every element on a line of its own, indented by two blanks a
level. `Value.compact` writes no blanks and nothing but ASCII.
-/

namespace Polyglot.Json

/-- A character by its number, in two surrogates if it needs more than sixteen bits. -/
def escapeByNumber (c : Char) : String :=
  let n := c.toNat
  if n < 0x10000 then "\\u" ++ Text.hexadecimal 4 n
  else
    "\\u" ++ Text.hexadecimal 4 (0xD800 + (n - 0x10000) / 0x400)
      ++ "\\u" ++ Text.hexadecimal 4 (0xDC00 + (n - 0x10000) % 0x400)

/-- One character of a string; `ascii` escapes all others than ASCII. -/
def escape (ascii : Bool) (c : Char) : String :=
  if c = '"' then "\\\""
  else if c = '\\' then "\\\\"
  else if c = '\x08' then "\\b"
  else if c = '\x0C' then "\\f"
  else if c = '\n' then "\\n"
  else if c = '\r' then "\\r"
  else if c = '\t' then "\\t"
  else if c.toNat < 0x20 || (ascii && 0x7F ≤ c.toNat) then escapeByNumber c
  else c.toString

/-- A string in quotes. -/
def stringText (ascii : Bool) (s : String) : String :=
  "\"" ++ String.join (s.toList.map (escape ascii)) ++ "\""

namespace Value

/-- The text without blanks, in ASCII. -/
def compact : Value → String
  | .null => "null"
  | .boolean b => toString b
  | .integer n => toString n
  | .float x => Decimal.text .mixed x
  | .text s => stringText true s
  | .array vs => "[" ++ ",".intercalate (items vs) ++ "]"
  | .object fs => "\x7b" ++ ",".intercalate (fields fs) ++ "\x7d"
where
  items : List Value → List String
    | [] => []
    | v :: vs => v.compact :: items vs
  fields : List (String × Value) → List String
    | [] => []
    | (name, v) :: fs => (stringText true name ++ ":" ++ v.compact) :: fields fs

/-- A line break and the indentation of a level. -/
def newLine (level : Nat) : String := "\n" ++ String.ofList (List.replicate (2 * level) ' ')

/-- Elements between brackets, each on a line of its own; empty brackets stay together. -/
def group (opening closing : String) (level : Nat) : List String → String
  | [] => opening ++ closing
  | parts =>
    opening ++ newLine (level + 1) ++ ("," ++ newLine (level + 1)).intercalate parts
      ++ newLine level ++ closing

/-- The indented text, from a level on. -/
def prettyAt (level : Nat) : Value → String
  | .null => "null"
  | .boolean b => toString b
  | .integer n => toString n
  | .float x => Decimal.text .mixed x
  | .text s => stringText false s
  | .array vs => group "[" "]" level (items (level + 1) vs)
  | .object fs => group "\x7b" "\x7d" level (fields (level + 1) fs)
where
  items (level : Nat) : List Value → List String
    | [] => []
    | v :: vs => v.prettyAt level :: items level vs
  fields (level : Nat) : List (String × Value) → List String
    | [] => []
    | (name, v) :: fs => (stringText false name ++ ": " ++ v.prettyAt level) :: fields level fs

/-- The indented text. -/
def pretty (v : Value) : String := v.prettyAt 0

end Value

end Polyglot.Json
