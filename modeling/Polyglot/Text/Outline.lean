import Polyglot.Text.Quoted

/-!
# Outlines of values

The text that shows a value with its parts: records with named fields, lists and
sets, texts and numbers. An outline is written on one line or indented by four
blanks a level, with a comma after every part.

- `Outline.line`: the form on one line.
- `Outline.indented`: the form on many lines.
-/

namespace Polyglot.Text

/-- A value as it is shown. An open record hides some of its fields and ends in two dots. -/
inductive Outline where
  | text (s : String)
  | number (n : Nat)
  | list (items : List Outline)
  | set (items : List Outline)
  | record (name : String) (fields : List (String × Outline)) (isOpen : Bool)

namespace Outline

/-- The parts of a group between its brackets; nothing but the brackets when there are none. -/
def inBrackets (opening closing : String) (parts : List String) : String :=
  opening ++ ", ".intercalate parts ++ closing

/-- The fields of a record between braces. -/
def inBraces (name : String) : List String → String
  | [] => name
  | parts => name ++ " \x7b " ++ ", ".intercalate parts ++ " \x7d"

/-- The outline on one line. -/
def line : Outline → String
  | .text s => quoted s
  | .number n => toString n
  | .list items => inBrackets "[" "]" (lines items)
  | .set items => inBrackets "\x7b" "\x7d" (lines items)
  | .record name fields isOpen =>
    inBraces name (fieldLines fields ++ if isOpen then [".."] else [])
where
  lines : List Outline → List String
    | [] => []
    | o :: os => o.line :: lines os
  fieldLines : List (String × Outline) → List String
    | [] => []
    | (name, o) :: fs => (name ++ ": " ++ o.line) :: fieldLines fs

/-- The blanks in front of a line at a depth. -/
def margin (depth : Nat) : String := String.ofList (List.replicate (4 * depth) ' ')

/-- A group with each part on lines of its own. -/
def block (opening closing : String) (depth : Nat) (parts : List String) : String :=
  opening ++ "\n" ++ String.join (parts.map fun p => margin (depth + 1) ++ p ++ "\n")
    ++ margin depth ++ closing

/-- The outline over several lines, its first line at the depth already reached. -/
def indented (depth : Nat) : Outline → String
  | .text s => quoted s
  | .number n => toString n
  | .list [] => "[]"
  | .list items => block "[" "]" depth (parts (depth + 1) items)
  | .set [] => "\x7b\x7d"
  | .set items => block "\x7b" "\x7d" depth (parts (depth + 1) items)
  | .record name fields isOpen =>
    match fieldParts (depth + 1) fields, isOpen with
    | [], false => name
    | ps, false => block (name ++ " \x7b") "\x7d" depth ps
    | ps, true => block (name ++ " \x7b") "\x7d" depth (ps ++ [".."])
where
  parts (depth : Nat) : List Outline → List String
    | [] => []
    | o :: os => (o.indented depth ++ ",") :: parts depth os
  fieldParts (depth : Nat) : List (String × Outline) → List String
    | [] => []
    | (name, o) :: fs => (name ++ ": " ++ o.indented depth ++ ",") :: fieldParts depth fs

end Outline

end Polyglot.Text
