import Polyglot.Text.Unprintable

/-!
# Digits and quoted text

Numbers written by digits to a base of at most sixteen, and a text between double quotes, with the
quote, the backslash and the common controls escaped by a letter and every other character without
a glyph shown by its number, as in `\u{301}`. This is the form in which names appear in messages
and in outlines of values.

- `hexadecimal`: the digits of a number.
- `digit?`, `natural?`: the value of one digit and of several.
- `quoted`, `quotedList`: one text in quotes, and several.
-/

namespace Polyglot.Text

/-! ## Digits -/

/-- The digits of `n` to base sixteen, in lower case, with zeros in front up to a width. -/
def hexadecimal (width n : Nat) : String :=
  let ds := Nat.toDigits 16 n
  String.ofList (List.replicate (width - ds.length) '0' ++ ds)

/-- The value of a digit to a base, in lower or upper case. -/
def digit? (base : Nat) (c : Char) : Option Nat :=
  let n? :=
    if c.isDigit then some (c.toNat - '0'.toNat)
    else if 'a' ≤ c && c ≤ 'f' then some (c.toNat - 'a'.toNat + 10)
    else if 'A' ≤ c && c ≤ 'F' then some (c.toNat - 'A'.toNat + 10)
    else none
  n?.filter (· < base)

/-- The number written by one or more digits. -/
def natural? (base : Nat) (cs : List Char) : Option Nat :=
  if cs.isEmpty then none else cs.foldlM (fun n c => (digit? base c).map (base * n + ·)) 0

/-! ## Quoted text -/

/-- How one character is written inside a quoted text. -/
def quotedChar : Char → String
  | '\x00' => "\\0"
  | '\t' => "\\t"
  | '\n' => "\\n"
  | '\r' => "\\r"
  | '"' => "\\\""
  | '\\' => "\\\\"
  | c => if isUnprintable c then "\\u\x7b" ++ hexadecimal 0 c.toNat ++ "\x7d" else c.toString

/-- A text in double quotes. -/
def quoted (s : String) : String :=
  "\"" ++ String.join (s.toList.map quotedChar) ++ "\""

/-- Quoted texts in brackets, separated by commas. -/
def quotedList (xs : List String) : String :=
  "[" ++ ", ".intercalate (xs.map quoted) ++ "]"

end Polyglot.Text
