import Polyglot.Text.Quoted
import Polyglot.Yaml.Token

/-!
# Directives, anchors and tags

Readers of the tokens that begin with `%`, `&`, `*` and `!`. Each returns nothing
where the text is malformed.
-/

namespace Polyglot.Yaml.Lexeme

/-! ## Anchors and aliases -/

/-- The name of an anchor or an alias, and the place behind it. -/
def anchorName (c : Cursor) : Option (String × Cursor) :=
  let (name, c) := (c.skip 1).span isWordChar
  let ends := match c.peek 0 with
    | some ch => endsWord ch || "?:,]\x7d%@".toList.contains ch || ch = '\x60'
    | none => true
  if name.isEmpty || !ends then none else some (String.ofList name, c)

/-! ## Tags -/

/-- `!`, `!word!` or `!word`; of the last, a directive takes none but `!`. -/
def tagHandle (directive : Bool) (c : Cursor) : Option (List Char × Cursor) :=
  if !c.sees '!' then none
  else
    let (word, c) := (c.skip 1).span isWordChar
    if c.sees '!' then some ('!' :: word ++ ['!'], c.skip 1)
    else if directive && !word.isEmpty then none
    else some ('!' :: word, c)

/-- A character of a tag; commas and square brackets only where the tag has an end of its own. -/
def isTagChar (delimited : Bool) (c : Char) : Bool :=
  isWordChar c || ";/?:@&=+$.%!~*'()".toList.contains c
    || (delimited && ",[]".toList.contains c)

/-- One octet written as `%` and two digits. -/
def escapedOctet (c : Cursor) : Option (UInt8 × Cursor) :=
  match c.rest with
  | '%' :: a :: b :: _ => (Text.natural? 16 [a, b]).map fun n => (UInt8.ofNat n, c.skip 3)
  | _ => none

/-- How many octets follow the first one of a character, by the bits it begins with. -/
def octetsBehind? (first : UInt8) : Option Nat :=
  if first &&& 0x80 == 0 then some 0
  else if first &&& 0xE0 == 0xC0 then some 1
  else if first &&& 0xF0 == 0xE0 then some 2
  else if first &&& 0xF8 == 0xF0 then some 3
  else none

/-- The further octets of a character. -/
def escapedTail : (count : Nat) → Cursor → Option (List UInt8 × Cursor)
  | 0, c => some ([], c)
  | count + 1, c => do
    let (octet, c) ← escapedOctet c
    if octet &&& 0xC0 == 0x80 then do
      let (octets, c) ← escapedTail count c
      some (octet :: octets, c)
    else none

/-- Escaped octets that begin and go on like a character; it need not be one. -/
def escapedOctets (c : Cursor) : Option (List UInt8 × Cursor) := do
  let (first, c) ← escapedOctet c
  let (octets, c) ← escapedTail (← octetsBehind? first) c
  some (first :: octets, c)

/-- The octets of a tag from here on; `done` came before, last first. -/
def tagOctets (delimited : Bool) : (fuel : Nat) → (done : List UInt8) → Cursor →
    Option (List UInt8 × Cursor)
  | 0, _, _ => none
  | fuel + 1, done, c =>
    match c.peek 0 with
    | some '%' => do
      let (octets, c) ← escapedOctets c
      tagOctets delimited fuel (octets.reverse ++ done) c
    | some ch =>
      if isTagChar delimited ch then
        tagOctets delimited fuel (UInt8.ofNat ch.toNat :: done) (c.skip 1)
      else some (done.reverse, c)
    | none => some (done.reverse, c)

/-- The tag behind `head`, which is kept without its first character; there must be something, be
it the head. -/
def tagUri (delimited : Bool) (head : List Char) (c : Cursor) : Option (Tag × Cursor) := do
  let (octets, c') ← tagOctets delimited (c.rest.length + 1) [] c
  if head.isEmpty && octets.isEmpty then none
  else some (.ofOctets ((head.drop 1).map (fun ch => UInt8.ofNat ch.toNat) ++ octets), c')

/-- A tag: `!<uri>`, `!handle!suffix`, `!suffix` or `!`. -/
def tag (inFlow : Bool) (c : Cursor) : Option (TokenKind × Cursor) := do
  let (kind, c) ←
    if c.peek 1 == some '<' then do
      let (uri, c) ← tagUri true [] (c.skip 2)
      if c.sees '>' then some (TokenKind.tag "" uri, c.skip 1) else none
    else do
      let (handle, c) ← tagHandle false c
      if handle.length > 1 && handle.getLast? == some '!' then do
        let (suffix, c) ← tagUri false [] c
        some (TokenKind.tag (String.ofList handle) suffix, c)
      else do
        let (suffix, c) ← tagUri false handle c
        if suffix.octets.isEmpty then some (TokenKind.tag "" ⟨[Tag.bang]⟩, c)
        else some (TokenKind.tag "!" suffix, c)
  if (inFlow && c.sees ',') || endsWord (c.peek 0) then some (kind, c) else none

/-! ## Directives -/

/-- A version number of at most nine digits. -/
def versionNumber (c : Cursor) : Option (Nat × Cursor) :=
  let (digits, c) := c.span Char.isDigit
  if digits.length > 9 then none else (Text.natural? 10 digits).map (·, c)

/-- The version behind `%YAML`. -/
def versionDirective (c : Cursor) : Option (TokenKind × Cursor) := do
  let (major, c) ← versionNumber (c.skipWhile isGap)
  if !c.sees '.' then none
  else
    let (minor, c) ← versionNumber (c.skip 1)
    some (.versionDirective major minor, c)

/-- The handle and its prefix behind `%TAG`. -/
def tagDirective (c : Cursor) : Option (TokenKind × Cursor) := do
  let (handle, c) ← tagHandle true (c.skipWhile isGap)
  if !c.seesSome isGap then none
  else
    let (uri, c) ← tagUri true [] (c.skipWhile isGap)
    if endsWord (c.peek 0) then
      some (.tagDirective (String.ofList handle) uri, c)
    else none

/-- A directive with the rest of its line: the token, the place behind the directive and the
place where the next line begins. -/
def directive (c : Cursor) : Option (TokenKind × Mark × Cursor) := do
  let (name, c) := (c.skip 1).span isWordChar
  if name.isEmpty || !endsWord (c.peek 0) then none
  else
    let (kind, c) ←
      if name = ['Y', 'A', 'M', 'L'] then versionDirective c
      else if name = ['T', 'A', 'G'] then tagDirective c
      else none
    let stop := c.mark
    let c := c.skipWhile isGap
    let c := if c.sees '#' then c.skipLine else c
    if endsLine (c.peek 0) then some (kind, stop, c.newLine.2) else none

end Polyglot.Yaml.Lexeme
