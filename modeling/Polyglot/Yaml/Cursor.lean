/-!
# Places in a text

A mark is a place in a text; a cursor is a mark with the text that follows it. Line
breaks are CR, LF, CR LF, NEL, LS and PS; the first four are read as a line feed,
the last two as they are.

- `Cursor.skip`, `Cursor.span`: move inside a line.
- `Cursor.newLine`: move over a line break.
-/

namespace Polyglot.Yaml

/-- A place in a text. Everything counts from zero: the index counts the bytes of the text, the
column the characters of its line. -/
structure Mark where
  index : Nat := 0
  line : Nat := 0
  column : Nat := 0
deriving DecidableEq, Repr, Inhabited

/-! ## Characters -/

/-- Space or tab. -/
def isGap (c : Char) : Bool := c = ' ' || c = '\t'

/-- A character that breaks a line. -/
def isBreak (c : Char) : Bool :=
  c = '\r' || c = '\n' || c = '\u0085' || c = '\u2028' || c = '\u2029'

/-- A space, a tab, a line break or the end of the text. -/
def endsWord : Option Char → Bool
  | some c => isGap c || isBreak c
  | none => true

/-- A line break or the end of the text. -/
def endsLine : Option Char → Bool
  | some c => isBreak c
  | none => true

/-- A letter, a digit, `_` or `-`. -/
def isWordChar (c : Char) : Bool := c.isAlphanum || c = '_' || c = '-'

/-- What one of the characters of a document may be: no control characters other than tab and
line breaks, no surrogates and not the last two code points of the first plane. -/
def isAllowed (c : Char) : Bool :=
  let n := c.toNat
  n == 0x09 || n == 0x0A || n == 0x0D || (0x20 ≤ n && n ≤ 0x7E) || n == 0x85
    || (0xA0 ≤ n && n ≤ 0xFFFD) || 0x10000 ≤ n

/-! ## Cursors -/

/-- A place and the text behind it. -/
structure Cursor where
  rest : List Char
  mark : Mark := {}
deriving DecidableEq, Repr, Inhabited

namespace Cursor

/-- The character at a distance. -/
def peek (c : Cursor) (n : Nat) : Option Char := c.rest[n]?

/-- Whether the next character is this one. -/
def sees (c : Cursor) (ch : Char) : Bool := c.rest.head? == some ch

/-- Whether the next characters are these. -/
def seesAll (c : Cursor) (s : List Char) : Bool := s.isPrefixOf c.rest

/-- Whether the next character has a property; at the end it has none. -/
def seesSome (c : Cursor) (p : Char → Bool) : Bool := c.rest.head?.any p

/-- The index behind the next characters. -/
def indexAfter (c : Cursor) (n : Nat) : Nat :=
  c.mark.index + ((c.rest.take n).map Char.utf8Size).foldr (· + ·) 0

/-- Move over characters of the same line. -/
def skip (c : Cursor) (n : Nat) : Cursor :=
  ⟨c.rest.drop n, { c.mark with index := c.indexAfter n, column := c.mark.column + n }⟩

/-- The characters of the same line that have a property, and the place behind them. -/
def span (c : Cursor) (p : Char → Bool) : List Char × Cursor :=
  let run := c.rest.takeWhile p
  (run, c.skip run.length)

/-- Move over the characters of the same line that have a property. -/
def skipWhile (c : Cursor) (p : Char → Bool) : Cursor := (c.span p).2

/-- Move to the end of the line. -/
def skipLine (c : Cursor) : Cursor := c.skipWhile fun ch => !isBreak ch

/-- Move over a line break, if there is one: what it is read as, and the place behind it. -/
def newLine (c : Cursor) : List Char × Cursor :=
  let next (n : Nat) : Mark := ⟨c.indexAfter n, c.mark.line + 1, 0⟩
  match c.rest with
  | '\r' :: '\n' :: rest => (['\n'], ⟨rest, next 2⟩)
  | ch :: rest =>
    if ch = '\u2028' || ch = '\u2029' then ([ch], ⟨rest, next 1⟩)
    else if isBreak ch then (['\n'], ⟨rest, next 1⟩)
    else ([], c)
  | [] => ([], c)

/-- Whether the line begins here with a document marker. -/
def atDocumentMarker (c : Cursor) : Bool :=
  c.mark.column == 0 && (c.seesAll ['-', '-', '-'] || c.seesAll ['.', '.', '.'])
    && endsWord (c.peek 3)

end Cursor

end Polyglot.Yaml
