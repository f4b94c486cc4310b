import Polyglot.Yaml.Folding
import Polyglot.Yaml.Lexeme

/-!
# Scalars

Readers of quoted, plain and block scalars. Each returns nothing where the text is
malformed.

- `Lexeme.quoted`: between quotes, with line folding and, in double quotes, escapes.
- `Lexeme.plain`: without quotes, over one or more lines.
- `Lexeme.block`: after `|` or `>`, as deep as its indentation goes.
-/

namespace Polyglot.Yaml.Lexeme

/-! ## Quoted scalars -/

/-- The characters that are escaped by one letter. -/
def escapedLetter? : Char → Option Char
  | '0' => some '\x00'
  | 'a' => some '\x07'
  | 'b' => some '\x08'
  | 't' => some '\t'
  | '\t' => some '\t'
  | 'n' => some '\n'
  | 'v' => some '\x0B'
  | 'f' => some '\x0C'
  | 'r' => some '\r'
  | 'e' => some '\x1B'
  | ' ' => some ' '
  | '"' => some '"'
  | '/' => some '/'
  | '\\' => some '\\'
  | 'N' => some '\u0085'
  | '_' => some '\u00A0'
  | 'L' => some '\u2028'
  | 'P' => some '\u2029'
  | _ => none

/-- How many digits follow the letter of a number escape. -/
def escapeWidth? : Char → Option Nat
  | 'x' => some 2
  | 'u' => some 4
  | 'U' => some 8
  | _ => none

/-- The character that an escape stands for; the cursor is at the backslash. -/
def escapedCharacter (c : Cursor) : Option (Char × Cursor) := do
  let letter ← c.peek 1
  match escapedLetter? letter, escapeWidth? letter with
  | some ch, _ => some (ch, c.skip 2)
  | none, some width =>
    let c := c.skip 2
    let ds := c.rest.take width
    let n ← Text.natural? 16 ds
    if ds.length = width && n.isValidChar then some (Char.ofNat n, c.skip width) else none
  | none, none => none

/-- The text up to the closing quote; `done` came before, last first. -/
def quotedFrom (single : Bool) : (fuel : Nat) → (done : List Char) → Cursor →
    Option (List Char × Cursor)
  | 0, _, _ => none
  | fuel + 1, done, c =>
    let go (g : Gap) (c : Cursor) : Option (List Char × Cursor) := do
      let (g, c) ← g.scan none (c.rest.length + 1) c
      quotedFrom single fuel (g.text.reverse ++ done) c
    if c.atDocumentMarker then none
    else
      match c.peek 0 with
      | none => none
      | some ch =>
        if single && ch = '\'' then
          if c.peek 1 == some '\'' then quotedFrom single fuel ('\'' :: done) (c.skip 2)
          else some (done.reverse, c.skip 1)
        else if !single && ch = '"' then some (done.reverse, c.skip 1)
        else if !single && ch = '\\' then
          if (c.peek 1).any isBreak then go { first? := some [] } (c.skip 1).newLine.2
          else do
            let (ch, c) ← escapedCharacter c
            quotedFrom single fuel (ch :: done) c
        else if isGap ch || isBreak ch then go {} c
        else quotedFrom single fuel (ch :: done) (c.skip 1)

/-- A quoted scalar; the cursor is at the opening quote. -/
def quoted (single : Bool) (c : Cursor) : Option (TokenKind × Cursor) := do
  let (text, c) ← quotedFrom single (c.rest.length + 1) [] (c.skip 1)
  some (.scalar (String.ofList text) (if single then .singleQuoted else .doubleQuoted), c)

/-! ## Plain scalars -/

/-- Whether a plain word ends here: at a blank, before a colon with a blank behind it and, in
brackets, at a comma or a bracket. -/
def endsPlainWord (inFlow : Bool) (c : Cursor) : Bool :=
  endsWord (c.peek 0) || (c.sees ':' && endsWord (c.peek 1))
    || (inFlow && c.seesSome fun ch => ",[]\x7b\x7d".toList.contains ch)

/-- In brackets, a colon must not stand before a comma, a question mark or a bracket. -/
def misplacedColon (inFlow : Bool) (c : Cursor) : Bool :=
  inFlow && c.sees ':' && (c.peek 1).any fun ch => ",?[]\x7b\x7d".toList.contains ch

/-- The characters up to the end of a plain word; `done` came before, last first. -/
def plainWord (inFlow : Bool) : (fuel : Nat) → (done : List Char) → Cursor →
    Option (List Char × Cursor)
  | 0, _, _ => none
  | fuel + 1, done, c =>
    if endsWord (c.peek 0) then some (done, c)
    else if misplacedColon inFlow c then none
    else if endsPlainWord inFlow c then some (done, c)
    else
      match c.peek 0 with
      | some ch => plainWord inFlow fuel (ch :: done) (c.skip 1)
      | none => some (done, c)

/-- A plain scalar that was read: its text, the place behind its last word, the place where the
reading goes on, and whether that place lies behind a line break. -/
structure Plain where
  text : List Char
  stop : Mark
  next : Cursor
  broken : Bool

/-- Go on with a plain scalar behind a gap; `done` came before, last first. Outside brackets the
lines must be indented by `margin`. -/
def plainFrom (inFlow : Bool) (margin : Int) : (fuel : Nat) → (done : List Char) → Gap →
    (stop : Mark) → Cursor → Option Plain
  | 0, _, _, _, _ => none
  | fuel + 1, done, g, stop, c =>
    let finish (done : List Char) (g : Gap) (stop : Mark) (c : Cursor) : Plain :=
      ⟨done.reverse, stop, c, g.broken⟩
    if c.atDocumentMarker || c.sees '#' then some (finish done g stop c)
    else do
      let (word, c) ← plainWord inFlow (c.rest.length + 1) [] c
      let found := !word.isEmpty
      let done := if found then word ++ (g.text.reverse ++ done) else done
      let stop := if found then c.mark else stop
      let g : Gap := if found then {} else g
      if c.seesSome fun ch => isGap ch || isBreak ch then
        let (g, c) ← g.scan (some margin) (c.rest.length + 1) c
        if !inFlow && (c.mark.column : Int) < margin then some (finish done g stop c)
        else plainFrom inFlow margin fuel done g stop c
      else some (finish done g stop c)

/-- A plain scalar. -/
def plain (inFlow : Bool) (margin : Int) (c : Cursor) : Option Plain :=
  plainFrom inFlow margin (c.rest.length + 1) [] {} c.mark c

/-! ## Block scalars -/

/-- What becomes of the line breaks at the end of a block scalar. -/
inductive Chomping where
  | strip
  | clip
  | keep
deriving DecidableEq, Repr

def chomping? (c : Cursor) : Option Chomping :=
  if c.sees '+' then some .keep else if c.sees '-' then some .strip else none

/-- A digit that tells the indentation; none if there is no digit. -/
def indentationDigit (c : Cursor) : Option (Option Nat × Cursor) :=
  match (c.peek 0).bind (Text.digit? 10) with
  | some 0 => none
  | some n => some (some n, c.skip 1)
  | none => some (none, c)

/-- The signs behind `|` or `>`, in either order. -/
def blockHeader (c : Cursor) : Option (Chomping × Option Nat × Cursor) := do
  match chomping? c with
  | some chomping =>
    let (digit, c) ← indentationDigit (c.skip 1)
    some (chomping, digit, c)
  | none =>
    let (digit, c) ← indentationDigit c
    match digit, chomping? c with
    | some n, some chomping => some (chomping, some n, c.skip 1)
    | digit, _ => some (.clip, digit, c)

/-- Empty lines and the indentation of the next one. `indent` is zero while the indentation is
not known; `widest` is the deepest indentation so far. -/
def blockBreaks (indent : Nat) : (fuel : Nat) → (widest : Nat) → (breaks : List Char) →
    (stop : Mark) → Cursor → Option (Nat × List Char × Mark × Cursor)
  | 0, _, _, _, _ => none
  | fuel + 1, widest, breaks, stop, c =>
    let room := if indent = 0 then c.rest.length else indent - c.mark.column
    let c := c.skip ((c.rest.take room).takeWhile (· = ' ')).length
    let widest := max widest c.mark.column
    if (indent = 0 || c.mark.column < indent) && c.sees '\t' then none
    else if c.seesSome isBreak then
      let (text, c) := c.newLine
      blockBreaks indent fuel widest (breaks ++ text) c.mark c
    else some (widest, breaks, stop, c)

/-- The lines of a block scalar. `last` is the line break behind the lines so far, `breaks` are
the empty lines after it, and `wasBlank` says that the last line begins with a blank; `done` holds
the text so far, last first. -/
def blockLines (isLiteral : Bool) (indent : Nat) : (fuel : Nat) → (done last breaks : List Char) →
    (wasBlank : Bool) → (stop : Mark) → Cursor →
    Option (List Char × List Char × List Char × Mark × Cursor)
  | 0, _, _, _, _, _, _ => none
  | fuel + 1, done, last, breaks, wasBlank, stop, c =>
    if c.mark.column != indent || c.rest.isEmpty then some (done, last, breaks, stop, c)
    else do
      let isBlank := c.seesSome isGap
      let joint :=
        if !isLiteral && last = ['\n'] && !wasBlank && !isBlank then
          if breaks.isEmpty then [' '] else breaks
        else last ++ breaks
      let (line, c) := c.span fun ch => !isBreak ch
      let (last, c) := c.newLine
      let (_, breaks, stop, c) ← blockBreaks indent (c.rest.length + 1) 0 [] c.mark c
      blockLines isLiteral indent fuel (line.reverse ++ (joint.reverse ++ done)) last breaks isBlank
        stop c

/-- A block scalar below `parent`, the indentation of the collection around it: the token, the
place behind it and the place where the reading goes on. -/
def block (isLiteral : Bool) (parent : Int) (c : Cursor) : Option (TokenKind × Mark × Cursor) := do
  let (chomping, digit, c) ← blockHeader (c.skip 1)
  let c := c.skipWhile isGap
  let c := if c.sees '#' then c.skipLine else c
  if !endsLine (c.peek 0) then none
  else
    let c := c.newLine.2
    let given := match digit with
      | some n => n + parent.toNat
      | none => 0
    let (widest, breaks, stop, c) ← blockBreaks given (c.rest.length + 1) 0 [] c.mark c
    let indent := if given = 0 then max (max widest (parent + 1).toNat) 1 else given
    let (done, last, breaks, stop, c) ←
      blockLines isLiteral indent (c.rest.length + 1) [] [] breaks false stop c
    let tail := match chomping with
      | .strip => []
      | .clip => last
      | .keep => last ++ breaks
    let text := String.ofList (done.reverse ++ tail)
    some (.scalar text (if isLiteral then .literal else .folded), stop, c)

end Polyglot.Yaml.Lexeme
