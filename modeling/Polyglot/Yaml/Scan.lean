import Polyglot.Yaml.Scalar

/-!
# From text to tokens

A text is scanned from front to back. Indentation is turned into brackets, and a
scalar or a collection that proves to be a key, by the colon behind it, gets its
`key` token, and if need be the start of its mapping, put in front of it afterwards.
Until that is settled the tokens from there on are held back; where the text is
malformed, those still held back are not part of the result.

A text comes in blocks, and a block with a character that is not allowed cannot be
used. Scanning ends where it would need such a block.

- `unusableFrom?`: where the first unusable block begins.
- `Scanner.step`: one token, or the few that belong together.
- `scan`: the tokens of a whole text, up to the place where it is malformed.
-/

namespace Polyglot.Yaml

/-! ## Blocks -/

/-- The bytes of a block; a character that does not fit entirely belongs to the next block. -/
def blockSize : Nat := 16384

/-- The index where the first block begins that holds a character that is not allowed. `index`
belongs to the front of the characters, and `start` to the block it lies in. -/
def unusableFrom? : (index start : Nat) → List Char → Option Nat
  | _, _, [] => none
  | index, start, c :: cs =>
    let next := index + c.utf8Size
    let start := if start + blockSize < next then index else start
    if isAllowed c then unusableFrom? next start cs else some start

/-! ## Scanners -/

/-- A place where a key may turn out to begin. -/
structure KeyCandidate where
  /-- The number of tokens before it. -/
  number : Nat
  mark : Mark
  /-- In a block mapping nothing but a key can stand at the margin. -/
  required : Bool
deriving DecidableEq, Repr, Inhabited

/-- How far a text was scanned. -/
structure Scanner where
  cursor : Cursor
  /-- Where the text ceases to be usable. -/
  limit? : Option Nat := none
  /-- The tokens so far, last first. -/
  tokens : List Token := []
  size : Nat := 0
  /-- The column of the innermost block collection, `-1` outside of all. -/
  indent : Int := -1
  /-- The columns around it, innermost first. -/
  outer : List Int := []
  /-- Whether a key may begin here. -/
  keyAllowed : Bool := true
  /-- The candidate of this level. -/
  candidate : Option KeyCandidate := none
  /-- The candidates of the levels of brackets around, innermost first. -/
  candidates : List (Option KeyCandidate) := []
  finished : Bool := false
deriving Repr, Inhabited

namespace Scanner

def inFlow (s : Scanner) : Bool := !s.candidates.isEmpty

def mark (s : Scanner) : Mark := s.cursor.mark

def column (s : Scanner) : Int := s.cursor.mark.column

/-- Whether the next `n` characters can be used. -/
def canSee (s : Scanner) (n : Nat) : Bool := s.limit?.all (s.cursor.indexAfter n ≤ ·)

/-- Go on if the next `n` characters can be used. -/
def needs (n : Nat) (s : Scanner) : Option Scanner := if s.canSee n then some s else none

/-- Append a token. -/
def push (s : Scanner) (kind : TokenKind) (start stop : Mark) : Scanner :=
  { s with tokens := ⟨kind, start, stop⟩ :: s.tokens, size := s.size + 1 }

/-- Append a token without extent. -/
def pushHere (s : Scanner) (kind : TokenKind) : Scanner := s.push kind s.mark s.mark

/-- Put a token in front of all but the first `number` ones. -/
def insertAt (s : Scanner) (number : Nat) (kind : TokenKind) (mark : Mark) : Scanner :=
  let later := s.size - number
  { s with
    tokens := s.tokens.take later ++ ⟨kind, mark, mark⟩ :: s.tokens.drop later
    size := s.size + 1 }

/-- Append the token of the next `n` characters. -/
def pushSign (s : Scanner) (kind : TokenKind) (n : Nat) : Scanner :=
  let stop := s.cursor.skip n
  { s.push kind s.mark stop.mark with cursor := stop }

/-! ## Keys -/

/-- A key lies on one line and within 1024 bytes. -/
def isStale (s : Scanner) (k : KeyCandidate) : Bool :=
  k.mark.line < s.mark.line || k.mark.index + 1024 < s.mark.index

/-- Give up the candidates that can no longer be keys; none of them may be required. -/
def dropStale (s : Scanner) : Option Scanner :=
  let stale (k? : Option KeyCandidate) : Bool := k?.any s.isStale
  let all := s.candidate :: s.candidates
  if all.any fun k? => stale k? && k?.any KeyCandidate.required then none
  else
    let keep (k? : Option KeyCandidate) := if stale k? then none else k?
    some { s with candidate := keep s.candidate, candidates := s.candidates.map keep }

/-- Give up the candidate of this level; it must not be required. -/
def dropCandidate (s : Scanner) : Option Scanner :=
  if s.candidate.any KeyCandidate.required then none else some { s with candidate := none }

/-- Note that a key may begin here. -/
def noteCandidate (s : Scanner) : Option Scanner :=
  if s.keyAllowed then do
    let s ← s.dropCandidate
    some { s with candidate := some ⟨s.size, s.mark, !s.inFlow && s.indent == s.column⟩ }
  else some s

/-! ## Indentation -/

/-- Open a block collection at a column deeper than the innermost one; its token goes behind the
first `number` ones. -/
def openBlock (s : Scanner) (column : Int) (number : Nat) (kind : TokenKind) (mark : Mark) :
    Scanner :=
  if s.inFlow || column ≤ s.indent then s
  else { s.insertAt number kind mark with indent := column, outer := s.indent :: s.outer }

/-- Close the block collections deeper than a column. -/
def closeBlocks (s : Scanner) (column : Int) : Scanner :=
  if s.inFlow then s
  else go s.outer s
where
  go : List Int → Scanner → Scanner
    | outer, s =>
      if s.indent ≤ column then s
      else
        match outer with
        | [] => { s.pushHere .blockEnd with indent := -1, outer := [] }
        | column' :: outer => go outer { s.pushHere .blockEnd with indent := column', outer := outer }

/-! ## Between tokens -/

/-- Move over blanks, comments and line breaks, and over a byte order mark that begins a line. A
tab does not count as a blank where a key may begin in a block. -/
def skipToToken : (fuel : Nat) → Scanner → Scanner
  | 0, s => s
  | fuel + 1, s =>
    let c := s.cursor
    let c := if c.mark.column == 0 && c.sees '\uFEFF' then c.skip 1 else c
    let c := c.skipWhile fun ch => ch = ' ' || (ch = '\t' && (s.inFlow || !s.keyAllowed))
    let c := if c.sees '#' then c.skipLine else c
    if c.seesSome isBreak then
      skipToToken fuel
        { s with cursor := c.newLine.2, keyAllowed := s.keyAllowed || !s.inFlow }
    else { s with cursor := c }

/-! ## Tokens -/

def streamEnd (s : Scanner) : Option Scanner := do
  let mark := s.mark
  let mark := if mark.column == 0 then mark else ⟨mark.index, mark.line + 1, 0⟩
  let s := { s with cursor := { s.cursor with mark } }
  let s ← (s.closeBlocks (-1)).dropCandidate
  some { s.pushHere .streamEnd with keyAllowed := false, finished := true }

def directive (s : Scanner) : Option Scanner := do
  let s ← (s.closeBlocks (-1)).dropCandidate
  let (kind, stop, c) ← Lexeme.directive s.cursor
  needs 1 { s.push kind s.mark stop with cursor := c, keyAllowed := false }

def documentMarker (s : Scanner) : Option Scanner := do
  let s ← (s.closeBlocks (-1)).dropCandidate
  let kind := if s.cursor.sees '-' then TokenKind.documentStart else .documentEnd
  some ({ s with keyAllowed := false }.pushSign kind 3)

def openBracket (s : Scanner) (kind : TokenKind) : Option Scanner := do
  let s ← s.noteCandidate
  let s := { s with candidate := none, candidates := s.candidate :: s.candidates, keyAllowed := true }
  some (s.pushSign kind 1)

def closeBracket (s : Scanner) (kind : TokenKind) : Option Scanner := do
  let s ← s.dropCandidate
  let s := match s.candidates with
    | [] => s
    | k :: ks => { s with candidate := k, candidates := ks }
  some ({ s with keyAllowed := false }.pushSign kind 1)

def flowEntry (s : Scanner) : Option Scanner := do
  let s ← s.dropCandidate
  some ({ s with keyAllowed := true }.pushSign .flowEntry 1)

def blockEntry (s : Scanner) : Option Scanner := do
  if !s.inFlow && !s.keyAllowed then none
  else
    let s := s.openBlock s.column s.size .blockSequenceStart s.mark
    let s ← s.dropCandidate
    some ({ s with keyAllowed := true }.pushSign .blockEntry 1)

def key (s : Scanner) : Option Scanner := do
  if !s.inFlow && !s.keyAllowed then none
  else
    let s := s.openBlock s.column s.size .blockMappingStart s.mark
    let s ← s.dropCandidate
    some ({ s with keyAllowed := !s.inFlow }.pushSign .key 1)

/-- A colon: what stands before it is a key if there is a candidate. -/
def value (s : Scanner) : Option Scanner :=
  match s.candidate with
  | some k =>
    let s := s.insertAt k.number .key k.mark
    let s := s.openBlock k.mark.column k.number .blockMappingStart k.mark
    some ({ s with candidate := none, keyAllowed := false }.pushSign .value 1)
  | none =>
    if !s.inFlow && !s.keyAllowed then none
    else
      let s := s.openBlock s.column s.size .blockMappingStart s.mark
      some ({ s with keyAllowed := !s.inFlow }.pushSign .value 1)

/-- A token that may begin a key, read by `read`; its end shows only by what follows. -/
def nodeToken (s : Scanner) (read : Cursor → Option (TokenKind × Cursor)) : Option Scanner := do
  let s ← s.noteCandidate
  let (kind, c) ← read s.cursor
  needs 1 { s.push kind s.mark c.mark with cursor := c, keyAllowed := false }

def plain (s : Scanner) : Option Scanner := do
  let s ← s.noteCandidate
  let p ← Lexeme.plain s.inFlow (s.indent + 1) s.cursor
  needs 2 { s.push (.scalar (String.ofList p.text) .plain) s.mark p.stop with
    cursor := p.next, keyAllowed := p.broken }

def blockScalar (s : Scanner) (isLiteral : Bool) : Option Scanner := do
  let s ← s.dropCandidate
  let (kind, stop, c) ← Lexeme.block isLiteral s.indent s.cursor
  needs 1 { s.push kind s.mark stop with cursor := c, keyAllowed := true }

/-- Blanks, and the signs that no plain scalar begins with. -/
def isIndicator (c : Char) : Bool :=
  isGap c || "-?:,[]\x7b\x7d#&*!|>'\"%@".toList.contains c || c = '\x60'

/-- The next token. Returns nothing where the text is malformed or cannot be used. -/
def step (s : Scanner) : Option Scanner := do
  let s ← (skipToToken (s.cursor.rest.length + 1) s).needs 1
  let s ← s.dropStale
  let s ← (s.closeBlocks s.column).needs 4
  let c := s.cursor
  let blankNext := endsWord (c.peek 1)
  match c.peek 0 with
  | none => s.streamEnd
  | some ch =>
    if c.mark.column == 0 && ch = '%' then s.directive
    else if c.atDocumentMarker then s.documentMarker
    else if ch = '[' then s.openBracket .flowSequenceStart
    else if ch = '\x7b' then s.openBracket .flowMappingStart
    else if ch = ']' then s.closeBracket .flowSequenceEnd
    else if ch = '\x7d' then s.closeBracket .flowMappingEnd
    else if ch = ',' then s.flowEntry
    else if ch = '-' && blankNext then s.blockEntry
    else if ch = '?' && (s.inFlow || blankNext) then s.key
    else if ch = ':' && (s.inFlow || blankNext) then s.value
    else if ch = '*' then
      s.nodeToken fun c => (Lexeme.anchorName c).map fun (name, c) => (.alias name, c)
    else if ch = '&' then
      s.nodeToken fun c => (Lexeme.anchorName c).map fun (name, c) => (.anchor name, c)
    else if ch = '!' then s.nodeToken (Lexeme.tag s.inFlow)
    else if ch = '|' && !s.inFlow then s.blockScalar true
    else if ch = '>' && !s.inFlow then s.blockScalar false
    else if ch = '\'' then s.nodeToken (Lexeme.quoted true)
    else if ch = '"' then s.nodeToken (Lexeme.quoted false)
    else if !isIndicator ch || ch = '-' || (!s.inFlow && (ch = '?' || ch = ':')) then s.plain
    else none

/-- How many tokens are no longer held back. -/
def settled (s : Scanner) : Nat :=
  (s.candidate :: s.candidates).foldl (fun n k? => k?.elim n fun k => min n k.number) s.size

/-- Take steps to the end of the text. Returns the tokens, and whether they are all. -/
def run : (fuel : Nat) → (settledSoFar : Nat) → Scanner → List Token × Bool
  | 0, n, s => (s.tokens.reverse.take n, false)
  | fuel + 1, n, s =>
    match s.dropStale with
    | none => (s.tokens.reverse.take n, false)
    | some s =>
      if s.finished then (s.tokens.reverse, true)
      else
        let n := s.settled
        match s.step with
        | none => (s.tokens.reverse.take n, false)
        | some s => run fuel n s

end Scanner

/-- The tokens of a text and whether they are all, or end where the text is malformed or cannot be
used. -/
def scan (text : String) : List Token × Bool :=
  let cs := text.toList
  let limit? := unusableFrom? 0 0 cs
  if limit? = some 0 then ([], false)
  else
    Scanner.run (cs.length + 2) 0 (Scanner.pushHere { cursor := ⟨cs, {}⟩, limit? } .streamStart)

end Polyglot.Yaml
