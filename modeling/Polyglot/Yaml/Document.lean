import Polyglot.Yaml.Node
import Polyglot.Yaml.Scan

/-!
# From tokens to documents

The tokens of a text are read into the nodes of its first document. Where the
tokens do not fit, or are cut off because the text is malformed, the document ends
in a broken node.

- `Reading.node`: one node with its properties.
- `Document.ofTokens`: the first document, and whether anything follows it.
- `Document.ofText`: the same, from the text.
-/

namespace Polyglot.Yaml

/-- How far the tokens were read. -/
structure Reading where
  tokens : List Token
  /-- Handles of tags with their prefixes. -/
  handles : List (String × Tag) := [("!", ⟨[Tag.bang]⟩), ("!!", .core "")]
  /-- Names of anchors, each with the number of its latest anchor. -/
  names : List (String × Nat) := []
  /-- The numbers of nodes that anchors stand for, the latest first. -/
  anchors : List (Nat × Nat) := []
  /-- The next number to be given out. -/
  extent : Nat := 0
  damage? : Option Damage := none
deriving Inhabited

namespace Reading

def isDamaged (s : Reading) : Bool := s.damage?.isSome

/-- Stop here; a broken node stands for the rest. -/
def stop (s : Reading) (d : Damage) : Node × Reading := (.broken, { s with damage? := some d })

def malformed (s : Reading) : Node × Reading := s.stop .malformed

/-- Use up a number. -/
def advance (s : Reading) : Reading := { s with extent := s.extent + 1 }

/-- Use up a number and the tokens before `rest`. -/
def advanceTo (s : Reading) (rest : List Token) : Reading :=
  { s with extent := s.extent + 1, tokens := rest }

/-- An empty scalar, where a node is missing. -/
def emptyScalar (s : Reading) (mark : Mark) : Node × Reading :=
  (.scalar s.extent mark none .plain "", s.advance)

/-- Let the next number be known by a name. An anchor is numbered by how many names there are
before it, so that one which takes up an old name shares its number with the next new name. -/
def anchor (s : Reading) : Option String → Reading
  | none => s
  | some name =>
    let number := s.names.length
    { s with
      anchors := (number, s.extent) :: s.anchors
      names :=
        if s.names.any (·.1 == name) then
          s.names.map fun e => if e.1 == name then (name, number) else e
        else s.names ++ [(name, number)] }

/-- Anchor and tag in front of a node, and the place where they begin. -/
structure Properties where
  anchor? : Option String := none
  tag? : Option (String × Tag) := none
  start? : Option Mark := none

/-- The properties at the front of the tokens. -/
def properties : List Token → Properties × List Token
  | ⟨.anchor a, m, _⟩ :: ⟨.tag h x, _, _⟩ :: rest => (⟨some a, some (h, x), some m⟩, rest)
  | ⟨.anchor a, m, _⟩ :: rest => (⟨some a, none, some m⟩, rest)
  | ⟨.tag h x, m, _⟩ :: ⟨.anchor a, _, _⟩ :: rest => (⟨some a, some (h, x), some m⟩, rest)
  | ⟨.tag h x, m, _⟩ :: rest => (⟨none, some (h, x), some m⟩, rest)
  | rest => ({}, rest)

/-- The full text of a tag; a handle must be declared. -/
def fullTag (s : Reading) : Option (String × Tag) → Option (Option Tag)
  | none => some none
  | some ("", suffix) => some (some suffix)
  | some (handle, suffix) => (s.handles.lookup handle).map fun pre => some (pre ++ suffix)

/-! ## Where a node is missing -/

def missesBlockItem : TokenKind → Bool
  | .blockEntry | .blockEnd => true
  | _ => false

def missesIndentlessItem : TokenKind → Bool
  | .blockEntry | .key | .value | .blockEnd => true
  | _ => false

def missesBlockPart : TokenKind → Bool
  | .key | .value | .blockEnd => true
  | _ => false

def missesPairKey : TokenKind → Bool
  | .value | .flowEntry | .flowSequenceEnd => true
  | _ => false

def missesPairValue : TokenKind → Bool
  | .flowEntry | .flowSequenceEnd => true
  | _ => false

def missesFlowKey : TokenKind → Bool
  | .value | .flowEntry | .flowMappingEnd => true
  | _ => false

def missesFlowValue : TokenKind → Bool
  | .flowEntry | .flowMappingEnd => true
  | _ => false

/-! ## Nodes -/

mutual

/-- A node. `inBlock` admits block collections, and `indentless` a block sequence at the margin of
the mapping around it. -/
def node : (fuel : Nat) → (inBlock indentless : Bool) → Reading → Node × Reading
  | 0, _, _, s => s.malformed
  | fuel + 1, inBlock, indentless, s =>
    match s.tokens with
    | [] => s.malformed
    | ⟨.alias name, m, _⟩ :: rest =>
      match s.names.lookup name with
      | none => s.stop (.unknownAnchor m)
      | some number => (.alias s.extent m number, s.advanceTo rest)
    | tokens =>
      let (ps, rest) := properties tokens
      match rest, s.fullTag ps.tag? with
      | [], _ => s.malformed
      | _, none => s.malformed
      | t :: rest, some tag =>
        let s := s.anchor ps.anchor?
        let number := s.extent
        let mark := ps.start?.getD t.start
        let sequence (r : List Node × Reading) := (Node.sequence number mark tag r.1, r.2)
        let mapping (r : List (Node × Node) × Reading) := (Node.mapping number mark tag r.1, r.2)
        match t.kind with
        | .scalar text style =>
          (.scalar number mark tag style text, s.advanceTo rest)
        | .flowSequenceStart => sequence (flowItems fuel true [] (s.advanceTo rest))
        | .flowMappingStart => mapping (flowEntries fuel true [] (s.advanceTo rest))
        | .blockEntry =>
          if indentless then sequence (indentlessItems fuel [] (s.advanceTo (t :: rest)))
          else orEmpty ps tag mark { s with tokens := t :: rest }
        | .blockSequenceStart =>
          if inBlock then sequence (blockItems fuel [] (s.advanceTo rest))
          else orEmpty ps tag mark { s with tokens := t :: rest }
        | .blockMappingStart =>
          if inBlock then mapping (blockEntries fuel [] (s.advanceTo rest))
          else orEmpty ps tag mark { s with tokens := t :: rest }
        | _ => orEmpty ps tag mark { s with tokens := t :: rest }
where
  /-- Properties alone make an empty scalar; without them the text is malformed. -/
  orEmpty (ps : Properties) (tag : Option Tag) (mark : Mark) (s : Reading) : Node × Reading :=
    if ps.anchor?.isSome || ps.tag?.isSome then (.scalar s.extent mark tag .plain "", s.advance)
    else s.malformed

/-- The node behind the indicator at the front of the tokens, or an empty scalar in its place:
right behind the indicator, or where the next token begins. -/
def nodeBehind : (fuel : Nat) → (inBlock indentless : Bool) → (misses : TokenKind → Bool) →
    (emptyAtNext : Bool) → Reading → Node × Reading
  | 0, _, _, _, _, s => s.malformed
  | fuel + 1, inBlock, indentless, misses, emptyAtNext, s =>
    match s.tokens with
    | t :: next :: rest =>
      let s := { s with tokens := next :: rest }
      if misses next.kind then s.emptyScalar (if emptyAtNext then next.start else t.stop)
      else node fuel inBlock indentless s
    | _ => s.malformed

/-- The items of a block sequence up to its end; `done` came before, last first. -/
def blockItems : (fuel : Nat) → (done : List Node) → Reading → List Node × Reading
  | 0, done, s => ((Node.broken :: done).reverse, s.malformed.2)
  | fuel + 1, done, s =>
    match s.tokens with
    | ⟨.blockEntry, _, _⟩ :: _ =>
      let (n, s) := nodeBehind fuel true false missesBlockItem false s
      if s.isDamaged then ((n :: done).reverse, s) else blockItems fuel (n :: done) s
    | ⟨.blockEnd, _, _⟩ :: rest => (done.reverse, s.advanceTo rest)
    | _ => ((Node.broken :: done).reverse, s.malformed.2)

/-- The items of a block sequence at the margin of a mapping. -/
def indentlessItems : (fuel : Nat) → (done : List Node) → Reading → List Node × Reading
  | 0, done, s => ((Node.broken :: done).reverse, s.malformed.2)
  | fuel + 1, done, s =>
    match s.tokens with
    | ⟨.blockEntry, _, _⟩ :: _ =>
      let (n, s) := nodeBehind fuel true false missesIndentlessItem false s
      if s.isDamaged then ((n :: done).reverse, s) else indentlessItems fuel (n :: done) s
    | _ :: _ => (done.reverse, s.advance)
    | [] => ((Node.broken :: done).reverse, s.malformed.2)

/-- The entries of a block mapping up to its end. -/
def blockEntries : (fuel : Nat) → (done : List (Node × Node)) → Reading →
    List (Node × Node) × Reading
  | 0, done, s => (((Node.broken, Node.broken) :: done).reverse, s.malformed.2)
  | fuel + 1, done, s =>
    match s.tokens with
    | ⟨.key, _, _⟩ :: _ =>
      let (k, s) := nodeBehind fuel true true missesBlockPart false s
      if s.isDamaged then (((k, Node.broken) :: done).reverse, s)
      else
        let (v, s) := match s.tokens with
          | ⟨.value, _, _⟩ :: _ => nodeBehind fuel true true missesBlockPart false s
          | t :: _ => s.emptyScalar t.start
          | [] => s.malformed
        if s.isDamaged then (((k, v) :: done).reverse, s) else blockEntries fuel ((k, v) :: done) s
    | ⟨.value, _, _⟩ :: _ =>
      (((Node.broken, Node.broken) :: done).reverse, s.malformed.2)
    | ⟨.blockEnd, _, _⟩ :: rest => (done.reverse, s.advanceTo rest)
    | _ => (((Node.broken, Node.broken) :: done).reverse, s.malformed.2)

/-- The items of a flow sequence up to its end; all but the first come behind a comma. -/
def flowItems : (fuel : Nat) → (isFirst : Bool) → (done : List Node) → Reading →
    List Node × Reading
  | 0, _, done, s => ((Node.broken :: done).reverse, s.malformed.2)
  | fuel + 1, isFirst, done, s =>
    let go (s : Reading) : List Node × Reading :=
      match s.tokens with
      | ⟨.flowSequenceEnd, _, _⟩ :: rest => (done.reverse, s.advanceTo rest)
      | ⟨.key, m, _⟩ :: rest =>
        let number := s.extent
        let (entry, s) := pair fuel (s.advanceTo rest)
        let n := Node.mapping number m none entry
        if s.isDamaged then ((n :: done).reverse, s) else flowItems fuel false (n :: done) s
      | [] => ((Node.broken :: done).reverse, s.malformed.2)
      | _ =>
        let (n, s) := node fuel false false s
        if s.isDamaged then ((n :: done).reverse, s) else flowItems fuel false (n :: done) s
    match isFirst, s.tokens with
    | true, _ => go s
    | false, ⟨.flowEntry, _, _⟩ :: rest => go { s with tokens := rest }
    | false, ⟨.flowSequenceEnd, _, _⟩ :: _ => go s
    | false, _ => ((Node.broken :: done).reverse, s.malformed.2)

/-- The one entry of a mapping that stands in a flow sequence without braces. -/
def pair : (fuel : Nat) → Reading → List (Node × Node) × Reading
  | 0, s => ([(.broken, .broken)], s.malformed.2)
  | fuel + 1, s =>
    let (k, s) := match s.tokens with
      | [] => s.malformed
      | t :: rest =>
        if missesPairKey t.kind then { s with tokens := rest }.emptyScalar t.stop
        else node fuel false false s
    if s.isDamaged then ([(k, .broken)], s)
    else
      let (v, s) := match s.tokens with
        | ⟨.value, _, _⟩ :: _ => nodeBehind fuel false false missesPairValue true s
        | t :: _ => s.emptyScalar t.start
        | [] => s.malformed
      if s.isDamaged then ([(k, v)], s)
      else if s.tokens.isEmpty then ([(k, v), (.broken, .broken)], s.malformed.2)
      else ([(k, v)], s.advance)

/-- The entries of a flow mapping up to its end; all but the first come behind a comma. -/
def flowEntries : (fuel : Nat) → (isFirst : Bool) → (done : List (Node × Node)) → Reading →
    List (Node × Node) × Reading
  | 0, _, done, s => (((Node.broken, Node.broken) :: done).reverse, s.malformed.2)
  | fuel + 1, isFirst, done, s =>
    let go (s : Reading) : List (Node × Node) × Reading :=
      let (isKey, kn) : Bool × (Node × Reading) := match s.tokens with
        | ⟨.key, _, _⟩ :: _ => (true, nodeBehind fuel false false missesFlowKey true s)
        | _ => (false, node fuel false false s)
      let (k, s) := kn
      if s.isDamaged then (((k, Node.broken) :: done).reverse, s)
      else
        let (v, s) := match isKey, s.tokens with
          | true, ⟨.value, _, _⟩ :: _ => nodeBehind fuel false false missesFlowValue true s
          | _, t :: _ => s.emptyScalar t.start
          | _, [] => s.malformed
        if s.isDamaged then (((k, v) :: done).reverse, s)
        else flowEntries fuel false ((k, v) :: done) s
    match isFirst, s.tokens with
    | _, ⟨.flowMappingEnd, _, _⟩ :: rest => (done.reverse, s.advanceTo rest)
    | true, _ => go s
    | false, ⟨.flowEntry, _, _⟩ :: ⟨.flowMappingEnd, _, _⟩ :: rest =>
      (done.reverse, s.advanceTo rest)
    | false, ⟨.flowEntry, _, _⟩ :: rest => go { s with tokens := rest }
    | false, _ => (((Node.broken, Node.broken) :: done).reverse, s.malformed.2)

end

/-! ## Documents -/

/-- The directives in front of a document: at most one version, which must be 1.1 or 1.2, and
handles of tags, none of them twice. -/
def directives : (hasVersion : Bool) → (declared : List (String × Tag)) → List Token →
    Option (List (String × Tag) × List Token)
  | hasVersion, declared, ⟨.versionDirective major minor, _, _⟩ :: rest =>
    if hasVersion || major != 1 || (minor != 1 && minor != 2) then none
    else directives true declared rest
  | hasVersion, declared, ⟨.tagDirective handle pre, _, _⟩ :: rest =>
    if declared.any (·.1 == handle) then none
    else directives hasVersion ((handle, pre) :: declared) rest
  | _, declared, rest => some (declared, rest)

/-- Whether a document has no content when this token stands where it would begin. -/
def endsDocument : TokenKind → Bool
  | .versionDirective .. | .tagDirective .. | .documentStart | .documentEnd | .streamEnd => true
  | _ => false

/-- The root of a document whose beginning has been read, and what comes behind it. -/
def root (s : Reading) (explicit : Bool) : Document :=
  let (n, s) := match explicit, s.tokens with
    | true, t :: _ =>
      if endsDocument t.kind then s.emptyScalar t.start
      else node (3 * s.tokens.length + 3) true false s
    | _, _ => node (3 * s.tokens.length + 3) true false s
  let damage? := if s.isDamaged then s.damage? else if s.tokens.isEmpty then some .malformed else none
  let isEnd : TokenKind → Bool
    | .documentEnd => true
    | _ => false
  let isFollowed := match s.tokens.dropWhile fun t => isEnd t.kind with
    | ⟨.streamEnd, _, _⟩ :: _ => false
    | _ => true
  { root? := some n, anchors := s.anchors, extent := s.extent, damage?, isFollowed }

end Reading

/-- The first document of a list of tokens. -/
def Document.ofTokens (tokens : List Token) : Document :=
  let broken : Document := { root? := some .broken, damage? := some .malformed, isFollowed := true }
  match tokens with
  | ⟨.streamStart, _, _⟩ :: rest =>
    match rest with
    | [] => broken
    | ⟨.streamEnd, _, _⟩ :: _ => {}
    | t :: _ =>
      if !Reading.endsDocument t.kind then Reading.root { tokens := rest } false
      else
        match Reading.directives false [] rest with
        | some (declared, ⟨.documentStart, _, _⟩ :: rest) =>
          let s : Reading := { tokens := rest }
          Reading.root { s with handles := declared ++ s.handles } true
        | _ => broken
  | _ => broken

/-- The first document of a text. -/
def Document.ofText (text : String) : Document := .ofTokens (scan text).1

end Polyglot.Yaml
