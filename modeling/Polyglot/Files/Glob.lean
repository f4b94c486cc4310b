import Polyglot.Files.Path

/-!
# Glob patterns

A pattern stands for a set of paths and is matched against all bytes of a path. A
slash is a byte like any other: `?` is any byte and `*` any bytes. Two stars between
slashes, or between a slash and an end, stand for whole folders. The end `..` of a
path is no name, so a pattern that asks for a name or an extension rejects it.

- `Glob.ofString`: read a pattern, or say what is wrong with it.
- `Glob.demand`: what a pattern looks at, from a name alone to all of a path.
- `Glob.accepts`: whether a path belongs to the set.
- `readRanges_length_lt`: a class ends before its text does, so reading comes to an end.
-/

namespace Polyglot

namespace Glob

/-! ## Patterns -/

/-- The characters between brackets: ranges with both ends, a single character being a range
of its own. -/
structure CharClass where
  negated : Bool
  ranges : List (Char × Char)
deriving DecidableEq, Repr

/-- One part of a pattern. -/
inductive Piece where
  | char (c : Char)
  | anyByte
  | anyBytes
  /-- Folders at the start, or none: two stars and a slash. -/
  | leadingFolders
  /-- Folders between two names, or none: two stars between slashes. -/
  | innerFolders
  /-- Whatever lies in a folder: two stars behind the last slash. -/
  | contents
  | oneOf (c : CharClass)
  /-- One of several branches; a group without branches is void. -/
  | group (branches : List (List Piece))

/-- What is wrong with the text of a pattern. -/
inductive Fault where
  | unclosedClass
  | invalidRange (first last : Char)
  | unopenedGroup
  | unclosedGroup
  | danglingEscape
deriving DecidableEq, Repr

def Fault.message : Fault → String
  | .unclosedClass => "unclosed character class; missing ']'"
  | .invalidRange first last =>
    "invalid range; '" ++ first.toString ++ "' > '" ++ last.toString ++ "'"
  | .unopenedGroup =>
    "unopened alternate group; missing '\x7b' (maybe escape '\x7d' with '[\x7d]'?)"
  | .unclosedGroup =>
    "unclosed alternate group; missing '\x7d' (maybe escape '\x7b' with '[\x7b]'?)"
  | .danglingEscape => "dangling '\\'"

/-! ## Matching -/

/-- A range of characters as ranges of bytes: the last byte of its first character up to the
first byte of its last one, and every other byte of the two by itself. -/
def byteRanges (first last : Char) : List (UInt8 × UInt8) :=
  let as := String.utf8EncodeChar first
  let bs := String.utf8EncodeChar last
  let single (b : UInt8) : UInt8 × UInt8 := (b, b)
  if first = last then as.map single
  else as.dropLast.map single ++ [(as.getLastD 0, bs.headD 0)] ++ bs.tail.map single

/-- Whether a byte is in the class. -/
def CharClass.contains (c : CharClass) (b : UInt8) : Bool :=
  let listed := c.ranges.any fun (first, last) =>
    (byteRanges first last).any fun (lo, hi) => lo ≤ b && b ≤ hi
  listed != c.negated

/-- All ends of a list, the list itself among them. -/
def suffixes : List UInt8 → List (List UInt8)
  | [] => [[]]
  | b :: bs => (b :: bs) :: suffixes bs

/-- What stands behind each slash. -/
def afterSlashes : List UInt8 → List (List UInt8)
  | [] => []
  | b :: bs => if b = Path.slash then bs :: afterSlashes bs else afterSlashes bs

/-- What a piece can leave of a text, matching from its front. -/
def Piece.rests : Piece → List UInt8 → List (List UInt8)
  | .char c, s =>
    let bytes := String.utf8EncodeChar c
    if bytes.isPrefixOf s then [s.drop bytes.length] else []
  | .anyByte, s => s.tail?.toList
  | .anyBytes, s => suffixes s
  | .leadingFolders, s => s :: afterSlashes s
  | .innerFolders, s => if s.head? = some Path.slash then s.tail :: afterSlashes s.tail else []
  | .contents, s => if s.head? = some Path.slash then suffixes s.tail else []
  | .oneOf c, s => if s.head?.any c.contains then [s.tail] else []
  | .group [], s => [s]
  | .group branches, s => branchRests branches s
where
  /-- What pieces can leave, one behind the other. -/
  allRests : List Piece → List (List UInt8) → List (List UInt8)
    | [], ss => ss
    | p :: ps, ss => allRests ps (ss.flatMap p.rests).eraseDups
  /-- What any of the branches can leave. -/
  branchRests : List (List Piece) → List UInt8 → List (List UInt8)
    | [], _ => []
    | b :: bs, s => allRests b [s] ++ branchRests bs s

end Glob

/-- A pattern that was read. -/
structure Glob where
  pieces : List Glob.Piece

namespace Glob

/-! ## Demands -/

/-- What a pattern looks at in a path. -/
inductive Demand where
  /-- The name in its folder, or the extension, and nothing else. -/
  | name
  /-- A text that the path is, begins with or ends with. -/
  | text
  /-- The extension, and all of the path. -/
  | extended
  /-- All of the path. -/
  | whole
deriving DecidableEq, Repr

namespace Demand

/-- A dot and characters that are neither dots nor slashes. -/
def isExtension : List Char → Bool
  | '.' :: cs => cs.all fun c => c != '.' && c != '/'
  | _ => false

/-- The demand of a text that any bytes may precede. -/
def ofEnd (cs : List Char) : Demand :=
  if isExtension cs then .name else if cs.isEmpty || cs == ['/'] then .whole else .text

/-- The demand of a text that any folders may precede. -/
def inFolders (cs : List Char) : Demand :=
  if cs.isEmpty then .whole else if cs.contains '/' then .text else .name

/-- The demand of a text by itself. -/
def ofText (cs : List Char) : Demand := if cs.isEmpty then .whole else .text

end Demand

/-- The character that a piece is. -/
def Piece.char? : Piece → Option Char
  | .char c => some c
  | _ => none

/-- Whether the pieces are a text and then anything. -/
def isBeginning (ps : List Piece) : Bool :=
  let written := ps.dropLast.all fun p => p.char?.isSome
  match ps.getLast? with
  | some .anyBytes => written
  | some .contents => written
  | _ => false

/-- Whether the pieces end in an extension that is written out. -/
def endsInExtension (ps : List Piece) : Bool :=
  let isDot (c : Char) : Bool := c == '.'
  let written := (ps.reverse.map Piece.char?).takeWhile Option.isSome
  let behindDot := written.takeWhile fun c? => !c?.any isDot
  behindDot.length < written.length && !behindDot.contains (some '/')

/-- The least that tells whether a path belongs to the set. -/
def demand (g : Glob) : Demand :=
  match g.pieces with
  | .leadingFolders :: .anyBytes :: ps => ofPieces Demand.ofEnd ps
  | .leadingFolders :: ps => ofPieces Demand.inFolders ps
  | .anyBytes :: ps => ofPieces Demand.ofEnd ps
  | ps => if isBeginning ps then .text else ofPieces Demand.ofText ps
where
  /-- The demand of a text if all pieces are characters, and else by the end of the pieces. -/
  ofPieces (ofText : List Char → Demand) (ps : List Piece) : Demand :=
    match ps.mapM Piece.char? with
    | some cs => ofText cs
    | none => if endsInExtension ps then .extended else .whole

/-- Whether the pattern asks for a name or an extension. -/
def asksForName (g : Glob) : Bool :=
  match g.demand with
  | .name => true
  | .extended => true
  | _ => false

/-! ## Acceptance -/

/-- Whether the pattern matches the whole path; leading folders alone match every path. -/
def accepts (g : Glob) (p : Path) : Bool :=
  match g.pieces with
  | [.leadingFolders] => true
  | pieces =>
    (Piece.rests.allRests pieces [p.bytes]).contains [] && !(p.endsInParent && g.asksForName)

/-! ## Classes -/

/-- Stretch the latest range up to `c`. -/
def stretch (c : Char) : List (Char × Char) → Except Fault (List (Char × Char))
  | [] => .ok [(c, c)]
  | (first, _) :: ranges =>
    if c < first then .error (.invalidRange first c) else .ok ((first, c) :: ranges)

/-- The ranges up to the closing bracket, and what follows it; `done` came before, last first,
and `dash` tells of a dash that waits for its right end. A dash that waits in vain is itself in
the class. -/
def readRanges (done : List (Char × Char)) (dash : Bool) :
    List Char → Except Fault (List (Char × Char) × List Char)
  | [] => .error .unclosedClass
  | c :: cs =>
    if c = ']' then .ok ((if dash then ('-', '-') :: done else done).reverse, cs)
    else if dash then
      match stretch c done with
      | .ok done => readRanges done false cs
      | .error e => .error e
    else if c = '-' then readRanges done true cs
    else readRanges ((c, c) :: done) false cs

theorem readRanges_length_lt {done : List (Char × Char)} {dash : Bool} {cs : List Char}
    {out : List (Char × Char) × List Char} (h : readRanges done dash cs = .ok out) :
    out.2.length < cs.length := by
  fun_induction readRanges done dash cs <;> grind

/-- The inside of a class that is not negated; its first character stands for itself. -/
def readListed : List Char → Except Fault (List (Char × Char) × List Char)
  | [] => .error .unclosedClass
  | c :: cs => readRanges [(c, c)] false cs

/-- The inside of a class; `!` or `^` in front negates it. -/
def readClass : List Char → Except Fault (CharClass × List Char)
  | [] => .error .unclosedClass
  | c :: cs =>
    if c = '!' || c = '^' then (readListed cs).map fun (ranges, rest) => (⟨true, ranges⟩, rest)
    else (readListed (c :: cs)).map fun (ranges, rest) => (⟨false, ranges⟩, rest)

theorem readListed_length_lt {cs : List Char} {out : List (Char × Char) × List Char}
    (h : readListed cs = .ok out) : out.2.length < cs.length := by
  cases cs with
  | nil => simp [readListed] at h
  | cons c cs => exact Nat.lt_succ_of_lt (readRanges_length_lt h)

theorem readClass_length_lt {cs rest : List Char} {c : CharClass}
    (h : readClass cs = .ok (c, rest)) : rest.length < cs.length := by
  cases cs with
  | nil => simp [readClass] at h
  | cons d cs =>
    rw [readClass] at h
    split at h
    · cases h' : readListed cs with
      | error e => simp [h', Except.map] at h
      | ok r =>
        have := readListed_length_lt h'
        grind [Except.map]
    · cases h' : readListed (d :: cs) with
      | error e => simp [h', Except.map] at h
      | ok r =>
        have := readListed_length_lt h'
        grind [Except.map]

/-! ## Reading -/

/-- A group that is being read: the pieces in front of it and its finished branches, both last
first. -/
structure OpenGroup where
  before : List Piece
  branches : List (List Piece)

/-- What was read so far: the pieces of the present branch, last first, and the groups around
it, innermost first. -/
structure Draft where
  pieces : List Piece := []
  groups : List OpenGroup := []

namespace Draft

def push (d : Draft) (p : Piece) : Draft := { d with pieces := p :: d.pieces }

/-- Put a piece in the place of the latest one, unless that one stands for leading folders. -/
def replace (d : Draft) (p : Piece) : Draft :=
  match d.pieces with
  | .leadingFolders :: _ => d
  | pieces => { d with pieces := p :: pieces.tail }

/-- Two stars between the characters `previous?` and `next?`, if they stand for folders. -/
def folders? (d : Draft) (previous? next? : Option Char) : Option Draft :=
  let grouped := !d.groups.isEmpty
  if d.pieces.isEmpty then
    if next?.all (· = '/') then some (d.push .leadingFolders) else none
  else if previous? = some '/' || (grouped && (previous? = some ',' || previous? = some '\x7b')) then
    if next? = none || (grouped && (next? = some ',' || next? = some '\x7d')) then
      some (d.replace .contents)
    else if next? = some '/' then some (d.replace .innerFolders)
    else none
  else none

def openGroup (d : Draft) : Draft := ⟨[], ⟨d.pieces, []⟩ :: d.groups⟩

/-- A comma: the end of a branch, and outside of groups itself. -/
def comma (d : Draft) : Draft :=
  match d.groups with
  | [] => d.push (.char ',')
  | g :: groups => ⟨[], { g with branches := d.pieces.reverse :: g.branches } :: groups⟩

def isVoid : Piece → Bool
  | .group [] => true
  | _ => false

/-- The end of a group. Branches of which nothing remains are dropped. -/
def closeGroup? (d : Draft) : Option Draft :=
  match d.groups with
  | [] => none
  | g :: groups =>
    let branches := (d.pieces.reverse :: g.branches).reverse.filter fun b => !b.all isVoid
    some ⟨.group branches :: g.before, groups⟩

/-- Read on; `previous?` is the character in front. -/
def read (d : Draft) (previous? : Option Char) (cs : List Char) : Except Fault Draft :=
  match cs with
  | [] => .ok d
  | '\\' :: [] => .error .danglingEscape
  | '\\' :: c :: cs => (d.push (.char c)).read (some c) cs
  | '?' :: cs => (d.push .anyByte).read (some '?') cs
  | '*' :: '*' :: cs =>
    match d.folders? previous? cs.head? with
    | some d =>
      match cs with
      | '/' :: cs => d.read (some '/') cs
      | cs => d.read (some '*') cs
    | none => ((d.push .anyBytes).push .anyBytes).read (some '*') cs
  | '*' :: cs => (d.push .anyBytes).read (some '*') cs
  | '[' :: cs =>
    match h : readClass cs with
    | .ok (c, rest) =>
      have : rest.length < cs.length := readClass_length_lt h
      (d.push (.oneOf c)).read (some ']') rest
    | .error e => .error e
  | '\x7b' :: cs => d.openGroup.read (some '\x7b') cs
  | '\x7d' :: cs =>
    match d.closeGroup? with
    | some d => d.read (some '\x7d') cs
    | none => .error .unopenedGroup
  | ',' :: cs => d.comma.read (some ',') cs
  | c :: cs => (d.push (.char c)).read (some c) cs
termination_by cs.length

end Draft

/-- The pattern that a text stands for. -/
def ofString (s : String) : Except Fault Glob := do
  let d ← Draft.read {} none s.toList
  if d.groups.isEmpty then .ok ⟨d.pieces.reverse⟩ else .error .unclosedGroup

end Glob

end Polyglot
