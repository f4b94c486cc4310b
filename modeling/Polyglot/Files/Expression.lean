import Polyglot.Files.Glob

/-!
# Expressions

The regular expression over bytes that stands for a pattern. Where a pattern looks at
all of a path, its expression may not be nested too deeply; parts side by side, the
branches of a group and the group itself each count as a level.

- `Glob.expression`: the text of the expression.
- `Glob.depth`: how deep it is nested.
- `Glob.tooDeep?`: which of several patterns is nested too deeply.
-/

namespace Polyglot

namespace Glob

/-! ## Text -/

/-- The characters that are no text in an expression unless a backslash precedes them. -/
def operators : List Char := "\\.+*?()|[]\x7b\x7d^$#&-~".toList

/-- A byte as a text. -/
def byteText (b : UInt8) : String :=
  let c := Char.ofNat b.toNat
  if 0x7F < b then
    "\\x" ++ String.ofList [Nat.digitChar (b.toNat / 16), Nat.digitChar (b.toNat % 16)]
  else if operators.contains c then "\\" ++ c.toString
  else c.toString

/-- A character as a text, byte by byte. -/
def charText (c : Char) : String := String.join ((String.utf8EncodeChar c).map byteText)

/-- A class in brackets. -/
def CharClass.text (c : CharClass) : String :=
  let ranges := c.ranges.map fun (first, last) =>
    if first = last then charText first else charText first ++ "-" ++ charText last
  "[" ++ (if c.negated then "^" else "") ++ String.join ranges ++ "]"

/-- A piece as an expression; a void group is nothing at all. -/
def Piece.text : Piece → String
  | .char c => charText c
  | .anyByte => "."
  | .anyBytes => ".*"
  | .leadingFolders => "(?:/?|.*/)"
  | .innerFolders => "(?:/|/.*/)"
  | .contents => "/.*"
  | .oneOf c => c.text
  | .group [] => ""
  | .group branches => "(?:" ++ "|".intercalate (branchTexts branches) ++ ")"
where
  /-- Pieces side by side. -/
  allText : List Piece → String
    | [] => ""
    | p :: ps => p.text ++ allText ps
  /-- Every branch by itself. -/
  branchTexts : List (List Piece) → List String
    | [] => []
    | b :: bs => allText b :: branchTexts bs

/-- The expression that stands for the pattern; it concerns all bytes of a path. -/
def expression (g : Glob) : String :=
  match g.pieces with
  | [.leadingFolders] => "(?-u)^.*$"
  | pieces => "(?-u)^" ++ Piece.text.allText pieces ++ "$"

/-! ## Depth -/

/-- How many parts stand side by side, and how deep the deepest one is. -/
structure Extent where
  parts : Nat
  depth : Nat
deriving DecidableEq, Repr

/-- Two extents side by side. -/
def Extent.beside (a b : Extent) : Extent := ⟨a.parts + b.parts, max a.depth b.depth⟩

/-- Parts side by side are a level of their own as soon as there are two. -/
def Extent.levels (a : Extent) : Nat := if a.parts < 2 then a.depth else a.depth + 1

/-- A class in brackets is a level, and so are its ranges as soon as there are two. -/
def CharClass.depth (c : CharClass) : Nat :=
  let ranges := c.ranges.flatMap fun (first, last) => byteRanges first last
  Extent.levels ⟨ranges.length, 0⟩ + 1

/-- The extent of a piece. -/
def Piece.extent : Piece → Extent
  | .char c => ⟨(String.utf8EncodeChar c).length, 0⟩
  | .anyByte => ⟨1, 0⟩
  | .anyBytes => ⟨1, 1⟩
  | .leadingFolders => ⟨1, 4⟩
  | .innerFolders => ⟨1, 4⟩
  | .contents => ⟨2, 1⟩
  | .oneOf c => ⟨1, c.depth⟩
  | .group [] => ⟨0, 0⟩
  | .group branches => ⟨1, (branchExtent branches).levels + 1⟩
where
  /-- Pieces side by side. -/
  allExtent : List Piece → Extent
    | [] => ⟨0, 0⟩
    | p :: ps => p.extent.beside (allExtent ps)
  /-- Branches, each of them one part. -/
  branchExtent : List (List Piece) → Extent
    | [] => ⟨0, 0⟩
    | b :: bs => Extent.beside ⟨1, (allExtent b).levels⟩ (branchExtent bs)

/-- The depth of the expression; its two ends stand beside the pieces. -/
def depth (g : Glob) : Nat :=
  match g.pieces with
  | [.leadingFolders] => 2
  | pieces => (Piece.extent.allExtent pieces).depth + 1

/-- The depth that no expression may exceed. -/
def maxDepth : Nat := 250

/-! ## Several patterns -/

/-- Which pattern is nested too deeply. -/
inductive DepthFault where
  /-- One that also asks for an extension, known by its expression. -/
  | extended (expression : String)
  /-- One that only looks at all of a path, known by its place among those that do. -/
  | whole (place : Nat)
deriving DecidableEq, Repr

def DepthFault.message : DepthFault → String
  | .extended expression => "error parsing glob '" ++ expression ++ "': error parsing pattern 0"
  | .whole place => "error parsing pattern " ++ toString place

/-- The pattern that is nested too deeply; those that ask for an extension come first. -/
def tooDeep? (gs : List Glob) : Option DepthFault :=
  let among (d : Demand) : List Glob := gs.filter fun g => g.demand = d
  match (among .extended).find? fun g => maxDepth < g.depth with
  | some g => some (.extended g.expression)
  | none => ((among .whole).findIdx? fun g => maxDepth < g.depth).map .whole

end Glob

end Polyglot
