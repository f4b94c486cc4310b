import Polyglot.Yaml.Token

/-!
# Nodes

The tree of a document: scalars, sequences, mappings and aliases, each with the
place where it begins. A document may end early, where the text is malformed or an
alias has no anchor; a broken node then stands for all that would follow.

Nodes are numbered in the order in which they and the ends of collections appear,
and an anchor stands for the number of its node.

- `Node.isWhole`: whether a node is there to its end.
- `Node.find?`: the node of a number.
-/

namespace Polyglot.Yaml

/-- A node of a document. -/
inductive Node where
  | scalar (position : Nat) (mark : Mark) (tag : Option Tag) (style : ScalarStyle)
      (text : String)
  | alias (position : Nat) (mark : Mark) (anchor : Nat)
  | sequence (position : Nat) (mark : Mark) (tag : Option Tag) (items : List Node)
  | mapping (position : Nat) (mark : Mark) (tag : Option Tag) (entries : List (Node × Node))
  | broken
deriving Inhabited

/-- Why a document ends early. -/
inductive Damage where
  | malformed
  | unknownAnchor (mark : Mark)
deriving DecidableEq, Repr

namespace Node

def position : Node → Nat
  | .scalar p .. => p
  | .alias p .. => p
  | .sequence p .. => p
  | .mapping p .. => p
  | .broken => 0

def mark : Node → Mark
  | .scalar _ m .. => m
  | .alias _ m .. => m
  | .sequence _ m .. => m
  | .mapping _ m .. => m
  | .broken => {}

/-- Whether the node is there to its end. -/
def isWhole : Node → Bool
  | .scalar .. => true
  | .alias .. => true
  | .sequence _ _ _ items => allWhole items
  | .mapping _ _ _ entries => entriesWhole entries
  | .broken => false
where
  allWhole : List Node → Bool
    | [] => true
    | n :: ns => n.isWhole && allWhole ns
  entriesWhole : List (Node × Node) → Bool
    | [] => true
    | (k, v) :: es => k.isWhole && v.isWhole && entriesWhole es

/-- The node of a number, if it is this one or one inside it. -/
def find? (number : Nat) : Node → Option Node
  | .scalar p m t s x => if p = number then some (.scalar p m t s x) else none
  | .alias p m a => if p = number then some (.alias p m a) else none
  | .sequence p m t items =>
    if p = number then some (.sequence p m t items) else findIn number items
  | .mapping p m t entries =>
    if p = number then some (.mapping p m t entries) else findInEntries number entries
  | .broken => none
where
  findIn (number : Nat) : List Node → Option Node
    | [] => none
    | n :: ns => (n.find? number).or (findIn number ns)
  findInEntries (number : Nat) : List (Node × Node) → Option Node
    | [] => none
    | (k, v) :: es => ((k.find? number).or (v.find? number)).or (findInEntries number es)

end Node

/-- A document: its root, which an empty text does not have; the numbers that anchors stand for;
how many numbers were given out; and why it ends early, if it does. -/
structure Document where
  root? : Option Node := none
  /-- The anchors, by number of anchor, the latest first. -/
  anchors : List (Nat × Nat) := []
  extent : Nat := 0
  damage? : Option Damage := none
  /-- Whether anything follows the document. -/
  isFollowed : Bool := false

/-- The node that an anchor stands for. -/
def Document.target? (d : Document) (anchor : Nat) : Option Node := do
  let position ← d.anchors.lookup anchor
  let root ← d.root?
  root.find? position

end Polyglot.Yaml
