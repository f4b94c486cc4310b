import Polyglot.Dispatch.Rule

/-!
# The index of a unit by kind

For every kind that occurs among the nodes of a unit, the ascending positions of
the nodes of that kind.

- `KindIndex.ofKinds`: the index of a list of kinds.
- `KindIndex.select`: the positions of several kinds together, ascending and each once.
-/

namespace Polyglot

/-- Positions of nodes by kind, and how many nodes were indexed. -/
structure KindIndex where
  positions : List (String × List Nat) := []
  indexed : Nat := 0
deriving DecidableEq, Repr, Inhabited

namespace KindIndex

/-- Append a position to those of a kind; a new kind comes last. -/
def note (kind : String) (position : Nat) : List (String × List Nat) → List (String × List Nat)
  | [] => [(kind, [position])]
  | (k, ps) :: rest =>
    if k = kind then (k, ps ++ [position]) :: rest else (k, ps) :: note kind position rest

/-- Note kinds at consecutive positions, from `start` on. -/
def noteAll (start : Nat) (table : List (String × List Nat)) :
    List String → List (String × List Nat)
  | [] => table
  | k :: ks => noteAll (start + 1) (note k start table) ks

/-- The index of nodes with these kinds. -/
def ofKinds (kinds : List String) : KindIndex := ⟨noteAll 0 [] kinds, kinds.length⟩

/-- The positions of the nodes of a kind. -/
def find (x : KindIndex) (kind : String) : List Nat := (x.positions.lookup kind).getD []

/-- The number of nodes of a kind. -/
def count (x : KindIndex) (kind : String) : Nat := (x.find kind).length

/-- Of neighbours that are equal, keep one. -/
def dropRepeats : List Nat → List Nat
  | [] => []
  | [n] => [n]
  | m :: n :: ns => if m = n then dropRepeats (n :: ns) else m :: dropRepeats (n :: ns)

/-- The positions below `bound` of the nodes of any of the kinds, ascending and each once. -/
def select (x : KindIndex) (kinds : List String) (bound : Nat) : List Nat :=
  dropRepeats ((kinds.flatMap x.find).filter (· < bound)).mergeSort

end KindIndex

end Polyglot
