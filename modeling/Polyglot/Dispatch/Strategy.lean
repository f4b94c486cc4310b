import Polyglot.Text.Quoted

/-!
# Dispatch strategies

Which dispatcher a language uses: every rule sees every node, or nodes are
indexed by kind. A strategy has one written form and is read with any case of its
letters and with `_` for `-`.

- `Strategy.ofText_text`: the written form is read back.
-/

namespace Polyglot

/-- How rules are dispatched to the nodes of a unit. -/
inductive Strategy where
  /-- No index: every rule sees every node. -/
  | baseline
  /-- Nodes are indexed by kind, and a rule sees the kinds that it targets. -/
  | kindIndexed
deriving DecidableEq, Repr, Inhabited

namespace Strategy

/-- The written form. -/
def text : Strategy → String
  | .baseline => "baseline"
  | .kindIndexed => "kind-indexed"

/-- The name of the constructor, as outlines show it. -/
def label : Strategy → String
  | .baseline => "Baseline"
  | .kindIndexed => "KindIndexed"

/-- Lower case as far as it leads to ASCII: the letters `A` to `Z`, and the Kelvin sign, whose
lower case is the letter `k`. -/
def lowered (c : Char) : Char := if c = '\u212A' then 'k' else c.toLower

/-- Read a strategy whatever the case of its letters. -/
def ofText (s : String) : Except String Strategy :=
  let t := String.ofList (s.toList.map lowered)
  if t = "baseline" then .ok .baseline
  else if t = "kind-indexed" || t = "kind_indexed" then .ok .kindIndexed
  else .error ("unknown dispatch strategy: " ++ s)

/-- The written form is read back. -/
theorem ofText_text (s : Strategy) : ofText s.text = .ok s := by
  cases s <;> rfl

end Strategy

end Polyglot
