import Polyglot.Files.Glob
import Polyglot.Files.Tree
import Polyglot.Language.Registry
import Polyglot.Report.Summary

/-!
# Scans

Counting the files of a tree by the language that a registry sees in their extension.

- `Registry.survey`: the counts of given paths.
- `Registry.scan`: the counts of a walk.
-/

namespace Polyglot

universe u

variable {η : Type u}

namespace Registry

/-- Take the file at a path into account. -/
def tally (r : Registry η) (s : DetectionSummary) (p : Path) : DetectionSummary :=
  s.add ((r.detect? p).map (·.name))

/-- The counts of the files at the given paths. -/
def survey (r : Registry η) (ps : List Path) : DetectionSummary := ps.foldl r.tally .empty

/-- The counts of a walk from a root at the path `p`. -/
def scan (r : Registry η) (excluded : Path → Bool) (p : Path) (root : WalkRoot) :
    DetectionSummary :=
  r.survey (root.files excluded p)

end Registry

/-- Whether any of the patterns matches a path. -/
def Glob.anyAccepts (gs : List Glob) (p : Path) : Bool := gs.any (·.accepts p)

end Polyglot
