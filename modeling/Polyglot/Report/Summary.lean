import Polyglot.Json.Format

/-!
# Detection summaries

How many files a scan saw, how many of them belong to each language, and how many to
none.
-/

namespace Polyglot

/-- The outcome of a scan. The counts are kept in ascending order of language name. -/
@[ext]
structure DetectionSummary where
  filesScanned : Nat := 0
  byLanguage : List (String × Nat) := []
  unrecognized : Nat := 0
  ascending : byLanguage.Pairwise (·.1 < ·.1) := by decide
deriving DecidableEq, Repr

namespace DetectionSummary

/-- No files yet. -/
def empty : DetectionSummary where
  ascending := .nil

/-- Add one to the count of a language. -/
def countUp (name : String) : List (String × Nat) → List (String × Nat) :=
  Entries.update (fun n? => n?.getD 0 + 1) name

/-- Take one more file into account, with the name of its language if it has one. -/
def add (s : DetectionSummary) : Option String → DetectionSummary
  | some name =>
    { s with
      filesScanned := s.filesScanned + 1
      byLanguage := countUp name s.byLanguage
      ascending := Entries.update_ascending _ name s.ascending }
  | none => { s with filesScanned := s.filesScanned + 1, unrecognized := s.unrecognized + 1 }

/-- The number of files of a language. -/
def count (s : DetectionSummary) (name : String) : Nat := (s.byLanguage.lookup name).getD 0

/-! ## JSON -/

def toJson (s : DetectionSummary) : Json.Value :=
  .object [("files_scanned", .ofNat s.filesScanned),
    ("by_language", .object (s.byLanguage.map fun (name, n) => (name, .ofNat n))),
    ("unrecognized", .ofNat s.unrecognized)]

def ofJson : Json.Value → Except Problem DetectionSummary :=
  Json.format.record "DetectionSummary"
    [.required "files_scanned" Json.Value.readCount fun s v => { s with filesScanned := v },
      .required "by_language" (Json.Value.readMap Json.Value.readCount)
        fun s v => { s with byLanguage := v.1, ascending := v.2 },
      .required "unrecognized" Json.Value.readCount fun s v => { s with unrecognized := v }]
    empty

end DetectionSummary

end Polyglot
