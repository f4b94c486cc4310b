import Polyglot.Files.Scan
import Polyglot.Proofs.Files.Tree
import Polyglot.Proofs.Report.Summary

/-!
# What a scan counts

A scan goes down a tree, leaves out what is excluded, and keeps counters on the way. Its
summary is told by the listing of the tree alone: the open files of the listing, each
counted once, under the language that the registry sees in its path
(`scan_counts_open_files`).
-/

namespace Polyglot

universe u

variable {η : Type u}

namespace Registry

/-- The name of the language of a path. -/
def languageName? (r : Registry η) (p : Path) : Option String := (r.detect? p).map (·.name)

/-- A survey counts each of its paths once. -/
theorem counts_survey (r : Registry η) (ps : List Path) :
    (r.survey ps).Counts (ps.map r.languageName?) := by
  have h := DetectionSummary.counts_foldl DetectionSummary.counts_empty (ps.map r.languageName?)
  rw [List.foldl_map, List.nil_append] at h
  exact h

theorem counts_scan (r : Registry η) (excluded : Path → Bool) (p : Path) (root : WalkRoot) :
    (r.scan excluded p root).Counts
      ((root.openFiles excluded p).map fun f => r.languageName? f.path) := by
  have h := r.counts_survey ((root.openFiles excluded p).map FoundFile.path)
  rw [List.map_map] at h
  rw [scan, WalkRoot.files_eq]
  exact h

theorem count_map_eq_countP {α β : Type} [BEq β] [LawfulBEq β] [DecidableEq β] (f : α → β)
    (xs : List α) (b : β) : (xs.map f).count b = xs.countP fun a => f a = b := by
  rw [List.count, List.countP_map]
  exact List.countP_congr fun a _ => by simp

theorem languageName?_eq_none {r : Registry η} {p : Path} :
    r.languageName? p = none ↔ (r.detect? p).isNone = true := by
  rw [languageName?, Option.map_eq_none_iff, Option.isNone_iff_eq_none]

/-- A scan counts every file once that is not excluded and around which no folder is: under the
name of its language if it has one, and as unrecognized if not. A name is in the summary once, and
only if it has a file. The order in which folders are listed makes no difference. -/
theorem scan_counts_open_files (r : Registry η) (excluded : Path → Bool) (p : Path)
    (root : WalkRoot) :
    let s := r.scan excluded p root
    let files := root.openFiles excluded p
    s.filesScanned = files.length ∧
      (∀ name, s.count name = files.countP fun f => r.languageName? f.path = some name) ∧
      (∀ name n, (name, n) ∈ s.byLanguage ↔ 0 < n ∧ n = s.count name) ∧
      s.byLanguage.Pairwise (·.1 < ·.1) ∧
      s.unrecognized = files.countP (fun f => (r.detect? f.path).isNone) ∧
      s.filesScanned = (s.byLanguage.map Prod.snd).sum + s.unrecognized ∧
      ∀ root', root.Relisted root' → r.scan excluded p root' = s := by
  intro s files
  have h : s.Counts (files.map fun f => r.languageName? f.path) := r.counts_scan excluded p root
  refine ⟨?_, fun name => ?_, fun name n => ?_, s.ascending, ?_, h.total, fun root' hroot => ?_⟩
  · rw [h.scanned, List.length_map]
  · rw [h.count, count_map_eq_countP]
  · rw [h.mem_byLanguage, h.count]
  · rw [h.unrecognized, count_map_eq_countP]
    exact List.countP_congr fun f _ => by
      rw [decide_eq_true_eq, languageName?_eq_none]
  · -- the listings hold the same files, and so do the parts of them that are open
    have hfiles : files.Perm (root'.openFiles excluded p) := (hroot.listing_perm p).filter _
    exact ((r.counts_scan excluded p root').eq_of_perm h (hfiles.map _).symm)

/-! ## A scan of a tree -/

/-- A language with one version. -/
def oneVersion (name terseName id : String) (extensions : List String) : LanguageModule Unit where
  table := (VersionTable.empty { name, terseName }).add id [] () rfl
  extensions := extensions
  strategy := .baseline
  default := 0
  default_lt := Nat.one_pos

/-- Two languages with an extension in common. -/
def matlabAndObjectiveC : Registry Unit where
  modules := [oneVersion "Matlab" "matlab" "R2024a" ["m"],
    oneVersion "Objective-C" "objc" "2.0" ["m", "mm"]]
  ascending := by decide

end Registry

namespace FileTree

/-- An entry of a folder. -/
def named (name : String) (t : FileTree) : List UInt8 × FileTree := ((Path.ofString name).bytes, t)

/-- A folder with two folders in it. -/
def nested : FileTree :=
  .folder [named "a.m" .file, named "lib" (.folder [named "b.mm" .file, named "notes" .file]),
    named "out" (.folder [named "c.m" .file])]

/-- The same folder, listed otherwise on both levels. -/
def nestedRelisted : FileTree :=
  .folder [named "lib" (.folder [named "notes" .file, named "b.mm" .file]), named "a.m" .file,
    named "out" (.folder [named "c.m" .file])]

theorem nested_relisted : nested.Relisted nestedRelisted := by
  refine .trans (.order (.swap _ _ _)) ?_
  exact @Relisted.inside [] _ _ _ _ (.order (.swap _ _ _))

/-- Whether a path is that of the second folder in `nested`. -/
def isOut (p : Path) : Bool := p == .ofString "src/out"

end FileTree

/-- The excluded folder is left out with the file in it, the common extension goes to the first
language by name, and the order of the listing is not seen. -/
theorem Registry.scan_counts_nested :
    FileTree.nested.Relisted FileTree.nestedRelisted ∧
      matlabAndObjectiveC.scan FileTree.isOut (.ofString "src") (.direct .nestedRelisted)
        = matlabAndObjectiveC.scan FileTree.isOut (.ofString "src") (.direct .nested) ∧
      matlabAndObjectiveC.scan FileTree.isOut (.ofString "src") (.direct .nested)
        = { filesScanned := 3, byLanguage := [("Matlab", 1), ("Objective-C", 1)],
            unrecognized := 1 } := by
  obtain ⟨-, -, -, -, -, -, hrelisted⟩ :=
    matlabAndObjectiveC.scan_counts_open_files FileTree.isOut (.ofString "src") (.direct .nested)
  exact ⟨FileTree.nested_relisted, hrelisted _ (.direct FileTree.nested_relisted),
    by decide +kernel⟩

end Polyglot
