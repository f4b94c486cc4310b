import Polyglot.Proofs.Files.Scan
import Polyglot.Proofs.Language.Registry

/-!
# A scan with one more language

A module that is added to a registry stands somewhere among the others and may come before
the one that a path had as its language. So a path keeps its language or goes over to the new
one (`detect?_insert`), and the same is seen in the counts of a scan: whatever a count loses,
the new language has (`scan_insert_moves`).
-/

namespace Polyglot

universe u

variable {η : Type u}

namespace Registry

section

variable {r r' : Registry η} {m : LanguageModule η}

/-- With one more module the first one with a property is the same, or it is the new one. -/
theorem find?_insertByName (m : LanguageModule η) (p : LanguageModule η → Bool)
    (ns : List (LanguageModule η)) :
    (insertByName m ns).find? p = ns.find? p ∨ (insertByName m ns).find? p = some m := by
  induction ns with
  | nil =>
    rw [insertByName, List.find?_cons]
    cases p m with
    | true => exact .inr rfl
    | false => exact .inl rfl
  | cons n ns ih =>
    rw [insertByName]
    by_cases hlt : m.name < n.name
    · rw [if_pos hlt, List.find?_cons]
      cases p m with
      | true => exact .inr rfl
      | false => exact .inl rfl
    · rw [if_neg hlt, List.find?_cons, List.find?_cons]
      cases p n with
      | true => exact .inl rfl
      | false => exact ih

/-- A path keeps its language or goes over to the new one. -/
theorem detect?_insert (h : r.insert m = .ok r') (q : Path) :
    r'.detect? q = r.detect? q ∨ r'.detect? q = some m := by
  rw [detect?, detect?, modules_insert h]
  cases q.extensionText? with
  | none => exact .inl rfl
  | some e => exact find?_insertByName m (·.hasExtension e) r.modules

theorem languageName?_insert (h : r.insert m = .ok r') (q : Path) :
    r'.languageName? q = r.languageName? q ∨ r'.languageName? q = some m.name := by
  rw [languageName?, languageName?]
  rcases detect?_insert h q with hsame | hnew
  · rw [hsame]
    exact .inl rfl
  · rw [hnew]
    exact .inr rfl

/-- No file goes over to a language other than the new one. -/
theorem count_languageName?_insert (h : r.insert m = .ok r') {language : Option String}
    (hne : language ≠ some m.name) (files : List FoundFile) :
    (files.map fun f => r'.languageName? f.path).count language
      ≤ (files.map fun f => r.languageName? f.path).count language := by
  rw [count_map_eq_countP, count_map_eq_countP]
  refine List.countP_mono_left fun f _ hf => ?_
  rw [decide_eq_true_eq] at hf ⊢
  rcases languageName?_insert h f.path with hsame | hnew
  · exact hsame ▸ hf
  · exact absurd (hf.symm.trans hnew) hne

/-- A path has a language under a name only if there is a module of this name. -/
theorem mem_names_of_languageName? {q : Path} {name : String}
    (h : r.languageName? q = some name) : name ∈ r.names := by
  obtain ⟨n, hn, rfl⟩ := Option.map_eq_some_iff.1 h
  obtain ⟨e, -, hfind⟩ := Option.bind_eq_some_iff.1 hn
  exact List.mem_map_of_mem (List.mem_of_find?_eq_some hfind)

/-- A language without a module has no files. -/
theorem count_scan_of_not_mem (hfree : m.name ∉ r.names) (excluded : Path → Bool) (p : Path)
    (root : WalkRoot) : (r.scan excluded p root).count m.name = 0 := by
  rw [(r.counts_scan excluded p root).count, List.count_eq_zero, List.mem_map]
  rintro ⟨f, -, hf⟩
  exact hfree (mem_names_of_languageName? hf)

end

/-- Adding a language moves files to it and no others. As many files are scanned as before, no
other count grows, and the count of the new language is what the others lost together. A path
keeps its language or goes over to the new one. -/
theorem scan_insert_moves {r r' : Registry η} {m : LanguageModule η} (h : r.insert m = .ok r')
    (excluded : Path → Bool) (p : Path) (root : WalkRoot) :
    let before := r.scan excluded p root
    let behind := r'.scan excluded p root
    behind.filesScanned = before.filesScanned ∧
      behind.unrecognized ≤ before.unrecognized ∧
      (∀ name, name ≠ m.name → behind.count name ≤ before.count name) ∧
      behind.count m.name
        = (before.byLanguage.map fun e => e.2 - behind.count e.1).sum
          + (before.unrecognized - behind.unrecognized) ∧
      ∀ q, r'.detect? q = r.detect? q ∨ r'.detect? q = some m := by
  intro before behind
  have hbefore : before.Counts _ := r.counts_scan excluded p root
  have hbehind : behind.Counts _ := r'.counts_scan excluded p root
  have hfree : m.name ∉ r.names := exists_insert_eq_ok.1 ⟨r', h⟩
  have hscanned : behind.filesScanned = before.filesScanned := by
    rw [hbehind.scanned, hbefore.scanned, List.length_map, List.length_map]
  have hunrecognized : behind.unrecognized ≤ before.unrecognized := by
    rw [hbehind.unrecognized, hbefore.unrecognized]
    exact count_languageName?_insert h (Option.some_ne_none _).symm _
  have hothers : ∀ name, name ≠ m.name → behind.count name ≤ before.count name := by
    intro name hne
    rw [hbehind.count, hbefore.count]
    exact count_languageName?_insert h (fun heq => hne (Option.some.inj heq)) _
  have hgain := hbefore.gain_eq_losses hbehind hscanned hunrecognized hothers
    (count_scan_of_not_mem hfree excluded p root)
  exact ⟨hscanned, hunrecognized, hothers, hgain, detect?_insert h⟩

/-! ## A language that comes first -/

/-- A language with an extension of `matlabAndObjectiveC` and one of its own. -/
def limbo : LanguageModule Unit := oneVersion "Limbo" "limbo" "1.0" ["m", "b"]

/-- The three languages; the new one has the least name. -/
def withLimbo : Registry Unit where
  modules := limbo :: matlabAndObjectiveC.modules
  ascending := by decide

end Registry

/-- A folder with a file for each of the extensions. -/
def FileTree.sources : FileTree :=
  .folder [named "sys.m" .file, named "main.b" .file, named "view.mm" .file, named "notes" .file]

/-- One language loses its file to the new one, and so does what was unrecognized. -/
theorem Registry.scan_insert_moves_limbo :
    matlabAndObjectiveC.insert limbo = .ok withLimbo ∧
      matlabAndObjectiveC.scan (fun _ => false) (.ofString "src") (.direct .sources)
        = { filesScanned := 4, byLanguage := [("Matlab", 1), ("Objective-C", 1)],
            unrecognized := 2 } ∧
      (withLimbo.scan (fun _ => false) (.ofString "src") (.direct .sources)).unrecognized = 1 ∧
      (withLimbo.scan (fun _ => false) (.ofString "src") (.direct .sources)).count "Limbo"
        = 2 := by
  have hinsert : matlabAndObjectiveC.insert limbo = .ok withLimbo := rfl
  have hbefore : matlabAndObjectiveC.scan (fun _ => false) (.ofString "src") (.direct .sources)
      = { filesScanned := 4, byLanguage := [("Matlab", 1), ("Objective-C", 1)],
          unrecognized := 2 } := by decide +kernel
  have hrest : withLimbo.scan (fun _ => false) (.ofString "src") (.direct .sources)
      = { filesScanned := 4, byLanguage := [("Limbo", 2), ("Objective-C", 1)],
          unrecognized := 1 } := by decide +kernel
  obtain ⟨-, -, -, hgain, -⟩ :=
    scan_insert_moves hinsert (fun _ => false) (.ofString "src") (.direct .sources)
  refine ⟨hinsert, hbefore, ?_, ?_⟩
  · rw [hrest]
  · rw [hbefore, hrest] at hgain
    rw [hrest]
    exact hgain.trans (by decide +kernel)

end Polyglot
