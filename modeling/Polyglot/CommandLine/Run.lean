import Polyglot.Catalog.Build
import Polyglot.CommandLine.Fault
import Polyglot.CommandLine.Invocation
import Polyglot.Files.Layout
import Polyglot.Files.Scan
import Polyglot.Log.Record
import Polyglot.Report.Page
import Polyglot.Report.Style

/-!
# Running a command

What an invocation needs to know of what is around it is found beforehand: the content of
its catalog, the tree that it walks, and the screen that it prints to. A run works on these
alone. It has three stages: what can be checked without a registry is checked first, then
the registry is made ready, and from both comes the page. A fault at any stage ends the
run; its kind decides the exit status, and then no page is printed.

- `Findings`, `Layout.findings`: what is found, and what is found in a layout.
- `Invocation.prepare`, `Invocation.registry`, `Job.page`: the three stages.
- `Invocation.run`: all of it, and `Outcome` what comes of it.
-/

namespace Polyglot

/-! ## Findings -/

/-- What was found at the paths that an invocation names, and where its output goes. -/
structure Findings where
  /-- The content of the catalog. -/
  catalog : Except FileFault (List UInt8) := .error .notFound
  /-- Where the walk begins. -/
  root : Except FileFault WalkRoot := .error .notFound
  screen : Screen := {}

/-- The path from which the command walks. -/
def Invocation.walkPath? (i : Invocation) : Option String :=
  match i.command with
  | .detect path _ => some path
  | _ => none

/-- What an invocation finds in a layout, which has no screen of its own. -/
def Layout.findings (l : Layout) (i : Invocation) : Findings where
  catalog := l.read (.ofString (i.catalog?.getD ""))
  root := l.walkRoot (.ofString (i.walkPath?.getD ""))

/-! ## Before the registry -/

/-- A command whose patterns are read and whose path was reached. -/
inductive Job where
  | languages
  | versions (language : String)
  | resolve (language : String) (key? : Option String)
  | detect (path : Path) (excludes : List Glob) (root : WalkRoot)

/-- The format of a name. -/
def PageFormat.ofName? : String → Option PageFormat
  | "pretty" => some .pretty
  | "json" => some .json
  | _ => none

/-- Read patterns up to the first one that is invalid. -/
def readPatterns : List String → Except RunFault (List Glob)
  | [] => .ok []
  | pattern :: patterns =>
    match Glob.ofString pattern with
    | .error cause => .error (.invalidPattern pattern cause)
    | .ok g => (readPatterns patterns).map (g :: ·)

/-- The patterns that texts stand for; each is read before their depth is looked at. -/
def admitPatterns (patterns : List String) : Except RunFault (List Glob) :=
  match readPatterns patterns with
  | .error e => .error e
  | .ok gs =>
    match Glob.tooDeep? gs with
    | some cause => .error (.deepPattern cause)
    | none => .ok gs

namespace Invocation

/-- The job of a command. -/
def job (found : Findings) : Command → Except RunFault Job
  | .languages => .ok .languages
  | .versions language => .ok (.versions language)
  | .resolve language key? => .ok (.resolve language key?)
  | .detect path patterns =>
    match admitPatterns patterns with
    | .error e => .error e
    | .ok excludes =>
      match found.root with
      | .error cause => .error (.inaccessible path cause)
      | .ok root => .ok (.detect (.ofString path) excludes root)

/-- Everything that is checked before there is a registry. -/
def prepare (found : Findings) (i : Invocation) : Except RunFault (PageFormat × Job) :=
  match PageFormat.ofName? i.format with
  | none => .error (.unknownFormat i.format)
  | some format => (job found i.command).map (format, ·)

end Invocation

/-! ## The registry -/

namespace Findings

/-- The registry of the catalog that was found; `path` is where it was looked for. -/
def loadRegistry (found : Findings) (path : String) :
    Logged (Except CatalogFault (Registry VersionNote)) :=
  match Catalog.ofFile path found.catalog with
  | .error e => ⟨.error e, [.catalogLoading path]⟩
  | .ok c =>
    let built := c.buildRegistry
    ⟨built.value.mapError .rejected, .catalogLoading path :: built.events⟩

end Findings

/-- The registry that an invocation uses: that of its catalog, or else the built-in one. -/
def Invocation.registry (builtin : Logged (Except RegistryError (Registry VersionNote)))
    (found : Findings) (i : Invocation) : Logged (Except CatalogFault (Registry VersionNote)) :=
  match i.catalog? with
  | some path => found.loadRegistry path
  | none => builtin.map (·.mapError .builtin)

/-! ## The page -/

/-- What a job prints. -/
def Job.page (format : PageFormat) (color : Bool) (r : Registry VersionNote) :
    Job → Except RunFault String
  | .languages => .ok (Page.languages format color r)
  | .versions language =>
    match r.lookup? language with
    | none => .error (.noLanguageToShow language)
    | some m => .ok (Page.language format color m)
  | .resolve language key? =>
    match r.lookup? language with
    | none => .error (.noLanguageToResolve language)
    | some m =>
      match key? with
      | none => .ok (Page.resolution format m m.defaultVersion)
      | some key =>
        match m.get? key with
        | none => .error (.noVersion m.name m.terseName key)
        | some v => .ok (Page.resolution format m v)
  | .detect path excludes root =>
    .ok (Page.detection format color (r.scan (Glob.anyAccepts excludes) path root))

/-! ## Runs -/

/-- Carry out an invocation: the page, or why there is none. -/
def Invocation.run (builtin : Logged (Except RegistryError (Registry VersionNote)))
    (found : Findings) (i : Invocation) : Logged (Except RunFault String) :=
  match i.prepare found with
  | .error e => ⟨.error e, []⟩
  | .ok (format, job) =>
    (i.registry builtin found).map fun
      | .error cause => .error (.catalog cause)
      | .ok r => job.page format found.screen.colored r

/-- What is seen of a run from outside. -/
structure Outcome where
  status : ExitStatus
  output : String
  complaint : String
deriving DecidableEq, Repr

/-- A page goes to the output, a fault to the complaint. -/
def Outcome.ofResult : Except RunFault String → Outcome
  | .ok page => ⟨.success, page, ""⟩
  | .error e => ⟨e.status, "", e.message ++ "\n"⟩

/-- The least level of the events that a run writes down. -/
def Invocation.logLevel (i : Invocation) : LogLevel := if i.verbose then .debug else .warn

end Polyglot
