import Polyglot.Language.Module
import Polyglot.Log.Event

/-!
# Building a language module

A builder gathers names, extensions, strategy and versions, and is then finished
into a module. A registration is checked as a whole before anything is stored: the
id first, then the aliases in order, then the default mark. One that is refused
leaves the builder as it was.

- `Builder.register`: store a version, or say why not.
- `Builder.perform`: any call, with the builder that it leaves, how it went, and its events.
- `Builder.build`: the module, if there is a default version.
- `Builder.transcript`: the calls of a script, each with how it went.
-/

namespace Polyglot

universe u

/-- A version to be registered. -/
structure Registration (η : Type u) where
  id : String
  aliases : List String := []
  handler : η
  isDefault : Bool := false

/-- The keys of the version: its id, then its aliases. -/
def Registration.keys {η : Type u} (r : Registration η) : List String := r.id :: r.aliases

/-- A language module in the making. -/
structure Builder (η : Type u) where
  table : VersionTable η
  extensions : List String := []
  strategy : Strategy := .baseline
  /-- The ordinal of the default version. -/
  default? : Option Nat := none
  default_lt : ∀ i, default? = some i → i < table.versions.length

namespace Builder

variable {η : Type u}

/-- A builder with nothing but names. -/
def new (name terseName : String) : Builder η where
  table := .empty { name, terseName }
  default_lt := by simp

def name (b : Builder η) : String := b.table.language.name

/-- Whether `key` is the id or an alias of a version so far. -/
def hasKey (b : Builder η) (key : String) : Bool := b.table.hasKey key

def defaultVersion? (b : Builder η) : Option (Version η) :=
  b.default?.bind fun i => b.table.versions[i]?

/-- Set the short name, also for the versions that are registered. -/
def withShortName (b : Builder η) (shortName : String) : Builder η :=
  { b with
    table := b.table.rename { b.table.language with shortName? := some shortName }
    default_lt := by simpa [VersionTable.rename] using b.default_lt }

/-- Add file extensions. -/
def withExtensions (b : Builder η) (given : List String) : Builder η :=
  { b with extensions := Extension.addAll b.extensions given }

def withStrategy (b : Builder η) (strategy : Strategy) : Builder η := { b with strategy }

/-! ## Registration -/

/-- Why a registration is to be refused: the first of its keys that is taken or repeated, and
then a default mark beside another default version. -/
def refusal? (b : Builder η) (r : Registration η) : Option RegistryError :=
  match b.table.collision? r.keys with
  | some key => some (.duplicateKey b.name key)
  | none =>
    match r.isDefault, b.defaultVersion? with
    | true, some v => some (.defaultAlreadySet b.name v.id r.id)
    | _, _ => none

theorem collision?_eq_none_of_refusal? {b : Builder η} {r : Registration η}
    (h : b.refusal? r = none) : b.table.collision? r.keys = none := by
  unfold refusal? at h
  split at h
  · cases h
  · assumption

/-- Store a version whose keys are free. -/
def store (b : Builder η) (r : Registration η) (free : b.table.collision? r.keys = none) :
    Builder η :=
  { b with
    table := b.table.add r.id r.aliases r.handler free
    default? := if r.isDefault then some b.table.versions.length else b.default?
    default_lt := by
      intro i h
      simp only [VersionTable.add, List.length_append, List.length_singleton]
      split at h
      · rw [← Option.some.inj h]
        exact Nat.lt_succ_self _
      · exact Nat.lt_succ_of_lt (b.default_lt i h) }

/-- Check a registration as a whole, and store its version if nothing speaks against it. -/
def register (b : Builder η) (r : Registration η) : Builder η × Except RegistryError Unit :=
  match h : b.refusal? r with
  | some fault => (b, .error fault)
  | none => (b.store r (collision?_eq_none_of_refusal? h), .ok ())

/-! ## Completion -/

/-- Finish the module. -/
def build (b : Builder η) : Except RegistryError (LanguageModule η) :=
  match h : b.default? with
  | none => .error (.missingDefault b.name)
  | some i =>
    .ok {
      table := b.table
      extensions := b.extensions
      strategy := b.strategy
      default := i
      default_lt := b.default_lt i h }

/-! ## Calls -/

/-- A call on a builder. -/
inductive Call (η : Type u) where
  | shortName (value : String)
  | extensions (given : List String)
  | strategy (value : Strategy)
  | register (r : Registration η)

/-- What a registration that went like this leaves in the log. -/
def registrationEvent (language : String) (r : Registration η) : Except RegistryError Unit → Event
  | .ok () => .versionRegistered language r.id r.aliases r.isDefault
  | .error e => .versionRejected language r.id e

/-- Carry out a call: the builder that it leaves, and how it went. Only a registration can be
refused, and only it is logged. -/
def perform (b : Builder η) : Call η → Logged (Builder η × Except RegistryError Unit)
  | .shortName value => ⟨(b.withShortName value, .ok ()), []⟩
  | .extensions given => ⟨(b.withExtensions given, .ok ()), []⟩
  | .strategy value => ⟨(b.withStrategy value, .ok ()), []⟩
  | .register r =>
    let outcome := b.register r
    ⟨outcome, [registrationEvent b.name r outcome.2]⟩

/-- Carry out a call for those who go on only from a success. -/
def apply (b : Builder η) (c : Call η) : Logged (Except RegistryError (Builder η)) :=
  (b.perform c).map fun (b', result) => result.map fun () => b'

/-- The event of a finished module; a failure is not logged. -/
def buildLogged (b : Builder η) : Logged (Except RegistryError (LanguageModule η)) :=
  match b.build with
  | .ok m => ⟨.ok m, [.moduleReady m.name m.versions.length m.defaultVersion.id]⟩
  | .error e => ⟨.error e, []⟩

/-! ## Scripts -/

/-- The builder that a call leaves. -/
def after (b : Builder η) (c : Call η) : Builder η := (b.perform c).value.1

/-- The builder that calls leave one after the other; a refusal does not end the script. -/
def run (b : Builder η) (script : List (Call η)) : Builder η := script.foldl after b

/-- The calls of a script, each with how it went. -/
def transcript (b : Builder η) : List (Call η) → List (Call η × Except RegistryError Unit)
  | [] => []
  | c :: cs => (c, (b.perform c).value.2) :: (b.after c).transcript cs

/-! ## Laws -/

theorem default?_isSome (b : Builder η) : b.defaultVersion?.isSome = b.default?.isSome := by
  rcases h : b.default? with _ | i
  · simp [defaultVersion?, h]
  · simp [defaultVersion?, h, List.getElem?_eq_getElem (b.default_lt i h)]

end Builder

end Polyglot
