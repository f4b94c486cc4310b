import Polyglot.Catalog.Supply
import Polyglot.Language.Registry

/-!
# From catalogs to modules and registries

Every entry of a catalog becomes a module, built by the calls that the entry spells
out; the first refusal ends the work. The handler of each version is asked for just
before the version is registered, also if the registration is then refused. The record of
these requests is part of the result, as are the events.

- `Catalog.buildSupplied`: modules with the handlers of a supply.
- `Catalog.buildWith`: modules with handlers that a function gives.
- `Catalog.buildRegistry`: the registry, each version with its description as handler.
- `Catalog.buildSupplied_ofFunction`: a supply without memory gives the modules of its function,
  whatever it starts from.
-/

namespace Polyglot

universe u v

/-- The handler of a version that comes with nothing but a description. -/
structure VersionNote where
  description? : Option String := none
deriving DecidableEq, Repr, Inhabited

/-- What came of building: the handlers asked for, the events, and the result. -/
structure Build (α : Type u) where
  asked : List (LanguageEntry × VersionEntry) := []
  events : List Event := []
  result : Except RegistryError α

variable {σ : Type v} {η : Type u}

namespace LanguageEntry

/-- A builder with all that the entry says, apart from its versions. -/
def builder (e : LanguageEntry) : Builder η :=
  let b := ((Builder.new e.name e.terseName).withExtensions e.extensions).withStrategy e.strategy
  match e.shortName? with
  | some s => b.withShortName s
  | none => b

/-- The registration of a version. -/
def registration (handlerFor : LanguageEntry → VersionEntry → η) (e : LanguageEntry)
    (v : VersionEntry) : Registration η where
  id := v.version
  aliases := v.aliases
  handler := handlerFor e v
  isDefault := v.isDefault

/-- Register versions with the handlers of a supply, and finish the module behind the last one. -/
def buildSuppliedFrom (supply : Supply σ η) (e : LanguageEntry) :
    List VersionEntry → Builder η → σ → Build (LanguageModule η) × σ
  | [], b, s =>
    let out := b.buildLogged
    ({ events := out.events, result := out.value }, s)
  | v :: vs, b, s =>
    let given := supply.ask e v s
    let out := b.apply (.register (e.registration (fun _ _ => given.1) v))
    match out.value with
    | .error fault =>
      ({ asked := [(e, v)], events := out.events, result := .error fault }, given.2)
    | .ok b' =>
      let rest := e.buildSuppliedFrom supply vs b' given.2
      ({ asked := (e, v) :: rest.1.asked, events := out.events ++ rest.1.events,
         result := rest.1.result }, rest.2)

/-- The module of an entry with the handlers of a supply. -/
def buildSupplied (supply : Supply σ η) (e : LanguageEntry) (s : σ) :
    Build (LanguageModule η) × σ :=
  e.buildSuppliedFrom supply e.versions e.builder s

/-- Register versions with the handlers that a function gives. -/
def buildFrom (handlerFor : LanguageEntry → VersionEntry → η) (e : LanguageEntry)
    (vs : List VersionEntry) (b : Builder η) : Build (LanguageModule η) :=
  (e.buildSuppliedFrom (.ofFunction handlerFor) vs b ()).1

/-- The module of an entry with the handlers that a function gives. -/
def build (handlerFor : LanguageEntry → VersionEntry → η) (e : LanguageEntry) :
    Build (LanguageModule η) :=
  e.buildFrom handlerFor e.versions e.builder

end LanguageEntry

namespace Catalog

/-- The modules of entries, up to the first one that cannot be built. -/
def buildEntriesSupplied (supply : Supply σ η) :
    List LanguageEntry → σ → Build (List (LanguageModule η)) × σ
  | [], s => ({ result := .ok [] }, s)
  | e :: es, s =>
    let first := e.buildSupplied supply s
    match first.1.result with
    | .error fault =>
      ({ asked := first.1.asked, events := first.1.events, result := .error fault }, first.2)
    | .ok m =>
      let rest := buildEntriesSupplied supply es first.2
      ({ asked := first.1.asked ++ rest.1.asked
         events := first.1.events ++ rest.1.events
         result := rest.1.result.map (m :: ·) }, rest.2)

/-- The modules of a catalog with the handlers of a supply, in the order of the document. -/
def buildSupplied (supply : Supply σ η) (c : Catalog) (s : σ) :
    Build (List (LanguageModule η)) × σ :=
  buildEntriesSupplied supply c.languages s

/-- The modules of entries with the handlers that a function gives. -/
def buildEntries (handlerFor : LanguageEntry → VersionEntry → η) (es : List LanguageEntry) :
    Build (List (LanguageModule η)) :=
  (buildEntriesSupplied (.ofFunction handlerFor) es ()).1

/-- The modules of a catalog with the handlers that a function gives. -/
def buildWith (handlerFor : LanguageEntry → VersionEntry → η) (c : Catalog) :
    Build (List (LanguageModule η)) :=
  (c.buildSupplied (.ofFunction handlerFor) ()).1

/-- The registry of a catalog. -/
def buildRegistryWith (handlerFor : LanguageEntry → VersionEntry → η) (c : Catalog) :
    Logged (Except RegistryError (Registry η)) :=
  let modules := c.buildWith handlerFor
  Logged.andThen ⟨modules.result, modules.events⟩ fun ms =>
    (Registry.ofModules ms).andThen fun r => ⟨.ok r, [.catalogLoaded r.size]⟩

/-- The description of a version as its handler. -/
def note (_ : LanguageEntry) (v : VersionEntry) : VersionNote := ⟨v.description?⟩

/-- The modules of a catalog, each version with its description. -/
def build (c : Catalog) : Build (List (LanguageModule VersionNote)) := c.buildWith note

/-- The registry of a catalog, each version with its description. -/
def buildRegistry (c : Catalog) : Logged (Except RegistryError (Registry VersionNote)) :=
  c.buildRegistryWith note

end Catalog

/-! ## Handlers that a function gives -/

section Function

variable (handlerFor : LanguageEntry → VersionEntry → η)

theorem LanguageEntry.registration_const (e : LanguageEntry) (v : VersionEntry) :
    e.registration (fun _ _ => handlerFor e v) v = e.registration handlerFor v := rfl

theorem LanguageEntry.buildFrom_nil (e : LanguageEntry) (b : Builder η) :
    e.buildFrom handlerFor [] b
      = { events := b.buildLogged.events, result := b.buildLogged.value } := rfl

theorem LanguageEntry.buildFrom_cons (e : LanguageEntry) (v : VersionEntry)
    (vs : List VersionEntry) (b : Builder η) :
    e.buildFrom handlerFor (v :: vs) b
      = let out := b.apply (.register (e.registration handlerFor v))
        match out.value with
        | .error fault => { asked := [(e, v)], events := out.events, result := .error fault }
        | .ok b' =>
          let rest := e.buildFrom handlerFor vs b'
          { asked := (e, v) :: rest.asked, events := out.events ++ rest.events,
            result := rest.result } := by
  rw [buildFrom, buildSuppliedFrom]
  simp only [Supply.ask_ofFunction, registration_const]
  cases (b.apply (.register (e.registration handlerFor v))).value <;> rfl

theorem Catalog.buildEntries_cons (e : LanguageEntry) (es : List LanguageEntry) :
    buildEntries handlerFor (e :: es)
      = match (e.build handlerFor).result with
        | .error fault =>
          { asked := (e.build handlerFor).asked, events := (e.build handlerFor).events,
            result := .error fault }
        | .ok m =>
          { asked := (e.build handlerFor).asked ++ (buildEntries handlerFor es).asked
            events := (e.build handlerFor).events ++ (buildEntries handlerFor es).events
            result := (buildEntries handlerFor es).result.map (m :: ·) } := by
  have hbuild : (e.buildSupplied (.ofFunction handlerFor) ()).1 = e.build handlerFor := rfl
  rw [buildEntries, buildEntriesSupplied]
  simp only [hbuild]
  cases (e.build handlerFor).result <;> rfl

theorem LanguageEntry.buildSuppliedFrom_ofFunction (e : LanguageEntry) (vs : List VersionEntry)
    (b : Builder η) (s : σ) :
    e.buildSuppliedFrom (.ofFunction handlerFor) vs b s = (e.buildFrom handlerFor vs b, s) := by
  induction vs generalizing b with
  | nil => rfl
  | cons v vs ih =>
    rw [buildSuppliedFrom, buildFrom_cons]
    simp only [Supply.ask_ofFunction, registration_const]
    cases (b.apply (.register (e.registration handlerFor v))).value with
    | error fault => rfl
    | ok b' => simp only [ih]

theorem Catalog.buildEntriesSupplied_ofFunction (es : List LanguageEntry) (s : σ) :
    buildEntriesSupplied (.ofFunction handlerFor) es s = (buildEntries handlerFor es, s) := by
  induction es with
  | nil => rfl
  | cons e es ih =>
    rw [buildEntriesSupplied, buildEntries_cons, LanguageEntry.buildSupplied,
      LanguageEntry.buildSuppliedFrom_ofFunction, ← LanguageEntry.build]
    cases (e.build handlerFor).result with
    | error fault => rfl
    | ok m => simp only [ih]

/-- A supply without memory gives the modules of the function that it asks. -/
theorem Catalog.buildSupplied_ofFunction (c : Catalog) (s : σ) :
    c.buildSupplied (.ofFunction handlerFor) s = (c.buildWith handlerFor, s) :=
  buildEntriesSupplied_ofFunction handlerFor c.languages s

end Function

end Polyglot
