import Polyglot.Log.Record
import Polyglot.Proofs.Report.Language

/-!
# What the log tells of a catalog

While a registry is built from a catalog, the versions, the modules and the registry tell of
themselves at three levels, and what fails ends the log. The log can be read off the catalog: it is
one of four stories, one for each way in which building can end (`Catalog.Tells`).

- `Catalog.Rejects`: the place of a version that is refused.
- `LanguageEntry.told_buildFrom_append`, `Catalog.told_buildEntries_append`,
  `Registry.told_insertAll_append`: what goes through tells its part and hands over to the rest.
  Each story is put together from these three.
- `Catalog.told_of_tells`: the log of a catalog whose story is known.
- `Catalog.log_buildRegistry`: the log tells the story of the catalog, and no other.
-/

namespace Polyglot

universe u v

variable {η : Type u}

open Registration

/-! ## What is told -/

/-- An event with the level at which it is written down. -/
def Event.atLevel (x : Event) : LogLevel × Event := (x.record.level, x)

/-- The events of a computation with their levels. -/
def Logged.told {α : Type u} (x : Logged α) : List (LogLevel × Event) := x.events.map Event.atLevel

theorem Logged.told_andThen {ε : Type v} {α β : Type u} (x : Logged (Except ε α))
    (f : α → Logged (Except ε β)) :
    (x.andThen f).told = x.told ++ match x.value with
      | .ok a => (f a).told
      | .error _ => [] := by
  obtain ⟨value, events⟩ := x
  cases value with
  | ok a => exact List.map_append
  | error e => exact (List.append_nil _).symm

/-- The events of building with their levels. -/
def Build.told {α : Type u} (x : Build α) : List (LogLevel × Event) := x.events.map Event.atLevel

/-- What a version tells that is registered. -/
def VersionEntry.registered (language : String) (v : VersionEntry) : LogLevel × Event :=
  (.debug, .versionRegistered language v.version v.aliases v.isDefault)

/-- What a version tells that is refused. -/
def VersionEntry.rejected (language : String) (v : VersionEntry) (fault : RegistryError) :
    LogLevel × Event :=
  (.warn, .versionRejected language v.version fault)

namespace LanguageEntry

/-- What the finished module tells: how many versions it has, and the id of the default one. -/
def ready (e : LanguageEntry) : LogLevel × Event :=
  (.info, .moduleReady e.name e.versions.length e.defaultId)

/-- What an entry tells that gives a module: its versions in order, and the module. -/
def story (e : LanguageEntry) : List (LogLevel × Event) :=
  e.versions.map (VersionEntry.registered e.name) ++ [e.ready]

end LanguageEntry

/-- What a language of this name tells when it goes into the registry. -/
def Registry.added (name : String) : LogLevel × Event := (.debug, .languageAdded name)

namespace Catalog

/-- A version of an entry is refused behind those in front of it, and the entries before give
modules. -/
structure Rejects (c : Catalog) (before : List LanguageEntry) (e : LanguageEntry)
    (front : List VersionEntry) (v : VersionEntry) (fault : RegistryError) : Prop where
  entries : ∃ after, c.languages = before ++ e :: after
  wellFormed : ∀ e' ∈ before, e'.WellFormed
  versions : ∃ back, e.versions = front ++ v :: back
  accepted : Acceptable (front.map (e.registration note))
  refusal : Refusal e.name (front.map (e.registration note)) (e.registration note v) fault

/-- The stories of a catalog: what is told while its registry is built, and how that ends, with
the number of languages or with an error. -/
inductive Tells (c : Catalog) : List (LogLevel × Event) → Except RegistryError Nat → Prop
  /-- All modules in the order of the document, then all languages in this order, and then that
  the catalog is loaded. -/
  | loaded (wellFormed : ∀ e ∈ c.languages, e.WellFormed)
      (distinct : (c.languages.map (·.name)).Nodup) :
      Tells c
        (c.languages.flatMap LanguageEntry.story ++ (c.languages.map (·.name)).map Registry.added
          ++ [(.info, .catalogLoaded c.languages.length)])
        (.ok c.languages.length)
  /-- The modules before the refused version, the versions of its entry in front of it, and then
  that it is refused. -/
  | rejected {before : List LanguageEntry} {e : LanguageEntry} {front : List VersionEntry}
      {v : VersionEntry} {fault : RegistryError} (rejects : c.Rejects before e front v fault) :
      Tells c
        (before.flatMap LanguageEntry.story ++ front.map (VersionEntry.registered e.name)
          ++ [v.rejected e.name fault])
        (.error fault)
  /-- The modules before the entry without a default version, and the versions of this entry. -/
  | missingDefault {before after : List LanguageEntry} {e : LanguageEntry}
      (entries : c.languages = before ++ e :: after)
      (wellFormed : ∀ e' ∈ before, e'.WellFormed)
      (accepted : Acceptable (e.registrations note))
      (unmarked : e.versions.countP (·.isDefault) = 0) :
      Tells c
        (before.flatMap LanguageEntry.story ++ e.versions.map (VersionEntry.registered e.name))
        (.error (.missingDefault e.name))
  /-- All modules, and the languages before the one whose name is taken. -/
  | duplicateLanguage {front back : List String} {name : String}
      (wellFormed : ∀ e ∈ c.languages, e.WellFormed)
      (names : c.languages.map (·.name) = front ++ name :: back)
      (distinct : front.Nodup) (taken : name ∈ front) :
      Tells c
        (c.languages.flatMap LanguageEntry.story ++ front.map Registry.added)
        (.error (.duplicateLanguage name))

end Catalog

/-! ## Versions -/

namespace Builder

variable {b b' : Builder η} {r : Registration η} {fault : RegistryError}

theorem name_accept (h : b.accept r = .ok b') : b'.name = b.name :=
  congrArg Identity.name (language_accept h)

theorem events_apply_of_ok (h : b.accept r = .ok b') :
    (b.apply (.register r)).events
      = [.versionRegistered b.name r.id r.aliases r.isDefault] := by
  show [registrationEvent b.name r (b.register r).2] = _
  cases hr : b.refusal? r with
  | some fault =>
    rw [accept_of_refusal? hr] at h
    cases h
  | none => rw [register_of_free hr, registrationEvent]

theorem events_apply_of_error (h : b.accept r = .error fault) :
    (b.apply (.register r)).events = [.versionRejected b.name r.id fault] := by
  show [registrationEvent b.name r (b.register r).2] = _
  rw [register_of_refusal? (accept_eq_error.1 h), registrationEvent]

end Builder

namespace LanguageEntry

section

variable (handlerFor : LanguageEntry → VersionEntry → η) (e : LanguageEntry)

/-- Versions that are taken in tell of themselves, and the rest goes on behind them. -/
theorem told_buildFrom_append {front : List VersionEntry} {b b' : Builder η}
    (name_eq : b.name = e.name)
    (h : (front.map (e.registration handlerFor)).foldlM Builder.accept b = .ok b')
    (vs : List VersionEntry) :
    (e.buildFrom handlerFor (front ++ vs) b).told
      = front.map (VersionEntry.registered e.name) ++ (e.buildFrom handlerFor vs b').told := by
  induction front generalizing b with
  | nil =>
    cases h
    rfl
  | cons v front ih =>
    rw [List.map_cons] at h
    cases hb : b.accept (e.registration handlerFor v) with
    | error fault =>
      rw [foldlM_cons_of_error hb] at h
      cases h
    | ok mid =>
      rw [foldlM_cons_of_ok hb] at h
      have hrest := ih ((Builder.name_accept hb).trans name_eq) h
      have hvalue : (b.apply (.register (e.registration handlerFor v))).value = .ok mid := hb
      rw [List.cons_append, buildFrom_cons]
      simp only [hvalue]
      rw [Build.told, List.map_append, Builder.events_apply_of_ok hb, name_eq]
      exact congrArg (v.registered e.name :: ·) hrest

/-- A version that is refused tells of it, and nothing comes behind it. -/
theorem told_buildFrom_of_refused {b : Builder η} {v : VersionEntry} {fault : RegistryError}
    (name_eq : b.name = e.name)
    (h : b.accept (e.registration handlerFor v) = .error fault) (vs : List VersionEntry) :
    (e.buildFrom handlerFor (v :: vs) b).told = [v.rejected e.name fault] := by
  have hvalue : (b.apply (.register (e.registration handlerFor v))).value = .error fault := h
  rw [buildFrom_cons]
  simp only [hvalue]
  rw [Build.told, Builder.events_apply_of_error h, name_eq]
  rfl

end

/-! ## Entries -/

variable {e : LanguageEntry}

/-- An entry that gives a module tells of its versions and of the module. -/
theorem told_build_of_ok {m : LanguageModule VersionNote}
    (h : (e.build Catalog.note).result = .ok m) : (e.build Catalog.note).told = e.story := by
  obtain ⟨b, hb, hm⟩ := exists_builder_of_build Catalog.note e h
  have hlast : (e.buildFrom Catalog.note [] b).told
      = [(.info, .moduleReady m.name m.versions.length m.defaultVersion.id)] := by
    rw [Build.told, buildFrom_nil, Builder.buildLogged, hm]
    rfl
  have hlength : m.versions.length = e.versions.length := by
    rw [(isRecordOf_build Catalog.note e h).versions, List.length_mapIdx, registrations,
      List.length_map]
  have htold := told_buildFrom_append Catalog.note e (recordsFor_builder e).name_eq hb []
  rw [List.append_nil] at htold
  rw [build, htold, hlast, name_of_build Catalog.note e h, hlength, id_defaultVersion_of_build h]
  rfl

/-- An entry tells of the versions in front of the refused one, and of the refusal. -/
theorem told_build_of_refused {front back : List VersionEntry} {v : VersionEntry}
    {fault : RegistryError} (split : e.versions = front ++ v :: back)
    (accepted : Acceptable (front.map (e.registration Catalog.note)))
    (refusal : Refusal e.name (front.map (e.registration Catalog.note))
      (e.registration Catalog.note v) fault) :
    (e.build Catalog.note).told
      = front.map (VersionEntry.registered e.name) ++ [v.rejected e.name fault] := by
  have hstart := recordsFor_builder (η := VersionNote) e
  obtain ⟨b, hb⟩ := (Builder.exists_acceptAll_eq_ok hstart).2 accepted
  have hfront := Builder.recordsFor_acceptAll hstart hb
  have hrefused : b.accept (e.registration Catalog.note v) = .error fault := by
    rw [Builder.accept_eq_error, hfront.records.refusal?_eq_some, hfront.name_eq]
    exact refusal
  rw [build, split, told_buildFrom_append Catalog.note e hstart.name_eq hb,
    told_buildFrom_of_refused Catalog.note e hfront.name_eq hrefused]

/-- An entry without a default version tells of its versions, and not of a module. -/
theorem told_build_of_unmarked (accepted : Acceptable (e.registrations Catalog.note))
    (unmarked : e.versions.countP (·.isDefault) = 0) :
    (e.build Catalog.note).told = e.versions.map (VersionEntry.registered e.name) := by
  have hstart := recordsFor_builder (η := VersionNote) e
  obtain ⟨b, hb⟩ := (Builder.exists_acceptAll_eq_ok hstart).2 accepted
  have hnone : b.default? = none := by
    rw [(Builder.recordsFor_acceptAll hstart hb).records.default, List.findIdx?_eq_none_iff]
    rw [← countP_registrations Catalog.note, List.countP_eq_zero] at unmarked
    simpa using unmarked
  have hlast : (e.buildFrom Catalog.note [] b).told = [] := by
    rw [Build.told, buildFrom_nil, Builder.buildLogged, Builder.build_eq_error.2 ⟨hnone, rfl⟩]
    rfl
  have htold := told_buildFrom_append Catalog.note e hstart.name_eq hb []
  rw [List.append_nil] at htold
  rw [build, htold, hlast, List.append_nil]

end LanguageEntry

namespace Catalog

/-- Entries that give modules tell their stories, and the rest goes on behind them. -/
theorem told_buildEntries_append {before : List LanguageEntry}
    (wellFormed : ∀ e ∈ before, e.WellFormed) (es : List LanguageEntry) :
    (buildEntries note (before ++ es)).told
      = before.flatMap LanguageEntry.story ++ (buildEntries note es).told := by
  induction before with
  | nil => rfl
  | cons e before ih =>
    obtain ⟨he, hbefore⟩ := List.forall_mem_cons.1 wellFormed
    obtain ⟨m, hm⟩ := (e.exists_build_eq_ok note).2 he
    rw [List.cons_append, buildEntries_cons, hm]
    rw [Build.told, List.map_append, List.flatMap_cons, List.append_assoc,
      ← LanguageEntry.told_build_of_ok hm]
    exact congrArg ((e.build note).told ++ ·) (ih hbefore)

theorem told_buildEntries {es : List LanguageEntry} (wellFormed : ∀ e ∈ es, e.WellFormed) :
    (buildEntries note es).told = es.flatMap LanguageEntry.story := by
  have htold := told_buildEntries_append wellFormed []
  rw [List.append_nil] at htold
  exact htold.trans (List.append_nil _)

/-- Where an entry fails, it is the last one to tell anything. -/
theorem told_buildEntries_of_error {e : LanguageEntry} {fault : RegistryError}
    (h : (e.build note).result = .error fault) (es : List LanguageEntry) :
    (buildEntries note (e :: es)).told = (e.build note).told := by
  rw [buildEntries_cons, h]
  rfl

end Catalog

/-! ## Languages -/

namespace Registry

/-- Modules that are added tell of it, and the rest goes on behind them. -/
theorem told_insertAll_append {front : List (LanguageModule η)} {r r' : Registry η}
    (h : front.foldlM insert r = .ok r') (ms : List (LanguageModule η)) :
    (r.insertAll (front ++ ms)).told
      = (front.map LanguageModule.name).map added ++ (r'.insertAll ms).told := by
  induction front generalizing r with
  | nil =>
    cases h
    rfl
  | cons m front ih =>
    cases hm : r.insert m with
    | error fault =>
      rw [foldlM_cons_of_error hm] at h
      cases h
    | ok mid =>
      rw [foldlM_cons_of_ok hm] at h
      rw [List.cons_append, insertAll, insertLogged, hm]
      exact congrArg (added m.name :: ·) (ih h)

/-- A refused module tells nothing, and nothing comes behind it. -/
theorem told_insertAll_of_error {r : Registry η} {m : LanguageModule η} {fault : RegistryError}
    (h : r.insert m = .error fault) (ms : List (LanguageModule η)) :
    (r.insertAll (m :: ms)).told = [] := by
  rw [insertAll, insertLogged, h]
  rfl

/-- Modules that make a registry all tell that they are added. -/
theorem told_ofModules {ms : List (LanguageModule η)} {r : Registry η}
    (h : (ofModules ms).value = .ok r) :
    (ofModules ms).told = (ms.map LanguageModule.name).map added := by
  rw [ofModules, value_insertAll] at h
  have htold := told_insertAll_append h []
  rw [List.append_nil] at htold
  exact htold.trans (List.append_nil _)

/-- Where a name is taken, the modules before it tell that they are added. -/
theorem told_ofModules_of_taken {ms : List (LanguageModule η)} {front back : List String}
    {name : String} (names : ms.map LanguageModule.name = front ++ name :: back)
    (distinct : front.Nodup) (taken : name ∈ front) :
    (ofModules ms).told = front.map added := by
  obtain ⟨before, rest, rfl, rfl, hrest⟩ := List.map_eq_append_iff.1 names
  obtain ⟨m, after, rfl, rfl, -⟩ := List.map_eq_cons_iff.1 hrest
  obtain ⟨r, hr⟩ := exists_foldlM_insert distinct
  have hrefused : r.insert m = .error (.duplicateLanguage m.name) :=
    insert_eq_error.2 ⟨((gathers_foldlM hr).mem_names _).2 taken, rfl⟩
  rw [ofModules, told_insertAll_append hr, told_insertAll_of_error hrefused, List.append_nil]

theorem length_insertByName (m : LanguageModule η) (ns : List (LanguageModule η)) :
    (insertByName m ns).length = ns.length + 1 := by
  induction ns with
  | nil => rfl
  | cons n ns ih =>
    rw [insertByName]
    split
    · rfl
    · rw [List.length_cons, ih, List.length_cons]

/-- The registry has as many languages as modules were given. -/
theorem size_ofModules {ms : List (LanguageModule η)} {r : Registry η}
    (h : (ofModules ms).value = .ok r) : r.size = ms.length := by
  rw [ofModules, value_insertAll] at h
  refine foldlM_induction (fun front s => s.size = front.length) ?_ rfl h
  intro front s m t hs ht
  rw [size, modules_insert ht, length_insertByName, List.length_append, ← hs]
  rfl

end Registry

/-! ## Catalogs -/

namespace Catalog

variable {c : Catalog}

/-- Without modules there is nothing to add. -/
theorem told_buildRegistry_of_error {fault : RegistryError}
    (h : (buildEntries note c.languages).result = .error fault) :
    c.buildRegistry.told = (buildEntries note c.languages).told := by
  have hmodules : (c.buildWith note).result = .error fault := h
  rw [buildRegistry, buildRegistryWith, hmodules]
  rfl

section

variable {ms : List (LanguageModule VersionNote)}
  (h : (buildEntries note c.languages).result = .ok ms)
include h

/-- Behind the modules come the languages, and then that all are there. -/
theorem told_buildRegistry_of_ok {r : Registry VersionNote}
    (hr : (Registry.ofModules ms).value = .ok r) :
    c.buildRegistry.told = (buildEntries note c.languages).told
      ++ ((Registry.ofModules ms).told ++ [(.info, .catalogLoaded r.size)]) := by
  have hmodules : (c.buildWith note).result = .ok ms := h
  rw [buildRegistry, buildRegistryWith, hmodules, Logged.told_andThen]
  simp only [Logged.told_andThen, hr]
  rfl

/-- Where a name is taken, nothing comes behind the languages. -/
theorem told_buildRegistry_of_refused {fault : RegistryError}
    (hr : (Registry.ofModules ms).value = .error fault) :
    c.buildRegistry.told
      = (buildEntries note c.languages).told ++ (Registry.ofModules ms).told := by
  have hmodules : (c.buildWith note).result = .ok ms := h
  rw [buildRegistry, buildRegistryWith, hmodules, Logged.told_andThen]
  simp only [Logged.told_andThen, hr, List.append_nil]
  rfl

end

/-! ## The story of a catalog -/

theorem Rejects.result {before : List LanguageEntry} {e : LanguageEntry}
    {front : List VersionEntry} {v : VersionEntry} {fault : RegistryError}
    (h : c.Rejects before e front v fault) :
    (e.build note).result = .error fault := by
  obtain ⟨back, versions⟩ := h.versions
  have split : e.registrations note = front.map (e.registration note)
      ++ e.registration note v :: back.map (e.registration note) := by
    rw [LanguageEntry.registrations, versions, List.map_append, List.map_cons]
  exact (e.build_eq_error note).2 (.refused split h.accepted h.refusal)

/-- A catalog that tells a story has told it in the log, and building has ended as the story
ends. -/
theorem told_of_tells {told : List (LogLevel × Event)} {outcome : Except RegistryError Nat}
    (h : c.Tells told outcome) :
    told = c.buildRegistry.told ∧ outcome = c.buildRegistry.value.map Registry.size := by
  rw [buildRegistry, value_buildRegistryWith, ← buildRegistry]
  cases h with
  | loaded wellFormed distinct =>
    obtain ⟨ms, hms⟩ := (exists_buildEntries_eq_ok note).2 wellFormed
    have hnames := names_of_buildEntries note hms
    obtain ⟨r, hr⟩ := Registry.exists_ofModules_eq_ok.2 (hnames ▸ distinct)
    have hsize : r.size = c.languages.length := by
      rw [Registry.size_ofModules hr, ← List.length_map LanguageModule.name, hnames,
        List.length_map]
    rw [told_buildRegistry_of_ok hms hr, told_buildEntries wellFormed, Registry.told_ofModules hr,
      hnames, hsize, List.append_assoc, hms]
    refine ⟨rfl, ?_⟩
    show _ = (Registry.ofModules ms).value.map Registry.size
    rw [hr, ← hsize]
    rfl
  | @rejected before e front v fault rejects =>
    obtain ⟨after, entries⟩ := rejects.entries
    obtain ⟨back, versions⟩ := rejects.versions
    have herror : (buildEntries note c.languages).result = .error fault :=
      (buildEntries_eq_error note).2
        ⟨before, e, after, entries, rejects.wellFormed, (e.build_eq_error note).1 rejects.result⟩
    rw [told_buildRegistry_of_error herror, herror, entries,
      told_buildEntries_append rejects.wellFormed, told_buildEntries_of_error rejects.result,
      LanguageEntry.told_build_of_refused versions rejects.accepted rejects.refusal,
      List.append_assoc]
    exact ⟨rfl, rfl⟩
  | @missingDefault before after e entries wellFormed accepted unmarked =>
    have hfault : e.Fault note (.missingDefault e.name) := .missingDefault accepted unmarked
    have herror : (buildEntries note c.languages).result = .error (.missingDefault e.name) :=
      (buildEntries_eq_error note).2 ⟨before, e, after, entries, wellFormed, hfault⟩
    rw [told_buildRegistry_of_error herror, herror, entries, told_buildEntries_append wellFormed,
      told_buildEntries_of_error ((e.build_eq_error note).2 hfault),
      LanguageEntry.told_build_of_unmarked accepted unmarked]
    exact ⟨rfl, rfl⟩
  | @duplicateLanguage front back name wellFormed names distinct taken =>
    obtain ⟨ms, hms⟩ := (exists_buildEntries_eq_ok note).2 wellFormed
    rw [← names_of_buildEntries note hms] at names
    have hr : (Registry.ofModules ms).value = .error (.duplicateLanguage name) :=
      Registry.ofModules_eq_error.2 ⟨front, name, back, names, distinct, taken, rfl⟩
    rw [told_buildRegistry_of_refused hms hr, told_buildEntries wellFormed,
      Registry.told_ofModules_of_taken names distinct taken, hms]
    refine ⟨rfl, ?_⟩
    show _ = (Registry.ofModules ms).value.map Registry.size
    rw [hr]
    rfl

/-- Every catalog has a story. -/
theorem exists_tells (c : Catalog) : ∃ told outcome, c.Tells told outcome := by
  cases hmodules : (buildEntries note c.languages).result with
  | error fault =>
    obtain ⟨before, e, after, entries, wellFormed, hfault⟩ :=
      (buildEntries_eq_error note).1 hmodules
    cases hfault with
    | missingDefault accepted unmarked =>
      exact ⟨_, _, .missingDefault entries wellFormed accepted unmarked⟩
    | refused split accepted refusal =>
      obtain ⟨front, rest, versions, rfl, hrest⟩ := List.map_eq_append_iff.1 split
      obtain ⟨v, back, rfl, rfl, -⟩ := List.map_eq_cons_iff.1 hrest
      exact ⟨_, _, .rejected
        ⟨⟨after, entries⟩, wellFormed, ⟨back, versions⟩, accepted, refusal⟩⟩
  | ok ms =>
    have wellFormed := (exists_buildEntries_eq_ok note).1 ⟨ms, hmodules⟩
    have hnames := names_of_buildEntries note hmodules
    cases hlanguages : (Registry.ofModules ms).value with
    | ok r =>
      have distinct := Registry.exists_ofModules_eq_ok.1 ⟨r, hlanguages⟩
      rw [hnames] at distinct
      exact ⟨_, _, .loaded wellFormed distinct⟩
    | error fault =>
      obtain ⟨front, name, back, names, distinct, taken, -⟩ :=
        Registry.ofModules_eq_error.1 hlanguages
      rw [hnames] at names
      exact ⟨_, _, .duplicateLanguage wellFormed names distinct taken⟩

/-- The story of a catalog is its log. -/
theorem tells_iff {told : List (LogLevel × Event)} {outcome : Except RegistryError Nat} :
    c.Tells told outcome ↔
      told = c.buildRegistry.told ∧ outcome = c.buildRegistry.value.map Registry.size := by
  constructor
  · exact told_of_tells
  · rintro ⟨rfl, rfl⟩
    obtain ⟨told, outcome, h⟩ := c.exists_tells
    obtain ⟨rfl, rfl⟩ := told_of_tells h
    exact h

/-! ## Refusals and the end -/

/-- What tells neither of a refusal nor that the catalog is loaded. -/
structure Ordinary (x : LogLevel × Event) : Prop where
  no_warning : x.1 ≠ .warn
  not_loaded : ∀ n, x.2 ≠ .catalogLoaded n

theorem ordinary_of_mem_versions {vs : List VersionEntry} {language : String}
    {x : LogLevel × Event} (h : x ∈ vs.map (VersionEntry.registered language)) : Ordinary x := by
  obtain ⟨v, -, rfl⟩ := List.mem_map.1 h
  exact ⟨nofun, nofun⟩

theorem ordinary_of_mem_stories {es : List LanguageEntry} {x : LogLevel × Event}
    (h : x ∈ es.flatMap LanguageEntry.story) : Ordinary x := by
  obtain ⟨e, -, hx⟩ := List.mem_flatMap.1 h
  rcases List.mem_append.1 hx with hx | hx
  · exact ordinary_of_mem_versions hx
  · rw [List.mem_singleton.1 hx]
    exact ⟨nofun, nofun⟩

theorem ordinary_of_mem_languages {names : List String} {x : LogLevel × Event}
    (h : x ∈ names.map Registry.added) : Ordinary x := by
  obtain ⟨name, -, rfl⟩ := List.mem_map.1 h
  exact ⟨nofun, nofun⟩

/-- A story is ordinary up to its last event, which tells that the catalog is loaded or that a
version is refused; or it is ordinary altogether, and ends with an error. -/
theorem Tells.last {told : List (LogLevel × Event)} {outcome : Except RegistryError Nat}
    (h : c.Tells told outcome) :
    ∃ rest, (∀ x ∈ rest, Ordinary x) ∧
      ((∃ n, told = rest ++ [(.info, .catalogLoaded n)] ∧ outcome = .ok n) ∨
        (∃ before e front v fault, c.Rejects before e front v fault ∧
          told = rest ++ [v.rejected e.name fault] ∧ outcome = .error fault) ∨
        told = rest ∧ ∃ fault, outcome = .error fault) := by
  cases h with
  | loaded wellFormed distinct =>
    refine ⟨_, fun x hx => ?_, .inl ⟨_, rfl, rfl⟩⟩
    exact (List.mem_append.1 hx).elim ordinary_of_mem_stories ordinary_of_mem_languages
  | rejected rejects =>
    refine ⟨_, fun x hx => ?_, .inr (.inl ⟨_, _, _, _, _, rejects, rfl, rfl⟩)⟩
    exact (List.mem_append.1 hx).elim ordinary_of_mem_stories ordinary_of_mem_versions
  | missingDefault =>
    refine ⟨_, fun x hx => ?_, .inr (.inr ⟨rfl, _, rfl⟩)⟩
    exact (List.mem_append.1 hx).elim ordinary_of_mem_stories ordinary_of_mem_versions
  | duplicateLanguage =>
    refine ⟨_, fun x hx => ?_, .inr (.inr ⟨rfl, _, rfl⟩)⟩
    exact (List.mem_append.1 hx).elim ordinary_of_mem_stories ordinary_of_mem_languages

/-- A refused version gives the one warning of the log. -/
theorem Rejects.warnings {before : List LanguageEntry} {e : LanguageEntry}
    {front : List VersionEntry} {v : VersionEntry} {fault : RegistryError}
    (h : c.Rejects before e front v fault) :
    c.buildRegistry.told.filter (·.1 = .warn) = [v.rejected e.name fault] := by
  obtain ⟨htold, -⟩ := told_of_tells (.rejected h)
  have hnone : (before.flatMap LanguageEntry.story
      ++ front.map (VersionEntry.registered e.name)).filter (·.1 = .warn) = [] := by
    refine List.filter_eq_nil_iff.2 fun x hx => ?_
    have hx := (List.mem_append.1 hx).elim ordinary_of_mem_stories ordinary_of_mem_versions
    simpa using hx.no_warning
  rw [← htold, List.filter_append, hnone]
  rfl

/-- There is a warning exactly when a version is refused. -/
theorem exists_warning_iff :
    (∃ x ∈ c.buildRegistry.told, x.1 = .warn) ↔
      ∃ before e front v fault, c.Rejects before e front v fault := by
  constructor
  · rintro ⟨x, hx, hwarn⟩
    obtain ⟨rest, hrest, ⟨n, htold, -⟩ | ⟨before, e, front, v, fault, h, -, -⟩ | ⟨htold, -⟩⟩ :=
      (tells_iff.2 ⟨rfl, rfl⟩ : c.Tells _ _).last
    · rw [htold, List.mem_append, List.mem_singleton] at hx
      rcases hx with hx | rfl
      · exact absurd hwarn (hrest x hx).no_warning
      · cases hwarn
    · exact ⟨before, e, front, v, fault, h⟩
    · exact absurd hwarn (hrest x (htold ▸ hx)).no_warning
  · rintro ⟨before, e, front, v, fault, h⟩
    have hmem : v.rejected e.name fault ∈ c.buildRegistry.told.filter (·.1 = .warn) := by
      rw [h.warnings]
      exact List.mem_cons_self
    exact ⟨_, (List.mem_filter.1 hmem).1, rfl⟩

/-- That the catalog is loaded is told exactly when there is a registry. -/
theorem exists_loaded_iff :
    (∃ n, (.info, .catalogLoaded n) ∈ c.buildRegistry.told) ↔
      ∃ r, c.buildRegistry.value = .ok r := by
  obtain ⟨rest, hrest, hlast⟩ := (tells_iff.2 ⟨rfl, rfl⟩ : c.Tells _ _).last
  constructor
  · rintro ⟨n, hn⟩
    obtain ⟨k, -, hvalue⟩ | ⟨before, e, front, v, fault, -, htold, -⟩ | ⟨htold, -⟩ := hlast
    · cases hr : c.buildRegistry.value with
      | ok r => exact ⟨r, rfl⟩
      | error fault =>
        rw [hr] at hvalue
        cases hvalue
    · rw [htold, List.mem_append, List.mem_singleton] at hn
      rcases hn with hn | hn
      · exact absurd rfl ((hrest _ hn).not_loaded n)
      · cases hn
    · exact absurd rfl ((hrest _ (htold ▸ hn)).not_loaded n)
  · rintro ⟨r, hr⟩
    rw [hr] at hlast
    obtain ⟨n, htold, -⟩ | ⟨before, e, front, v, fault, -, -, hvalue⟩ | ⟨-, fault, hvalue⟩ := hlast
    · exact ⟨n, htold ▸ List.mem_append_right _ List.mem_cons_self⟩
    · cases hvalue
    · cases hvalue

/-- The log of a catalog is its story. Where a version is refused, the log has one warning, with
the text of the error, and otherwise none; it tells that the catalog is loaded exactly when there
is a registry. -/
theorem log_buildRegistry (c : Catalog) :
    (∀ told outcome, c.Tells told outcome ↔
      told = c.buildRegistry.told ∧ outcome = c.buildRegistry.value.map Registry.size) ∧
    (∀ before e front v fault, c.Rejects before e front v fault →
      c.buildRegistry.told.filter (·.1 = .warn) = [v.rejected e.name fault] ∧
        ("error", .bare fault.message) ∈ (v.rejected e.name fault).2.record.fields) ∧
    ((∃ x ∈ c.buildRegistry.told, x.1 = .warn) ↔
      ∃ before e front v fault, c.Rejects before e front v fault) ∧
    ((∃ n, (.info, .catalogLoaded n) ∈ c.buildRegistry.told) ↔
      ∃ r, c.buildRegistry.value = .ok r) := by
  refine ⟨fun _ _ => tells_iff, fun _ _ _ v fault h => ⟨h.warnings, ?_⟩, exists_warning_iff,
    exists_loaded_iff⟩
  simp [VersionEntry.rejected, Event.record]

/-- The second language of a name tells of its module and is not added. -/
example :
    let ada : LanguageEntry :=
      { name := "Ada", shortName? := some "a", terseName := "ada",
        versions := [{ version := "83", aliases := ["87"], isDefault := true },
          { version := "95" }] }
    (buildRegistry ⟨[ada, ada]⟩).events
      = [.versionRegistered "Ada" "83" ["87"] true, .versionRegistered "Ada" "95" [] false,
        .moduleReady "Ada" 2 "83", .versionRegistered "Ada" "83" ["87"] true,
        .versionRegistered "Ada" "95" [] false, .moduleReady "Ada" 2 "83",
        .languageAdded "Ada"] := by
  decide

end Catalog

end Polyglot
