import Polyglot.Proofs.Catalog.Entry
import Polyglot.Proofs.InStep
import Polyglot.Proofs.Language.Registry

/-!
# What becomes of a catalog

Versions, entries and the registry are each worked off up to the first error, so of
many faults one is reported. Whether a catalog gives a registry is a matter of what stands
in it and not of this order (`WellFormed` entries with distinct names), and the order
says which fault is told: the first entry with a fault of its own comes before any
repeated name (`buildRegistry_outcome`).
-/

namespace Polyglot

universe u

variable {η : Type u}

namespace Catalog

section

variable (handlerFor : LanguageEntry → VersionEntry → η)

/-! ## Modules -/

theorem buildEntries_cons_of_ok {e : LanguageEntry} {m : LanguageModule η}
    (h : (e.build handlerFor).result = .ok m) (es : List LanguageEntry) :
    (buildEntries handlerFor (e :: es)).result
      = (buildEntries handlerFor es).result.map (m :: ·) := by
  rw [buildEntries_cons, h]

theorem buildEntries_cons_of_error {e : LanguageEntry} {fault : RegistryError}
    (h : (e.build handlerFor).result = .error fault) (es : List LanguageEntry) :
    (buildEntries handlerFor (e :: es)).result = .error fault := by
  rw [buildEntries_cons, h]

/-- Entries give modules one by one. -/
theorem buildEntries_eq_ok {es : List LanguageEntry} {ms : List (LanguageModule η)} :
    (buildEntries handlerFor es).result = .ok ms ↔
      List.Forall₂ (fun e m => (e.build handlerFor).result = .ok m) es ms := by
  induction es generalizing ms with
  | nil =>
    constructor
    · intro h
      cases h
      exact .nil
    · intro h
      cases h
      rfl
  | cons e es ih =>
    cases he : (e.build handlerFor).result with
    | error fault =>
      rw [buildEntries_cons_of_error handlerFor he]
      constructor
      · intro h
        cases h
      · intro h
        cases h with
        | cons hm _ =>
          rw [he] at hm
          cases hm
    | ok m =>
      rw [buildEntries_cons_of_ok handlerFor he]
      constructor
      · intro h
        cases hes : (buildEntries handlerFor es).result with
        | error fault =>
          rw [hes] at h
          cases h
        | ok ms' =>
          rw [hes] at h
          cases h
          exact .cons he (ih.1 hes)
      · intro h
        cases h with
        | cons hm hms =>
          rw [he] at hm
          rw [ih.2 hms, ← Except.ok.inj hm]
          rfl

/-- The modules have the names of their entries, in order. -/
theorem names_of_buildEntries {es : List LanguageEntry} {ms : List (LanguageModule η)}
    (h : (buildEntries handlerFor es).result = .ok ms) :
    ms.map LanguageModule.name = es.map (·.name) := by
  have hall := (buildEntries_eq_ok handlerFor).1 h
  induction hall with
  | nil => rfl
  | cons hm hms ih =>
    rw [List.map_cons, List.map_cons, LanguageEntry.name_of_build handlerFor _ hm,
      ih ((buildEntries_eq_ok handlerFor).2 hms)]

theorem exists_buildEntries_eq_ok {es : List LanguageEntry} :
    (∃ ms, (buildEntries handlerFor es).result = .ok ms) ↔ ∀ e ∈ es, e.WellFormed := by
  simp only [buildEntries_eq_ok, ← LanguageEntry.exists_build_eq_ok handlerFor]
  induction es with
  | nil => simp
  | cons e es ih =>
    rw [List.forall_mem_cons, ← ih]
    constructor
    · rintro ⟨ms, hms⟩
      cases hms with
      | cons hm hms => exact ⟨⟨_, hm⟩, ⟨_, hms⟩⟩
    · rintro ⟨⟨m, hm⟩, ⟨ms, hms⟩⟩
      exact ⟨m :: ms, .cons hm hms⟩

/-- Building entries is a fold that appends the modules. -/
theorem foldlM_append_build (es : List LanguageEntry) (ms : List (LanguageModule η)) :
    es.foldlM (fun ms e => (e.build handlerFor).result.map (ms ++ [·])) ms
      = (buildEntries handlerFor es).result.map (ms ++ ·) := by
  induction es generalizing ms with
  | nil =>
    show Except.ok ms = .ok (ms ++ [])
    rw [List.append_nil]
  | cons e es ih =>
    rw [List.foldlM_cons]
    cases he : (e.build handlerFor).result with
    | error fault =>
      rw [buildEntries_cons_of_error handlerFor he]
      rfl
    | ok m =>
      rw [buildEntries_cons_of_ok handlerFor he]
      show es.foldlM _ (ms ++ [m]) = _
      rw [ih]
      cases (buildEntries handlerFor es).result with
      | error fault => rfl
      | ok ms' => simp [Except.map]

/-- The error of entries is what is wrong with the first one that is not well formed. -/
theorem buildEntries_eq_error {es : List LanguageEntry} {fault : RegistryError} :
    (buildEntries handlerFor es).result = .error fault ↔
      ∃ before e after, es = before ++ e :: after ∧ (∀ e' ∈ before, e'.WellFormed) ∧
        e.Fault handlerFor fault := by
  rw [← map_eq_error (f := ([] ++ ·)), ← foldlM_append_build, foldlM_eq_error]
  constructor
  · rintro ⟨before, e, after, ms, rfl, hbefore, he⟩
    rw [map_eq_error, LanguageEntry.build_eq_error] at he
    rw [foldlM_append_build] at hbefore
    refine ⟨before, e, after, rfl, ?_, he⟩
    rw [← exists_buildEntries_eq_ok handlerFor]
    cases hms : (buildEntries handlerFor before).result with
    | error fault' =>
      rw [hms] at hbefore
      cases hbefore
    | ok ms' => exact ⟨ms', rfl⟩
  · rintro ⟨before, e, after, rfl, hbefore, he⟩
    obtain ⟨ms, hms⟩ := (exists_buildEntries_eq_ok handlerFor).2 hbefore
    refine ⟨before, e, after, [] ++ ms, rfl, ?_, ?_⟩
    · rw [foldlM_append_build, hms]
      rfl
    · rw [map_eq_error, LanguageEntry.build_eq_error]
      exact he

/-! ## Registries -/

theorem value_buildRegistryWith (c : Catalog) :
    (c.buildRegistryWith handlerFor).value
      = (buildEntries handlerFor c.languages).result >>=
        fun ms => (Registry.ofModules ms).value := by
  rw [buildRegistryWith, Logged.value_andThen]
  congr 1
  funext ms
  rw [Logged.value_andThen]
  cases (Registry.ofModules ms).value <;> rfl

/-- A catalog gives a registry when its entries are well formed and have distinct names, whatever
the handlers are. -/
theorem exists_buildRegistryWith_eq_ok {c : Catalog} :
    (∃ r, (c.buildRegistryWith handlerFor).value = .ok r) ↔
      (∀ e ∈ c.languages, e.WellFormed) ∧ (c.languages.map (·.name)).Nodup := by
  simp only [value_buildRegistryWith, bind_eq_ok]
  rw [← exists_buildEntries_eq_ok handlerFor]
  constructor
  · rintro ⟨r, ms, hms, hr⟩
    rw [← names_of_buildEntries handlerFor hms, ← Registry.exists_ofModules_eq_ok]
    exact ⟨⟨ms, hms⟩, ⟨r, hr⟩⟩
  · rintro ⟨⟨ms, hms⟩, hnames⟩
    rw [← names_of_buildEntries handlerFor hms, ← Registry.exists_ofModules_eq_ok] at hnames
    obtain ⟨r, hr⟩ := hnames
    exact ⟨r, ms, hms, hr⟩

/-- The registry of a catalog holds the modules of its entries. -/
theorem mem_modules_buildRegistryWith {c : Catalog} {r : Registry η}
    (h : (c.buildRegistryWith handlerFor).value = .ok r) (m : LanguageModule η) :
    m ∈ r.modules ↔ ∃ e ∈ c.languages, (e.build handlerFor).result = .ok m := by
  rw [value_buildRegistryWith] at h
  obtain ⟨ms, hms, hr⟩ := bind_eq_ok.1 h
  have hpairs := (buildEntries_eq_ok handlerFor).1 hms
  rw [Registry.mem_modules_ofModules hr]
  constructor
  · exact exists_of_mem_left hpairs.flip m
  · rintro ⟨e, he, hm⟩
    obtain ⟨n, hn, hn'⟩ := exists_of_mem_left hpairs e he
    rw [hm] at hn'
    rwa [Except.ok.inj hn']

end

/-- A catalog gives a registry exactly when every entry is well formed and no two have one name.
Otherwise the error is what is wrong with the first entry that is not well formed, and if
there is none, the first name that repeats an earlier one. -/
theorem buildRegistry_outcome (c : Catalog) :
    ((∃ r, c.buildRegistry.value = .ok r) ↔
      (∀ e ∈ c.languages, e.WellFormed) ∧ (c.languages.map (·.name)).Nodup) ∧
    ∀ fault, c.buildRegistry.value = .error fault ↔
      (∃ before e after, c.languages = before ++ e :: after ∧
        (∀ e' ∈ before, e'.WellFormed) ∧ ¬ e.WellFormed ∧ e.Fault note fault) ∨
      (∀ e ∈ c.languages, e.WellFormed) ∧
        ∃ front name back, c.languages.map (·.name) = front ++ name :: back ∧ front.Nodup ∧
          name ∈ front ∧ fault = .duplicateLanguage name := by
  refine ⟨exists_buildRegistryWith_eq_ok note, fun fault => ?_⟩
  rw [buildRegistry, value_buildRegistryWith, bind_eq_error]
  refine or_congr ?_ ?_
  · rw [buildEntries_eq_error]
    constructor
    · rintro ⟨before, e, after, split, hbefore, he⟩
      exact ⟨before, e, after, split, hbefore, he.not_wellFormed, he⟩
    · rintro ⟨before, e, after, split, hbefore, -, he⟩
      exact ⟨before, e, after, split, hbefore, he⟩
  · constructor
    · rintro ⟨ms, hms, hfault⟩
      rw [Registry.ofModules_eq_error, names_of_buildEntries note hms] at hfault
      exact ⟨(exists_buildEntries_eq_ok note).1 ⟨ms, hms⟩, hfault⟩
    · rintro ⟨hall, hfault⟩
      obtain ⟨ms, hms⟩ := (exists_buildEntries_eq_ok note).2 hall
      rw [← names_of_buildEntries note hms, ← Registry.ofModules_eq_error] at hfault
      exact ⟨ms, hms, hfault⟩

end Catalog

end Polyglot
