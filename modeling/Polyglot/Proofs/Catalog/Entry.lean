import Polyglot.Catalog.Build
import Polyglot.Catalog.Builtin
import Polyglot.Proofs.FirstError
import Polyglot.Proofs.Language.Record

/-!
# What becomes of an entry

An entry registers its versions one after the other, so the builder behind any front of them is
the record of that front. What is registered depends on who hands out the handlers, a supply or a
function; whether it is taken in does not. From this it follows when an entry gives a module, and
which error it gives otherwise, in terms of what stands in the entry.

- `Builder.recordsFor_acceptAll`: behind registrations that are taken in stands their record.
- `LanguageEntry.suppliedRegistrations`, `LanguageEntry.result_buildSuppliedFrom`: what is
  registered with the handlers of a supply, and that this is all there is to building.
- `LanguageEntry.exists_build_eq_ok`: an entry gives a module when it is well formed.
- `LanguageEntry.build_eq_error`: the error of an entry is what is wrong with it.
-/

namespace Polyglot

universe u v

variable {σ : Type v} {η : Type u}

open Registration

/-! ## Registrations up to the first refusal -/

namespace Builder

/-- Take in a registration, or say why not. -/
def accept (b : Builder η) (r : Registration η) : Except RegistryError (Builder η) :=
  (b.apply (.register r)).value

theorem accept_of_refusal? {b : Builder η} {r : Registration η} {fault : RegistryError}
    (h : b.refusal? r = some fault) : b.accept r = .error fault := by
  show (b.register r).2.map _ = _
  rw [register_of_refusal? h]
  rfl

theorem accept_of_free {b : Builder η} {r : Registration η} (h : b.refusal? r = none) :
    b.accept r = .ok (b.store r (collision?_eq_none_of_refusal? h)) := by
  show (b.register r).2.map (fun _ => (b.register r).1) = _
  rw [register_of_free h]
  rfl

theorem accept_eq_error {b : Builder η} {r : Registration η} {fault : RegistryError} :
    b.accept r = .error fault ↔ b.refusal? r = some fault := by
  constructor
  · intro h
    cases hr : b.refusal? r with
    | some fault' =>
      rw [accept_of_refusal? hr] at h
      rw [Except.error.inj h]
    | none =>
      rw [accept_of_free hr] at h
      cases h
  · exact accept_of_refusal?

/-- What is taken in leaves the names of the language as they are. -/
theorem language_accept {b b' : Builder η} {r : Registration η} (h : b.accept r = .ok b') :
    b'.table.language = b.table.language := by
  cases hr : b.refusal? r with
  | some fault =>
    rw [accept_of_refusal? hr] at h
    cases h
  | none =>
    rw [accept_of_free hr] at h
    cases h
    rfl

theorem language_acceptAll {rs : List (Registration η)} {b b' : Builder η}
    (h : rs.foldlM accept b = .ok b') : b'.table.language = b.table.language :=
  @foldlM_induction _ _ _ _ (fun _ b'' => b''.table.language = b.table.language)
    (fun _ _ _ _ hs ht => (language_accept ht).trans hs) [] rs b b' rfl h

/-- What is taken in leaves the extensions and the strategy as they are. -/
theorem settings_accept {b b' : Builder η} {r : Registration η} (h : b.accept r = .ok b') :
    b'.extensions = b.extensions ∧ b'.strategy = b.strategy := by
  cases hr : b.refusal? r with
  | some fault =>
    rw [accept_of_refusal? hr] at h
    cases h
  | none =>
    rw [accept_of_free hr] at h
    cases h
    exact ⟨rfl, rfl⟩

theorem settings_acceptAll {rs : List (Registration η)} {b b' : Builder η}
    (h : rs.foldlM accept b = .ok b') :
    b'.extensions = b.extensions ∧ b'.strategy = b.strategy := by
  refine @foldlM_induction _ _ _ _
    (fun _ b'' => b''.extensions = b.extensions ∧ b''.strategy = b.strategy)
    (fun _ s _ t hs ht => ?_) [] rs b b' ⟨rfl, rfl⟩ h
  obtain ⟨hextensions, hstrategy⟩ := settings_accept ht
  exact ⟨hextensions.trans hs.1, hstrategy.trans hs.2⟩

/-- The builder records these registrations, for a language of this name. -/
structure RecordsFor (name : String) (rs : List (Registration η)) (b : Builder η) : Prop where
  name_eq : b.name = name
  records : Records b rs

theorem recordsFor_accept {name : String} {rs : List (Registration η)} {b b' : Builder η}
    {r : Registration η} (h : RecordsFor name rs b) (hb : b.accept r = .ok b') :
    RecordsFor name (rs ++ [r]) b' := by
  cases hr : b.refusal? r with
  | some fault =>
    rw [accept_of_refusal? hr] at hb
    cases hb
  | none =>
    rw [accept_of_free hr] at hb
    cases hb
    exact ⟨h.name_eq, records_store h.records hr⟩

theorem recordsFor_acceptAll {name : String} {rs : List (Registration η)} {b b' : Builder η}
    (h : RecordsFor name [] b) (hb : rs.foldlM accept b = .ok b') : RecordsFor name rs b' :=
  foldlM_induction (RecordsFor name) (fun _ _ _ _ => recordsFor_accept) h hb

/-- Registrations are all taken in when they are acceptable. -/
theorem exists_acceptAll_eq_ok {name : String} {rs : List (Registration η)} {b : Builder η}
    (h : RecordsFor name [] b) : (∃ b', rs.foldlM accept b = .ok b') ↔ Acceptable rs := by
  constructor
  · rintro ⟨b', hb⟩
    exact (recordsFor_acceptAll h hb).records.acceptable
  · intro hrs
    refine exists_foldlM_eq_ok (RecordsFor name) (fun _ _ _ _ => recordsFor_accept) h ?_
    rintro front r back b' rfl hfront
    have hnext : Acceptable (front ++ [r]) := by
      rw [← List.singleton_append, ← List.append_assoc] at hrs
      exact hrs.of_append
    exact ⟨_, accept_of_free (hfront.records.refusal?_eq_none.2 hnext)⟩

/-- The registration that is refused is the first one that is not acceptable behind the others. -/
theorem acceptAll_eq_error {name : String} {rs : List (Registration η)} {b : Builder η}
    (h : RecordsFor name [] b) {fault : RegistryError} :
    rs.foldlM accept b = .error fault ↔
      ∃ front r back, rs = front ++ r :: back ∧ Acceptable front ∧
        Refusal name front r fault := by
  rw [foldlM_eq_error]
  constructor
  · rintro ⟨front, r, back, b', rfl, hb, hr⟩
    have hfront := recordsFor_acceptAll h hb
    rw [accept_eq_error, hfront.records.refusal?_eq_some, hfront.name_eq] at hr
    exact ⟨front, r, back, rfl, hfront.records.acceptable, hr⟩
  · rintro ⟨front, r, back, rfl, hacceptable, hr⟩
    obtain ⟨b', hb⟩ := (exists_acceptAll_eq_ok h).2 hacceptable
    have hfront := recordsFor_acceptAll h hb
    rw [← hfront.name_eq, ← hfront.records.refusal?_eq_some, ← accept_eq_error] at hr
    exact ⟨front, r, back, b', rfl, hb, hr⟩

/-- Registrations give a module when they are acceptable and one of them has the mark. -/
theorem exists_acceptAll_build_eq_ok {name : String} {rs : List (Registration η)} {b : Builder η}
    (h : RecordsFor name [] b) :
    (∃ m, (rs.foldlM accept b >>= build) = .ok m) ↔
      Acceptable rs ∧ ∃ r ∈ rs, r.isDefault = true := by
  rw [← exists_acceptAll_eq_ok h]
  cases hb : rs.foldlM accept b with
  | error fault =>
    constructor
    · rintro ⟨m, hm⟩
      cases hm
    · rintro ⟨⟨b', hb'⟩, -⟩
      cases hb'
  | ok b' =>
    have hrecords := (recordsFor_acceptAll h hb).records
    rw [← hrecords.default?_isSome, ← exists_build_eq_ok]
    exact ⟨fun hm => ⟨⟨b', rfl⟩, hm⟩, fun hm => hm.2⟩

/-- The module is the record of the registrations. -/
theorem isRecordOf_acceptAll {name : String} {rs : List (Registration η)} {b : Builder η}
    {m : LanguageModule η} (h : RecordsFor name [] b)
    (hm : (rs.foldlM accept b >>= build) = .ok m) : m.IsRecordOf rs := by
  obtain ⟨b', hb, hm⟩ := bind_eq_ok.1 hm
  exact (recordsFor_acceptAll h hb).records.isRecordOf hm

theorem identity_acceptAll {rs : List (Registration η)} {b : Builder η} {m : LanguageModule η}
    (hm : (rs.foldlM accept b >>= build) = .ok m) : m.identity = b.table.language := by
  obtain ⟨b', hb, hm⟩ := bind_eq_ok.1 hm
  rw [LanguageModule.identity, (build_eq_ok.1 hm).1, language_acceptAll hb]

end Builder

/-! ## Entries -/

/-- The keys that a version is to have: its id, then its aliases. -/
def VersionEntry.keys (v : VersionEntry) : List String := v.version :: v.aliases

namespace LanguageEntry

/-- An entry that describes a language: the keys of its versions, taken together, are distinct,
and exactly one version is marked as default. -/
structure WellFormed (e : LanguageEntry) : Prop where
  keys_nodup : (e.versions.flatMap VersionEntry.keys).Nodup
  one_default : e.versions.countP (·.isDefault) = 1

instance : DecidablePred WellFormed := fun e =>
  decidable_of_iff ((e.versions.flatMap VersionEntry.keys).Nodup ∧
      e.versions.countP (·.isDefault) = 1)
    ⟨fun h => ⟨h.1, h.2⟩, fun h => ⟨h.keys_nodup, h.one_default⟩⟩

/-- The names that the entry gives to its language. -/
def identity (e : LanguageEntry) : Identity := ⟨e.name, e.shortName?, e.terseName⟩

/-- The registrations that the entry spells out. -/
def registrations (handlerFor : LanguageEntry → VersionEntry → η) (e : LanguageEntry) :
    List (Registration η) :=
  e.versions.map (e.registration handlerFor)

/-- What is wrong with an entry: the first registration that is refused behind those before it,
and if all are accepted, that no version is marked as default. -/
inductive Fault (handlerFor : LanguageEntry → VersionEntry → η) (e : LanguageEntry) :
    RegistryError → Prop
  | refused {before after : List (Registration η)} {r : Registration η} {fault : RegistryError}
      (split : e.registrations handlerFor = before ++ r :: after)
      (accepted : Acceptable before)
      (refusal : Refusal e.name before r fault) :
      Fault handlerFor e fault
  | missingDefault
      (accepted : Acceptable (e.registrations handlerFor))
      (unmarked : e.versions.countP (·.isDefault) = 0) :
      Fault handlerFor e (.missingDefault e.name)

/-! ### With a supply -/

section

variable (supply : Supply σ η) (e : LanguageEntry)

/-- The registration of a version with the handler that the supply hands out. -/
def suppliedRegistration (v : VersionEntry) (s : σ) : Registration η :=
  e.registration (fun _ _ => (supply.ask e v s).1) v

/-- The registrations of versions that are asked for one after the other. -/
def suppliedRegistrations : List VersionEntry → σ → List (Registration η)
  | [], _ => []
  | v :: vs, s =>
    e.suppliedRegistration supply v s :: suppliedRegistrations vs (supply.ask e v s).2

/-- A supply without memory hands out what its function gives, so these are the registrations that
the function leads to. -/
theorem suppliedRegistrations_ofFunction (handlerFor : LanguageEntry → VersionEntry → η)
    (vs : List VersionEntry) (s : σ) :
    e.suppliedRegistrations (.ofFunction handlerFor) vs s
      = vs.map (e.registration handlerFor) := by
  induction vs with
  | nil => rfl
  | cons v vs ih =>
    rw [suppliedRegistrations, Supply.ask_ofFunction, ih]
    rfl

variable {supply e} {b b' : Builder η} {s : σ} {v : VersionEntry} {fault : RegistryError}

theorem buildSuppliedFrom_cons_of_error
    (h : b.accept (e.suppliedRegistration supply v s) = .error fault) (vs : List VersionEntry) :
    e.buildSuppliedFrom supply (v :: vs) b s
      = ({ asked := [(e, v)],
           events := (b.apply (.register (e.suppliedRegistration supply v s))).events,
           result := .error fault }, (supply.ask e v s).2) := by
  have hvalue : (b.apply (.register (e.registration (fun _ _ => (supply.ask e v s).1) v))).value
      = .error fault := h
  rw [buildSuppliedFrom]
  simp only [hvalue]
  rfl

theorem buildSuppliedFrom_cons_of_ok
    (h : b.accept (e.suppliedRegistration supply v s) = .ok b') (vs : List VersionEntry) :
    e.buildSuppliedFrom supply (v :: vs) b s
      = let rest := e.buildSuppliedFrom supply vs b' (supply.ask e v s).2
        ({ asked := (e, v) :: rest.1.asked,
           events := (b.apply (.register (e.suppliedRegistration supply v s))).events
             ++ rest.1.events,
           result := rest.1.result }, rest.2) := by
  have hvalue : (b.apply (.register (e.registration (fun _ _ => (supply.ask e v s).1) v))).value
      = .ok b' := h
  rw [buildSuppliedFrom]
  simp only [hvalue]
  rfl

/-- Building is taking in the registrations up to the first refusal, and then finishing the module. -/
theorem result_buildSuppliedFrom (vs : List VersionEntry) (b : Builder η) (s : σ) :
    (e.buildSuppliedFrom supply vs b s).1.result
      = (e.suppliedRegistrations supply vs s).foldlM Builder.accept b >>= Builder.build := by
  induction vs generalizing b s with
  | nil =>
    show b.buildLogged.value = b.build
    rw [Builder.buildLogged]
    cases b.build <;> rfl
  | cons v vs ih =>
    rw [suppliedRegistrations]
    cases hb : b.accept (e.suppliedRegistration supply v s) with
    | error fault =>
      rw [buildSuppliedFrom_cons_of_error hb, foldlM_cons_of_error hb]
      rfl
    | ok b' =>
      rw [buildSuppliedFrom_cons_of_ok hb, foldlM_cons_of_ok hb]
      exact ih b' (supply.ask e v s).2

end

/-! ### With a function -/

section

variable (handlerFor : LanguageEntry → VersionEntry → η) (e : LanguageEntry)

theorem flatMap_keys_registrations :
    (e.registrations handlerFor).flatMap Registration.keys
      = e.versions.flatMap VersionEntry.keys := by
  rw [registrations, List.flatMap_map]
  rfl

theorem countP_registrations :
    (e.registrations handlerFor).countP (·.isDefault) = e.versions.countP (·.isDefault) := by
  rw [registrations, List.countP_map]
  rfl

theorem wellFormed_iff :
    e.WellFormed ↔ Acceptable (e.registrations handlerFor) ∧
      ∃ r ∈ e.registrations handlerFor, r.isDefault = true := by
  rw [← List.countP_pos_iff, countP_registrations]
  constructor
  · intro h
    refine ⟨⟨?_, ?_⟩, ?_⟩
    · rw [flatMap_keys_registrations]
      exact h.keys_nodup
    · rw [countP_registrations]
      exact Nat.le_of_eq h.one_default
    · rw [h.one_default]
      exact Nat.one_pos
  · rintro ⟨⟨hkeys, hone⟩, hpos⟩
    rw [flatMap_keys_registrations] at hkeys
    rw [countP_registrations] at hone
    exact ⟨hkeys, by omega⟩

/-- The builder of an entry has all its names. -/
theorem language_builder : (e.builder : Builder η).table.language = e.identity := by
  rw [builder, identity]
  cases e.shortName? <;> rfl

/-- The builder of an entry has its extensions and its strategy. -/
theorem settings_builder :
    (e.builder : Builder η).extensions = Extension.addAll [] e.extensions ∧
      (e.builder : Builder η).strategy = e.strategy := by
  rw [builder]
  cases e.shortName? <;> exact ⟨rfl, rfl⟩

/-- The builder of an entry records nothing yet. -/
theorem recordsFor_builder : Builder.RecordsFor e.name [] (e.builder : Builder η) := by
  have hbase : Builder.Records (((Builder.new e.name e.terseName).withExtensions
      e.extensions).withStrategy e.strategy : Builder η) [] :=
    (Builder.records_new e.name e.terseName).congr rfl rfl
  rw [builder]
  cases e.shortName? with
  | none => exact ⟨rfl, hbase⟩
  | some s => exact ⟨rfl, Builder.records_withShortName hbase s⟩

/-- Building an entry is taking in its registrations up to the first refusal, and then finishing
the module. -/
theorem result_build :
    (e.build handlerFor).result
      = (e.registrations handlerFor).foldlM Builder.accept e.builder >>= Builder.build := by
  rw [build, buildFrom, result_buildSuppliedFrom, suppliedRegistrations_ofFunction,
    registrations]

/-- An entry gives a module when it is well formed. -/
theorem exists_build_eq_ok :
    (∃ m, (e.build handlerFor).result = .ok m) ↔ e.WellFormed := by
  rw [result_build, wellFormed_iff handlerFor]
  exact Builder.exists_acceptAll_build_eq_ok (recordsFor_builder e)

example : ∀ e ∈ Catalog.builtin.languages, e.WellFormed := by decide

/-- The error of an entry is what is wrong with it. -/
theorem build_eq_error {fault : RegistryError} :
    (e.build handlerFor).result = .error fault ↔ e.Fault handlerFor fault := by
  have hstart := recordsFor_builder (η := η) e
  rw [result_build]
  cases hb : (e.registrations handlerFor).foldlM Builder.accept e.builder with
  | error fault' =>
    have hrefused := (Builder.acceptAll_eq_error hstart).1 hb
    constructor
    · intro h
      obtain ⟨front, r, back, split, accepted, refusal⟩ := hrefused
      cases h
      exact .refused split accepted refusal
    · intro h
      cases h with
      | refused split accepted refusal =>
        rw [(Builder.acceptAll_eq_error hstart).2 ⟨_, _, _, split, accepted, refusal⟩] at hb
        rw [Except.error.inj hb]
        rfl
      | missingDefault accepted unmarked =>
        -- acceptable registrations are all taken in
        obtain ⟨b, h⟩ := (Builder.exists_acceptAll_eq_ok hstart).2 accepted
        rw [h] at hb
        cases hb
  | ok b =>
    have h := Builder.recordsFor_acceptAll hstart hb
    have hnone : b.default? = none ↔ e.versions.countP (·.isDefault) = 0 := by
      rw [h.records.default, List.findIdx?_eq_none_iff, ← countP_registrations handlerFor,
        List.countP_eq_zero]
      simp
    show b.build = .error fault ↔ _
    rw [Builder.build_eq_error, hnone, h.name_eq]
    constructor
    · rintro ⟨unmarked, rfl⟩
      exact .missingDefault h.records.acceptable unmarked
    · intro hf
      cases hf with
      | refused split accepted refusal =>
        -- a refusal would have ended the registrations
        rw [(Builder.acceptAll_eq_error hstart).2 ⟨_, _, _, split, accepted, refusal⟩] at hb
        cases hb
      | missingDefault accepted unmarked => exact ⟨unmarked, rfl⟩

/-- There is something wrong only with an entry that is not well formed. -/
theorem Fault.not_wellFormed {handlerFor : LanguageEntry → VersionEntry → η}
    {e : LanguageEntry} {fault : RegistryError} (h : e.Fault handlerFor fault) :
    ¬ e.WellFormed := by
  rw [← build_eq_error] at h
  rw [← exists_build_eq_ok handlerFor, h]
  rintro ⟨m, hm⟩
  cases hm

/-- The module of an entry is finished from a builder that took in all its registrations. -/
theorem exists_builder_of_build {m : LanguageModule η}
    (h : (e.build handlerFor).result = .ok m) :
    ∃ b, (e.registrations handlerFor).foldlM Builder.accept e.builder = .ok b ∧
      b.build = .ok m := by
  rw [result_build] at h
  exact bind_eq_ok.1 h

/-- A module has the names of its entry. -/
theorem identity_of_build {m : LanguageModule η} (h : (e.build handlerFor).result = .ok m) :
    m.identity = e.identity := by
  rw [result_build] at h
  rw [Builder.identity_acceptAll h, language_builder]

theorem name_of_build {m : LanguageModule η} (h : (e.build handlerFor).result = .ok m) :
    m.name = e.name :=
  congrArg Identity.name (identity_of_build handlerFor e h)

/-- A module has the extensions of its entry, put in order, and its strategy. -/
theorem settings_of_build {m : LanguageModule η} (h : (e.build handlerFor).result = .ok m) :
    m.extensions = Extension.addAll [] e.extensions ∧ m.strategy = e.strategy := by
  obtain ⟨b, hb, hm⟩ := exists_builder_of_build handlerFor e h
  obtain ⟨-, hextensions, hstrategy, -⟩ := Builder.build_eq_ok.1 hm
  obtain ⟨hextensions', hstrategy'⟩ := Builder.settings_acceptAll hb
  obtain ⟨hextensions'', hstrategy''⟩ := settings_builder (η := η) e
  exact ⟨hextensions.trans (hextensions'.trans hextensions''),
    hstrategy.trans (hstrategy'.trans hstrategy'')⟩

/-- A module is the record of what its entry spells out. -/
theorem isRecordOf_build {m : LanguageModule η} (h : (e.build handlerFor).result = .ok m) :
    m.IsRecordOf (e.registrations handlerFor) := by
  rw [result_build] at h
  exact Builder.isRecordOf_acceptAll (recordsFor_builder e) h

end

end LanguageEntry

end Polyglot
