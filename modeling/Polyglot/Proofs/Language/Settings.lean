import Polyglot.Proofs.Language.Record

/-!
# Settings and registrations

The calls that set the short name, the extensions or the strategy, and the calls that
register versions, do not get in each other's way: a registration goes the same behind a
setting as before it, and both orders leave the same builder (`register_after`). So all
settings of a script can be made first (`run_settingsFirst`, `verdicts_settingsFirst`).

A short name that is set late is also that of the versions registered before it, which keep
all else (`getElem?_versions_run`), and the last one that is set counts (`language_run`).
-/

namespace Polyglot

universe u

variable {η : Type u}

/-! ## Renamed tables -/

/-- The names of the language play no part in collisions. -/
theorem VersionTable.collision?_rename (t : VersionTable η) (language : Identity)
    (keys : List String) : (t.rename language).collision? keys = t.collision? keys := by
  rw [collision?, collision?]
  generalize ([] : List String) = seen
  induction keys generalizing seen with
  | nil => rfl
  | cons key keys ih =>
    have hkey : (t.rename language).hasKey key = t.hasKey key := rfl
    rw [collisionAfter?, collisionAfter?, hkey, ih]

/-- A version that is added to a renamed table is a version that is renamed with the table. -/
theorem VersionTable.add_rename (t : VersionTable η) (language : Identity) (id : String)
    (aliases : List String) (handler : η)
    (free : (t.rename language).collision? (id :: aliases) = none)
    (free' : t.collision? (id :: aliases) = none) :
    (t.rename language).add id aliases handler free
      = (t.add id aliases handler free').rename language := by
  simp [rename, add]

/-! ## Kinds of calls -/

/-- Whether a call is a registration; the other calls are settings. -/
def Builder.Call.isRegistration : Builder.Call η → Bool
  | .register _ => true
  | _ => false

/-- The short name that a call sets. -/
def Builder.Call.shortName? : Builder.Call η → Option String
  | .shortName value => some value
  | _ => none

namespace Builder

/-- A script with its settings in front of its registrations, both in their order. -/
def settingsFirst (script : List (Call η)) : List (Call η) :=
  script.filter (!·.isRegistration) ++ script.filter (·.isRegistration)

/-- The short name that a script sets last. -/
def lastShortName? (script : List (Call η)) : Option String :=
  (script.filterMap Call.shortName?).getLast?

/-- The registration that a line of a transcript tells of, and how it went. -/
def verdict? : Call η × Except RegistryError Unit →
    Option (Registration η × Except RegistryError Unit)
  | (.register r, outcome) => some (r, outcome)
  | _ => none

/-- The registrations of a script in order, each with how it went. -/
def verdicts (b : Builder η) (script : List (Call η)) :
    List (Registration η × Except RegistryError Unit) :=
  (b.transcript script).filterMap verdict?

theorem verdicts_register (b : Builder η) (r : Registration η) (cs : List (Call η)) :
    b.verdicts (.register r :: cs)
      = (r, (b.register r).2) :: (b.after (.register r)).verdicts cs := rfl

theorem verdicts_setting {c : Call η} (hc : c.isRegistration = false) (b : Builder η)
    (cs : List (Call η)) : b.verdicts (c :: cs) = (b.after c).verdicts cs := by
  cases c with
  | register r => cases hc
  | shortName | extensions | strategy => rfl

/-- Settings have no verdicts. -/
theorem verdicts_settings_append {settings : List (Call η)}
    (hs : ∀ c ∈ settings, c.isRegistration = false) (b : Builder η) (cs : List (Call η)) :
    b.verdicts (settings ++ cs) = (b.run settings).verdicts cs := by
  induction settings generalizing b with
  | nil => rfl
  | cons c settings ih =>
    obtain ⟨hc, hsettings⟩ := List.forall_mem_cons.1 hs
    rw [List.cons_append, verdicts_setting hc, ih hsettings, run_cons]

theorem run_append (b : Builder η) (xs ys : List (Call η)) :
    b.run (xs ++ ys) = (b.run xs).run ys := List.foldl_append

/-! ## One setting and one registration -/

/-- Settings are no reason for or against a registration. -/
theorem refusal?_after {c : Call η} (hc : c.isRegistration = false) (b : Builder η)
    (r : Registration η) : (b.after c).refusal? r = b.refusal? r := by
  cases c with
  | register r => cases hc
  | extensions | strategy => rfl
  | shortName value =>
    have hname : (b.withShortName value).name = b.name := rfl
    have hcollision : (b.withShortName value).table.collision? r.keys
        = b.table.collision? r.keys := b.table.collision?_rename _ _
    have hdefault : (b.withShortName value).defaultVersion?
        = b.defaultVersion?.map fun v =>
          { v with language := (b.withShortName value).table.language } := by
      show b.default?.bind (fun i => (b.table.versions.map _)[i]?) = _
      rw [defaultVersion?, Option.map_bind]
      congr 1
      funext i
      exact List.getElem?_map
    show (b.withShortName value).refusal? r = _
    rw [refusal?, refusal?, hname, hcollision, hdefault]
    -- only the id of a default version is told, and renaming keeps it
    cases b.table.collision? r.keys with
    | some key => rfl
    | none => cases r.isDefault <;> cases b.defaultVersion? <;> rfl

theorem eq_of_parts {b b' : Builder η} (table : b.table = b'.table)
    (extensions : b.extensions = b'.extensions) (strategy : b.strategy = b'.strategy)
    (default : b.default? = b'.default?) : b = b' := by
  cases b
  cases b'
  rw [mk.injEq]
  exact ⟨table, extensions, strategy, default⟩

/-- A setting and a registration can be exchanged: the registration goes as it went, and the
builder is the same behind both. -/
theorem register_after {c : Call η} (hc : c.isRegistration = false) (b : Builder η)
    (r : Registration η) :
    (b.after c).register r = ((b.register r).1.after c, (b.register r).2) := by
  have hrefusal := refusal?_after hc b r
  cases h : b.refusal? r with
  | some fault =>
    rw [h] at hrefusal
    rw [register_of_refusal? hrefusal, register_of_refusal? h]
  | none =>
    rw [h] at hrefusal
    rw [register_of_free hrefusal, register_of_free h]
    cases c with
    | register r => cases hc
    | extensions | strategy => rfl
    | shortName value =>
      have htable := b.table.add_rename { b.table.language with shortName? := some value }
        r.id r.aliases r.handler (collision?_eq_none_of_refusal? hrefusal)
        (collision?_eq_none_of_refusal? h)
      have hlength : (b.withShortName value).table.versions.length
          = b.table.versions.length := List.length_map _
      refine Prod.ext (eq_of_parts htable rfl rfl ?_) rfl
      show (if r.isDefault then some (b.withShortName value).table.versions.length
        else b.default?) = _
      rw [hlength]
      rfl

/-! ## Scripts -/

theorem register_run {settings : List (Call η)} (hs : ∀ c ∈ settings, c.isRegistration = false)
    (b : Builder η) (r : Registration η) :
    (b.run settings).register r = ((b.register r).1.run settings, (b.register r).2) := by
  induction settings generalizing b with
  | nil => rfl
  | cons c settings ih =>
    obtain ⟨hc, hsettings⟩ := List.forall_mem_cons.1 hs
    rw [run_cons, ih hsettings, register_after hc, run_cons]

theorem isRegistration_of_mem_settings (cs : List (Call η)) :
    ∀ c ∈ cs.filter (!·.isRegistration), c.isRegistration = false := by
  intro c hc
  simpa using (List.mem_filter.1 hc).2

/-- The settings behind a registration may be made before it. -/
theorem after_run_settings (b : Builder η) (r : Registration η) (cs : List (Call η)) :
    (b.run (cs.filter (!·.isRegistration))).after (.register r)
      = (b.after (.register r)).run (cs.filter (!·.isRegistration)) :=
  congrArg Prod.fst (register_run (isRegistration_of_mem_settings cs) b r)

theorem settingsFirst_cons_of_setting {c : Call η} (hc : c.isRegistration = false)
    (cs : List (Call η)) : settingsFirst (c :: cs) = c :: settingsFirst cs := by
  simp [settingsFirst, hc]

theorem settingsFirst_cons_register (r : Registration η) (cs : List (Call η)) :
    settingsFirst (.register r :: cs)
      = cs.filter (!·.isRegistration) ++ .register r :: cs.filter (·.isRegistration) := by
  simp [settingsFirst, Call.isRegistration]

/-- Making the settings first leaves the same builder. -/
theorem run_settingsFirst (b : Builder η) (script : List (Call η)) :
    b.run (settingsFirst script) = b.run script := by
  induction script generalizing b with
  | nil => rfl
  | cons c cs ih =>
    cases hc : c.isRegistration with
    | false => rw [settingsFirst_cons_of_setting hc, run_cons, run_cons, ih]
    | true =>
      cases c with
      | shortName | extensions | strategy => cases hc
      | register r =>
        -- the settings that follow move to the front, past this one registration
        have hrest := ih (b.after (.register r))
        rw [settingsFirst, run_append] at hrest
        rw [settingsFirst_cons_register, run_append, run_cons, run_cons, after_run_settings, hrest]

/-- Making the settings first changes no verdict. -/
theorem verdicts_settingsFirst (b : Builder η) (script : List (Call η)) :
    b.verdicts (settingsFirst script) = b.verdicts script := by
  induction script generalizing b with
  | nil => rfl
  | cons c cs ih =>
    cases hc : c.isRegistration with
    | false =>
      rw [settingsFirst_cons_of_setting hc, verdicts_setting hc, verdicts_setting hc, ih]
    | true =>
      cases c with
      | shortName | extensions | strategy => cases hc
      | register r =>
        have hrest := ih (b.after (.register r))
        have hsettings := isRegistration_of_mem_settings cs
        have hverdict : ((b.run (cs.filter (!·.isRegistration))).register r).2
            = (b.register r).2 := by
          rw [register_run hsettings]
        rw [settingsFirst, verdicts_settings_append hsettings] at hrest
        rw [settingsFirst_cons_register, verdicts_settings_append hsettings, verdicts_register,
          verdicts_register, hverdict, after_run_settings, hrest]

/-! ## Names -/

/-- A call changes the names of the language only by setting the short name. -/
theorem language_after (b : Builder η) (c : Call η) :
    (b.after c).table.language
      = { b.table.language with
          shortName? := c.shortName?.or b.table.language.shortName? } := by
  cases c with
  | shortName | extensions | strategy => rfl
  | register r =>
    show (b.register r).1.table.language = _
    cases h : b.refusal? r with
    | some fault =>
      rw [register_of_refusal? h]
      rfl
    | none =>
      rw [register_of_free h]
      rfl

theorem lastShortName?_cons (c : Call η) (cs : List (Call η)) :
    lastShortName? (c :: cs) = (lastShortName? cs).or c.shortName? := by
  rw [lastShortName?, lastShortName?, List.filterMap_cons]
  cases c.shortName? with
  | none => rw [Option.or_none]
  | some value =>
    rw [List.getLast?_cons]
    cases (cs.filterMap Call.shortName?).getLast? <;> rfl

/-- The short name that is set last counts, and the other names stay. -/
theorem language_run (b : Builder η) (script : List (Call η)) :
    (b.run script).table.language
      = { b.table.language with
          shortName? := (lastShortName? script).or b.table.language.shortName? } := by
  induction script generalizing b with
  | nil => rfl
  | cons c cs ih => rw [run_cons, ih, language_after, lastShortName?_cons, Option.or_assoc]

/-- A registered version keeps its place and all but the names of its language, which are those
of the table. -/
theorem getElem?_versions_after {b : Builder η} {i : Nat} {v : Version η}
    (h : b.table.versions[i]? = some v) (c : Call η) :
    (b.after c).table.versions[i]? = some { v with language := (b.after c).table.language } := by
  have hsame : { v with language := b.table.language } = v := by
    rw [← b.table.language_eq v (List.mem_of_getElem? h)]
  cases c with
  | shortName value =>
    show (b.table.versions.map _)[i]? = _
    rw [List.getElem?_map, h]
    rfl
  | extensions | strategy => exact h.trans (congrArg some hsame.symm)
  | register r =>
    show (b.register r).1.table.versions[i]? = some { v with
      language := (b.register r).1.table.language }
    cases hr : b.refusal? r with
    | some fault =>
      rw [register_of_refusal? hr]
      exact h.trans (congrArg some hsame.symm)
    | none =>
      have hlt : i < b.table.versions.length := (List.getElem?_eq_some_iff.1 h).1
      rw [register_of_free hr]
      show (b.table.versions ++ [_])[i]? = _
      rw [List.getElem?_append_left hlt, h]
      exact congrArg some hsame.symm

theorem getElem?_versions_run {b : Builder η} {i : Nat} {v : Version η}
    (h : b.table.versions[i]? = some v) (script : List (Call η)) :
    (b.run script).table.versions[i]?
      = some { v with language := (b.run script).table.language } := by
  induction script generalizing b v with
  | nil =>
    have hsame : { v with language := b.table.language } = v := by
      rw [← b.table.language_eq v (List.mem_of_getElem? h)]
    exact h.trans (congrArg some hsame.symm)
  | cons c cs ih =>
    -- the names given by the first call are replaced by those given in the end
    have hrest := ih (getElem?_versions_after h c)
    exact hrest

/-! ## Scripts from the start -/

/-- The settings of a script may be made before its registrations: every registration goes as it
went, and the builder is the same, so it gives the same module or the same error. In a finished
module every version has the names of the language, with the short name that was set last, and
a version that was there behind any front of the script is there as it was but for these
names. -/
theorem settings_commute (name terseName : String) (script : List (Call η)) :
    let b := (new name terseName : Builder η)
    b.verdicts (settingsFirst script) = b.verdicts script ∧
      b.run (settingsFirst script) = b.run script ∧
      (b.run (settingsFirst script)).build = (b.run script).build ∧
      ∀ m, (b.run script).build = .ok m →
        m.identity = ⟨name, lastShortName? script, terseName⟩ ∧
        (∀ v ∈ m.versions, v.language = m.identity ∧ v.name = qualify name v.id ∧
          v.shortName = qualify ((lastShortName? script).getD name) v.id ∧
          v.terseName = qualify terseName v.id) ∧
        ∀ front back, script = front ++ back → ∀ (i : Nat) (v : Version η),
          (b.run front).table.versions[i]? = some v →
          m.versions[i]? = some { v with language := m.identity } := by
  intro b
  refine ⟨b.verdicts_settingsFirst script, b.run_settingsFirst script, ?_, fun m hm => ?_⟩
  · rw [run_settingsFirst]
  · have htable : m.table = (b.run script).table := (build_eq_ok.1 hm).1
    have hidentity : m.identity = ⟨name, lastShortName? script, terseName⟩ := by
      rw [LanguageModule.identity, htable, language_run]
      show Identity.mk name ((lastShortName? script).or none) terseName = _
      rw [Option.or_none]
    refine ⟨hidentity, fun v hv => ?_, ?_⟩
    · have hlanguage : v.language = m.identity := m.table.language_eq v hv
      rw [Version.name, Version.shortName, Version.terseName, hlanguage, hidentity]
      exact ⟨rfl, rfl, rfl, rfl⟩
    · rintro front back rfl i v hv
      rw [LanguageModule.versions, LanguageModule.identity, htable, run_append]
      exact getElem?_versions_run hv back

end Builder

end Polyglot
