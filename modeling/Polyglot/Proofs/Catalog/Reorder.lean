import Polyglot.Proofs.Catalog.Build
import Polyglot.Proofs.Language.Alike
import Polyglot.Report.Language

/-!
# Catalogs in another order

The languages of a catalog may stand in any order, and so may the aliases of a version; the
versions of a language may not, as their places are their ordinals. Registrations are
refused one by one, each by what stands before it, but whether any of them is refused
depends on which keys there are (`LanguageEntry.Reordered.wellFormed_iff`), and a finished
module on which keys lead where (`LanguageEntry.Reordered.alike_of_build`).

- `Catalog.Reordered`: catalogs that differ in such an order only.
- `Catalog.buildRegistry_reordered`: both give a registry or neither does, and the two
  registries answer alike.
-/

namespace Polyglot

/-! ## Versions -/

/-- The version entries are the same but for the order of the aliases. -/
structure VersionEntry.Reordered (v w : VersionEntry) : Prop where
  version : v.version = w.version
  aliases : v.aliases.Perm w.aliases
  isDefault : v.isDefault = w.isDefault
  description? : v.description? = w.description?

namespace VersionEntry.Reordered

variable {v w : VersionEntry}

theorem keys_perm (h : v.Reordered w) : v.keys.Perm w.keys := by
  rw [keys, keys, h.version]
  exact h.aliases.cons _

/-- The keys of all versions together are the same keys. -/
theorem flatMap_keys_perm {vs ws : List VersionEntry} (h : List.Forall₂ Reordered vs ws) :
    (vs.flatMap keys).Perm (ws.flatMap keys) := by
  induction h with
  | nil => exact .nil
  | cons hvw _ ih =>
    rw [List.flatMap_cons, List.flatMap_cons]
    exact hvw.keys_perm.append ih

theorem countP_isDefault {vs ws : List VersionEntry} (h : List.Forall₂ Reordered vs ws) :
    vs.countP (·.isDefault) = ws.countP (·.isDefault) := by
  induction h with
  | nil => rfl
  | cons hvw _ ih => rw [List.countP_cons, List.countP_cons, ih, hvw.isDefault]

end VersionEntry.Reordered

/-! ## Languages -/

/-- The entries are the same but for the order of the aliases of each version. -/
structure LanguageEntry.Reordered (e f : LanguageEntry) : Prop where
  name : e.name = f.name
  shortName? : e.shortName? = f.shortName?
  terseName : e.terseName = f.terseName
  extensions : e.extensions = f.extensions
  strategy : e.strategy = f.strategy
  versions : List.Forall₂ VersionEntry.Reordered e.versions f.versions

namespace LanguageEntry.Reordered

variable {e f : LanguageEntry} (h : e.Reordered f)
include h

theorem wellFormed_iff : e.WellFormed ↔ f.WellFormed := by
  have hkeys := (VersionEntry.Reordered.flatMap_keys_perm h.versions).nodup_iff
  have hcount := VersionEntry.Reordered.countP_isDefault h.versions
  constructor
  · intro he
    exact ⟨hkeys.1 he.keys_nodup, hcount ▸ he.one_default⟩
  · intro hf
    exact ⟨hkeys.2 hf.keys_nodup, hcount ▸ hf.one_default⟩

theorem identity_eq : e.identity = f.identity := by
  rw [identity, identity, h.name, h.shortName?, h.terseName]

theorem registrations_alike : List.Forall₂ Registration.Alike
    (e.registrations Catalog.note) (f.registrations Catalog.note) := by
  rw [registrations, registrations, List.forall₂_map_left_iff, List.forall₂_map_right_iff]
  refine h.versions.imp fun v w hvw => ?_
  exact {
    id := hvw.version
    handler := congrArg VersionNote.mk hvw.description?
    isDefault := hvw.isDefault
    keys := fun key => hvw.keys_perm.mem_iff }

/-- The modules of reordered entries answer alike. -/
theorem alike_of_build {m n : LanguageModule VersionNote}
    (hm : (e.build Catalog.note).result = .ok m) (hn : (f.build Catalog.note).result = .ok n) :
    m.Alike n := by
  obtain ⟨hextensions, hstrategy⟩ := settings_of_build Catalog.note e hm
  obtain ⟨hextensions', hstrategy'⟩ := settings_of_build Catalog.note f hn
  refine (isRecordOf_build Catalog.note e hm).alike (isRecordOf_build Catalog.note f hn)
    h.registrations_alike ?_ ?_ ?_
  · rw [identity_of_build Catalog.note e hm, identity_of_build Catalog.note f hn, h.identity_eq]
  · rw [hextensions, hextensions', h.extensions]
  · rw [hstrategy, hstrategy', h.strategy]

end LanguageEntry.Reordered

/-! ## Reports -/

theorem LanguageModule.Alike.report_eq {m n : LanguageModule VersionNote} (h : m.Alike n) :
    LanguageReport.ofModule m = LanguageReport.ofModule n := by
  have hversion : VersionReport.ofVersion m = VersionReport.ofVersion n := by
    funext v
    rw [VersionReport.ofVersion, VersionReport.ofVersion, h.aliasesOf, LanguageModule.isDefault,
      LanguageModule.isDefault, h.defaultVersion]
  rw [LanguageReport.ofModule, LanguageReport.ofModule, h.name, LanguageModule.shortName,
    LanguageModule.shortName, h.identity, h.terseName, h.extensions, h.strategy,
    h.defaultVersion, h.versions, hversion]

theorem Registry.AnswersAlike.report_eq {r s : Registry VersionNote} (h : r.AnswersAlike s) :
    LanguageReport.ofRegistry r = LanguageReport.ofRegistry s := by
  rw [LanguageReport.ofRegistry, LanguageReport.ofRegistry]
  exact map_eq_map_of_forall₂ (fun _ _ => LanguageModule.Alike.report_eq) h.modules

/-! ## Catalogs -/

namespace Catalog

/-- The catalogs are the same but for the order of the languages and of the aliases of each
version. -/
def Reordered (c d : Catalog) : Prop :=
  ∃ es, es.Perm c.languages ∧ List.Forall₂ LanguageEntry.Reordered es d.languages

section

variable {c d : Catalog}

/-- Every entry of each catalog has a partner in the other. -/
theorem Reordered.partners (h : c.Reordered d) :
    (∀ e ∈ c.languages, ∃ f ∈ d.languages, e.Reordered f) ∧
      ∀ f ∈ d.languages, ∃ e ∈ c.languages, e.Reordered f := by
  obtain ⟨es, hperm, hes⟩ := h
  constructor
  · intro e he
    exact exists_of_mem_left hes e (hperm.mem_iff.2 he)
  · intro f hf
    obtain ⟨e, he, hef⟩ := exists_of_mem_left hes.flip f hf
    exact ⟨e, hperm.mem_iff.1 he, hef⟩

theorem Reordered.names_perm (h : c.Reordered d) :
    (c.languages.map (·.name)).Perm (d.languages.map (·.name)) := by
  obtain ⟨es, hperm, hes⟩ := h
  have hnames : es.map (·.name) = d.languages.map (·.name) :=
    map_eq_map_of_forall₂ (fun _ _ => LanguageEntry.Reordered.name) hes
  rw [← hnames]
  exact (hperm.map _).symm

theorem Reordered.exists_buildRegistry_iff (h : c.Reordered d) :
    (∃ r, c.buildRegistry.value = .ok r) ↔ ∃ s, d.buildRegistry.value = .ok s := by
  obtain ⟨left, right⟩ := h.partners
  rw [buildRegistry, buildRegistry, exists_buildRegistryWith_eq_ok,
    exists_buildRegistryWith_eq_ok, h.names_perm.nodup_iff]
  refine and_congr_left fun _ => ⟨fun hall f hf => ?_, fun hall e he => ?_⟩
  · obtain ⟨e, he, hef⟩ := right f hf
    exact hef.wellFormed_iff.1 (hall e he)
  · obtain ⟨f, hf, hef⟩ := left e he
    exact hef.wellFormed_iff.2 (hall f hf)

/-- The order of the languages, and of the aliases of a version, does not matter: both catalogs
give a registry or neither does, and the registries answer every query alike and have the same
reports. -/
theorem buildRegistry_reordered (h : c.Reordered d) :
    ((∃ r, c.buildRegistry.value = .ok r) ↔ ∃ s, d.buildRegistry.value = .ok s) ∧
      ∀ r s, c.buildRegistry.value = .ok r → d.buildRegistry.value = .ok s →
        r.AnswersAlike s ∧ LanguageReport.ofRegistry r = LanguageReport.ofRegistry s := by
  refine ⟨h.exists_buildRegistry_iff, fun r s hr hs => ?_⟩
  have hmodules := mem_modules_buildRegistryWith note hr
  have hmodules' := mem_modules_buildRegistryWith note hs
  obtain ⟨left, right⟩ := h.partners
  have halike : r.AnswersAlike s := by
    refine Registry.answersAlike_of_partners (fun m hm => ?_) fun n hn => ?_
    · obtain ⟨e, he, hbuild⟩ := (hmodules m).1 hm
      obtain ⟨f, hf, hef⟩ := left e he
      -- the partner is well formed as the entry is, and so it has a module as well
      have hwellFormed := (e.exists_build_eq_ok note).1 ⟨m, hbuild⟩
      obtain ⟨n, hn⟩ := (f.exists_build_eq_ok note).2 (hef.wellFormed_iff.1 hwellFormed)
      exact ⟨n, (hmodules' n).2 ⟨f, hf, hn⟩, hef.alike_of_build hbuild hn⟩
    · obtain ⟨f, hf, hbuild⟩ := (hmodules' n).1 hn
      obtain ⟨e, he, hef⟩ := right f hf
      have hwellFormed := (f.exists_build_eq_ok note).1 ⟨n, hbuild⟩
      obtain ⟨m, hm⟩ := (e.exists_build_eq_ok note).2 (hef.wellFormed_iff.2 hwellFormed)
      exact ⟨m, (hmodules m).2 ⟨e, he, hm⟩, hef.alike_of_build hm hbuild⟩
  exact ⟨halike, halike.report_eq⟩

end

/-- Two languages with one terse name and one extension. -/
def siblings : Catalog where
  languages := [
    { name := "Objective-C"
      terseName := "objc"
      extensions := ["m", ".mm"]
      versions := [{ version := "2.0", aliases := ["modern", "2"], isDefault := true }] },
    { name := "Matlab"
      terseName := "objc"
      extensions := [".m"]
      versions := [
        { version := "", aliases := ["R2024a", "latest"] },
        { version := "R2016a", isDefault := true }] }]

/-- The same languages the other way round, each with its aliases the other way round. -/
def siblingsReversed : Catalog where
  languages := [
    { name := "Matlab"
      terseName := "objc"
      extensions := [".m"]
      versions := [
        { version := "", aliases := ["latest", "R2024a"] },
        { version := "R2016a", isDefault := true }] },
    { name := "Objective-C"
      terseName := "objc"
      extensions := ["m", ".mm"]
      versions := [{ version := "2.0", aliases := ["2", "modern"], isDefault := true }] }]

theorem siblings_reordered : siblings.Reordered siblingsReversed := by
  have hmatlab : siblings.languages[1].Reordered siblingsReversed.languages[0] :=
    { name := rfl, shortName? := rfl, terseName := rfl, extensions := rfl, strategy := rfl,
      versions := .cons ⟨rfl, .swap _ _ _, rfl, rfl⟩ (.cons ⟨rfl, .nil, rfl, rfl⟩ .nil) }
  have hobjc : siblings.languages[0].Reordered siblingsReversed.languages[1] :=
    { name := rfl, shortName? := rfl, terseName := rfl, extensions := rfl, strategy := rfl,
      versions := .cons ⟨rfl, .swap _ _ _, rfl, rfl⟩ .nil }
  exact ⟨siblings.languages.reverse, .swap _ _ _, .cons hmatlab (.cons hobjc .nil)⟩

/-- Where a terse name or an extension fits both, the order of the catalog does not decide. -/
theorem buildRegistry_reordered_siblings :
    ∃ r s, siblings.buildRegistry.value = .ok r ∧ siblingsReversed.buildRegistry.value = .ok s ∧
      r.AnswersAlike s ∧ LanguageReport.ofRegistry r = LanguageReport.ofRegistry s := by
  have hok : siblings.buildRegistry.value.isOk = true := by decide
  obtain ⟨r, hr⟩ := exists_eq_ok_of_isOk hok
  obtain ⟨hbuilt, halike⟩ := buildRegistry_reordered siblings_reordered
  obtain ⟨s, hs⟩ := hbuilt.1 ⟨r, hr⟩
  exact ⟨r, s, hr, hs, halike r s hr hs⟩

end Catalog

end Polyglot
