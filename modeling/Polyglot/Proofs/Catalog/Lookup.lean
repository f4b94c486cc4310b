import Polyglot.Proofs.Catalog.Build
import Polyglot.Proofs.Language.Query

/-!
# Lookup in the registry of a catalog

Between a catalog and the answer to a query stand the builder of each entry, the finished
modules, and the registry that sorts them. All of them together give what the catalog says
itself.

- `Catalog.Finds`: the entry that a query means.
- `LanguageEntry.Tells`: a module answers with the versions of an entry.
- `lookup_buildRegistry`: the module that a query finds tells of the entry that it means.
-/

namespace Polyglot

/-! ## Entries and modules -/

namespace LanguageEntry

/-- The version that stands at a place of the entry. -/
def versionAt (e : LanguageEntry) (i : Nat) (v : VersionEntry) : Version VersionNote :=
  ⟨e.identity, v.version, i, ⟨v.description?⟩⟩

/-- The module answers with the versions of the entry. -/
structure Tells (e : LanguageEntry) (m : LanguageModule VersionNote) : Prop where
  identity : m.identity = e.identity
  hasVersion : ∀ key, (∃ w, m.get? key = some w) ↔ ∃ v ∈ e.versions, key ∈ v.keys
  version : ∀ (key : String) (i : Nat) (v : VersionEntry), e.versions[i]? = some v →
    key ∈ v.keys → m.get? key = some (e.versionAt i v)
  /-- A key belongs to one version of the entry. -/
  unique : ∀ (key : String) (i j : Nat) (v w : VersionEntry), e.versions[i]? = some v →
    e.versions[j]? = some w → key ∈ v.keys → key ∈ w.keys → i = j
  /-- One version of the entry is marked as default. -/
  default : ∃ i v, e.versions[i]? = some v ∧ v.isDefault = true ∧
    m.defaultVersion = e.versionAt i v ∧
    ∀ j w, e.versions[j]? = some w → w.isDefault = true → j = i

theorem getElem?_registrations {e : LanguageEntry} {i : Nat} {v : VersionEntry}
    (h : e.versions[i]? = some v) :
    (e.registrations Catalog.note)[i]? = some (e.registration Catalog.note v) := by
  rw [registrations, List.getElem?_map, h, Option.map_some]

/-- The versions of the module of an entry, place by place. -/
theorem getElem?_versions_of_build {e : LanguageEntry} {m : LanguageModule VersionNote}
    (h : (e.build Catalog.note).result = .ok m) (i : Nat) :
    m.versions[i]? = (e.versions[i]?).map (e.versionAt i) := by
  rw [(isRecordOf_build Catalog.note e h).versions, List.getElem?_mapIdx, registrations,
    List.getElem?_map, Option.map_map, identity_of_build Catalog.note e h]
  rfl

/-- The module of an entry tells what the entry says. -/
theorem tells_of_build {e : LanguageEntry} {m : LanguageModule VersionNote}
    (h : (e.build Catalog.note).result = .ok m) : e.Tells m := by
  have hrecord := isRecordOf_build Catalog.note e h
  have hidentity := identity_of_build Catalog.note e h
  have hversions := getElem?_versions_of_build h
  have hversion : ∀ key i v, e.versions[i]? = some v → key ∈ v.keys →
      m.get? key = some (e.versionAt i v) := by
    intro key i v hv hkey
    rw [(hrecord.get?_eq key i _ (getElem?_registrations hv)).2 hkey, hversions, hv,
      Option.map_some]
  refine { identity := hidentity, hasVersion := fun key => ?_, version := hversion, unique := ?_,
           default := ?_ }
  · constructor
    · rintro ⟨w, hw⟩
      by_contra hnone
      have hget : m.get? key = none := by
        rw [hrecord.get?_none, registrations, List.forall_mem_map]
        exact fun v hv hkey => hnone ⟨v, hv, hkey⟩
      rw [hget] at hw
      cases hw
    · rintro ⟨v, hv, hkey⟩
      obtain ⟨i, hi⟩ := List.getElem?_of_mem hv
      exact ⟨_, hversion key i v hi hkey⟩
  · intro key i j v w hv hw hkv hkw
    exact hrecord.unique key i j _ _ (getElem?_registrations hv) (getElem?_registrations hw) hkv hkw
  · have hdefault : m.versions[m.default]? = some m.defaultVersion :=
      List.getElem?_eq_getElem m.default_lt
    rw [hversions] at hdefault
    obtain ⟨v, hv, heq⟩ := Option.map_eq_some_iff.1 hdefault
    refine ⟨m.default, v, hv, ?_, heq.symm, ?_⟩
    · rw [← hversions] at hdefault
      exact (hrecord.default _ _ (getElem?_registrations hv)).1 hdefault
    · intro j w hw hmark
      have hj := (hrecord.default j _ (getElem?_registrations hw)).2 hmark
      rw [hversions, hw, Option.map_some, ← heq] at hj
      -- equal versions stand at equal places
      exact congrArg Version.ordinal (Option.some.inj hj)

end LanguageEntry

/-! ## Catalogs and registries -/

namespace Catalog

/-- The entry that a query means: the one of that name, and where no entry has the name, the one
of least name among those of that terse name. -/
inductive Finds (c : Catalog) (q : String) (e : LanguageEntry) : Prop
  | name (mem : e ∈ c.languages) (name_eq : e.name = q)
  | terseName (mem : e ∈ c.languages) (unnamed : ∀ f ∈ c.languages, f.name ≠ q)
      (terseName_eq : e.terseName = q)
      (least : ∀ f ∈ c.languages, f.terseName = q → Text.bytes e.name ≤ Text.bytes f.name)

/-- The registry holds a module for every entry of the catalog and nothing else. -/
structure Fills (c : Catalog) (r : Registry VersionNote) : Prop where
  distinct : (c.languages.map (·.name)).Nodup
  module_of_entry : ∀ e ∈ c.languages, ∃ m ∈ r.modules, e.Tells m
  entry_of_module : ∀ m ∈ r.modules, ∃ e ∈ c.languages, e.Tells m

theorem fills_buildRegistry {c : Catalog} {r : Registry VersionNote}
    (h : c.buildRegistry.value = .ok r) : c.Fills r := by
  have hmodules := mem_modules_buildRegistryWith note h
  obtain ⟨hwellFormed, distinct⟩ := (exists_buildRegistryWith_eq_ok note).1 ⟨r, h⟩
  refine ⟨distinct, fun e he => ?_, fun m hm => ?_⟩
  · obtain ⟨m, hm⟩ := (e.exists_build_eq_ok note).2 (hwellFormed e he)
    exact ⟨m, (hmodules m).2 ⟨e, he, hm⟩, LanguageEntry.tells_of_build hm⟩
  · obtain ⟨e, he, hm⟩ := (hmodules m).1 hm
    exact ⟨e, he, LanguageEntry.tells_of_build hm⟩

section Fills

variable {c : Catalog} {r : Registry VersionNote} {q : String}

theorem Fills.forall_names (h : c.Fills r) {p : Identity → Prop} :
    (∀ m ∈ r.modules, p m.identity) ↔ ∀ e ∈ c.languages, p e.identity := by
  constructor
  · intro hall e he
    obtain ⟨m, hm, htells⟩ := h.module_of_entry e he
    exact htells.identity ▸ hall m hm
  · intro hall m hm
    obtain ⟨e, he, htells⟩ := h.entry_of_module m hm
    exact htells.identity ▸ hall e he

/-- A query means an entry exactly when it finds the module of it. -/
theorem Fills.finds_iff (h : c.Fills r) {e : LanguageEntry} {m : LanguageModule VersionNote}
    (he : e ∈ c.languages) (hm : m ∈ r.modules) (htells : e.Tells m) :
    c.Finds q e ↔ r.lookup? q = some m := by
  have hname : m.name = e.name := congrArg Identity.name htells.identity
  have hterse : m.terseName = e.terseName := congrArg Identity.terseName htells.identity
  -- what the query compares of the other modules are names, and these are the names of the entries
  have hunnamed : (∀ n ∈ r.modules, n.name ≠ q) ↔ ∀ f ∈ c.languages, f.name ≠ q :=
    h.forall_names (p := fun i => i.name ≠ q)
  have hleast : (∀ n ∈ r.modules, n.terseName = q → Text.bytes m.name ≤ Text.bytes n.name) ↔
      ∀ f ∈ c.languages, f.terseName = q → Text.bytes e.name ≤ Text.bytes f.name := by
    rw [hname]
    exact h.forall_names (p := fun i => i.terseName = q → Text.bytes e.name ≤ Text.bytes i.name)
  rw [Registry.lookup?_eq_some]
  constructor
  · intro hfinds
    cases hfinds with
    | name _ name_eq => exact .inl ⟨hm, hname.trans name_eq⟩
    | terseName _ unnamed terseName_eq least =>
      exact .inr ⟨hunnamed.2 unnamed, hm, hterse.trans terseName_eq, hleast.2 least⟩
  · rintro (⟨-, name_eq⟩ | ⟨unnamed, -, terseName_eq, least⟩)
    · exact .name he (hname.symm.trans name_eq)
    · exact .terseName he (hunnamed.1 unnamed) (hterse.symm.trans terseName_eq) (hleast.1 least)

theorem Finds.mem {e : LanguageEntry} (h : c.Finds q e) : e ∈ c.languages := by
  cases h <;> assumption

/-- A query to the registry of a catalog is a query to the catalog: it finds the module of the
entry that it means, and this module tells what stands in the entry. -/
theorem lookup_buildRegistry (h : c.buildRegistry.value = .ok r) (q : String) :
    (r.lookup? q = none ↔ ∀ e, ¬ c.Finds q e) ∧
      (∀ e f, c.Finds q e → c.Finds q f → e = f) ∧
      ∀ e, c.Finds q e → ∃ m, r.lookup? q = some m ∧ e.Tells m := by
  have hfills := fills_buildRegistry h
  have hfound : ∀ e, c.Finds q e → ∃ m, r.lookup? q = some m ∧ e.Tells m := by
    intro e he
    obtain ⟨m, hm, htells⟩ := hfills.module_of_entry e he.mem
    exact ⟨m, (hfills.finds_iff he.mem hm htells).1 he, htells⟩
  refine ⟨⟨?_, ?_⟩, ?_, hfound⟩
  · intro hnone e he
    obtain ⟨m, hm, -⟩ := hfound e he
    rw [hnone] at hm
    cases hm
  · intro hnone
    by_contra hsome
    obtain ⟨m, hm⟩ := Option.ne_none_iff_exists'.1 hsome
    have hmem : m ∈ r.modules := by
      rcases Registry.lookup?_eq_some.1 hm with ⟨hmem, -⟩ | ⟨-, hleast⟩
      · exact hmem
      · exact hleast.mem
    obtain ⟨e, he, htells⟩ := hfills.entry_of_module m hmem
    exact hnone e ((hfills.finds_iff he hmem htells).2 hm)
  · intro e f he hf
    obtain ⟨m, hm, htells⟩ := hfound e he
    obtain ⟨n, hn, htells'⟩ := hfound f hf
    obtain rfl : m = n := Option.some.inj (hm.symm.trans hn)
    have hname : e.name = f.name :=
      congrArg Identity.name (htells.identity.symm.trans htells'.identity)
    exact List.inj_on_of_nodup_map hfills.distinct he.mem hf.mem hname

/-- Two languages, of which the second has the terse name of the first as its name. -/
def shadowing : Catalog where
  languages := [
    { name := "Scheme"
      terseName := "lisp"
      versions := [{ version := "R7RS", isDefault := true }] },
    { name := "lisp"
      terseName := "cl"
      versions := [
        { version := "1984", aliases := ["CLtL1"] },
        { version := "1994", isDefault := true, description? := some "ANSI" }] }]

/-- The query means the language of that name, and its answers are those of the entry. -/
theorem lookup_buildRegistry_shadowing :
    ∃ r, shadowing.buildRegistry.value = .ok r ∧ ∃ m, r.lookup? "lisp" = some m ∧
      m.get? "CLtL1" = some ⟨⟨"lisp", none, "cl"⟩, "1984", 0, ⟨none⟩⟩ ∧
      m.defaultVersion = ⟨⟨"lisp", none, "cl"⟩, "1994", 1, ⟨some "ANSI"⟩⟩ := by
  have hok : shadowing.buildRegistry.value.isOk = true := by decide
  cases h : shadowing.buildRegistry.value with
  | error fault =>
    rw [h] at hok
    cases hok
  | ok r =>
    have hfinds : shadowing.Finds "lisp" shadowing.languages[1] :=
      .name (List.getElem_mem _) rfl
    obtain ⟨m, hm, htells⟩ := (lookup_buildRegistry h "lisp").2.2 _ hfinds
    obtain ⟨i, v, hv, -, hdefault, hunique⟩ := htells.default
    obtain rfl : 1 = i := hunique 1 _ rfl rfl
    cases hv
    exact ⟨r, rfl, m, hm, htells.version "CLtL1" 0 _ rfl (by decide), hdefault⟩

end Fills

end Catalog

end Polyglot
