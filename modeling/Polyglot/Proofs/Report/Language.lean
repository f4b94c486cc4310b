import Polyglot.Proofs.Catalog.Lookup
import Polyglot.Proofs.Language.Extension
import Polyglot.Proofs.Language.Keys
import Polyglot.Report.Page

/-!
# Reports say what the catalog says

A report is made from a finished module: the aliases are searched in the key table, the
default is found by comparing versions, and the description comes from the handler. Each of
them gives back what stands in the entry of the catalog.

- `LanguageEntry.report`, `LanguageEntry.table`: report and page, read off the entry.
- `LanguageEntry.map_versions_of_build`: what is read off the versions of the module, one by
  one, can be read off those of the entry.
- `Catalog.report_buildRegistry`: the reports of a registry are those of its catalog.
-/

namespace Polyglot

/-! ## What the catalog says -/

/-- The report on a version of a language of this name. -/
def VersionEntry.report (language : String) (v : VersionEntry) : VersionReport where
  version := v.version
  name := qualify language v.version
  aliases := Text.sortOn id v.aliases
  isDefault := v.isDefault
  description? := v.description?

/-- The id of the first version that is marked as default. -/
def LanguageEntry.defaultId (e : LanguageEntry) : String :=
  ((e.versions.find? (·.isDefault)).map (·.version)).getD ""

def LanguageEntry.report (e : LanguageEntry) : LanguageReport where
  name := e.name
  shortName := e.shortName?.getD e.name
  terseName := e.terseName
  extensions := ((e.extensions.map Extension.bare).filter (!·.isEmpty)).eraseDups
  strategy := e.strategy.text
  defaultVersion := e.defaultId
  versions := e.versions.map (VersionEntry.report e.name)

/-- The reports on all languages, in the order of the bytes of their names. -/
def Catalog.report (c : Catalog) : List LanguageReport :=
  Text.sortOn (·.name) (c.languages.map LanguageEntry.report)

/-- The line of a version, with a star in front of a version that is marked as default. -/
def VersionEntry.row (color : Bool) (v : VersionEntry) : String :=
  let mark := if v.isDefault then Style.boldGreen.paint color "*" else Style.plain.paint color " "
  let shownId := if v.version.isEmpty then "(unversioned)" else v.version
  let aliasText :=
    if v.aliases.isEmpty then ""
    else "aliases: " ++ ", ".intercalate (Text.sortOn id v.aliases)
  "  " ++ mark ++ " " ++ padRight 14 shownId ++ " " ++ Style.dimmed.paint color aliasText
    ++ (match v.description? with
      | some d => "  " ++ d
      | none => "")
    ++ "\n"

/-- The page of a language. -/
def LanguageEntry.table (color : Bool) (e : LanguageEntry) : String :=
  Style.bold.paint color e.name ++ " (" ++ e.terseName ++ "), dispatch: " ++ e.strategy.text
    ++ "\n\n" ++ String.join (e.versions.map (VersionEntry.row color))

/-! ## Modules of entries -/

namespace LanguageEntry

section

variable {e : LanguageEntry} {m : LanguageModule VersionNote}
  (h : (e.build Catalog.note).result = .ok m)
include h

theorem wellFormed_of_build : e.WellFormed := (e.exists_build_eq_ok Catalog.note).1 ⟨m, h⟩

/-- What can be told of a version and of its entry alike can be told of all of them. -/
theorem map_versions_of_build {β : Type} {f : Version VersionNote → β} {g : VersionEntry → β}
    (hfg : ∀ i v, e.versions[i]? = some v → f (e.versionAt i v) = g v) :
    m.versions.map f = e.versions.map g := by
  refine List.ext_getElem? fun i => ?_
  rw [List.getElem?_map, List.getElem?_map, getElem?_versions_of_build h]
  cases hv : e.versions[i]? with
  | none => rfl
  | some v => exact congrArg some (hfg i v hv)

/-- The version that stands at a place of the module, as its registration tells it. -/
theorem versionAt_eq (i : Nat) (v : VersionEntry) :
    e.versionAt i v = ⟨m.identity, v.version, i, Catalog.note e v⟩ := by
  rw [identity_of_build Catalog.note e h]
  rfl

section

variable {i : Nat} {v : VersionEntry} (hv : e.versions[i]? = some v)
include hv

/-- The aliases that the key table gives are those of the entry, sorted. -/
theorem aliasesOf_versionAt : m.aliasesOf (e.versionAt i v) = Text.sortOn id v.aliases := by
  have hkeys := (List.nodup_flatMap.1 (wellFormed_of_build h).keys_nodup).1 v
    (List.mem_of_getElem? hv)
  rw [versionAt_eq h]
  exact (isRecordOf_build Catalog.note e h).aliasesOf_eq_sortOn (getElem?_registrations hv) hkeys

theorem isDefault_versionAt : m.isDefault (e.versionAt i v) = v.isDefault := by
  rw [versionAt_eq h]
  exact (isRecordOf_build Catalog.note e h).isDefault_iff (getElem?_registrations hv)

theorem report_versionAt :
    VersionReport.ofVersion m (e.versionAt i v) = v.report e.name := by
  rw [VersionReport.ofVersion, aliasesOf_versionAt h hv, isDefault_versionAt h hv]
  rfl

theorem row_versionAt (color : Bool) :
    Page.versionRow color m (e.versionAt i v) = v.row color := by
  have hnone : (Text.sortOn id v.aliases).isEmpty = v.aliases.isEmpty :=
    (Text.sortOn_perm id v.aliases).isEmpty_eq
  rw [Page.versionRow, Page.marker, isDefault_versionAt h hv, aliasesOf_versionAt h hv, hnone]
  rfl

end

/-- The default version of the module is the one that is marked in the entry. -/
theorem id_defaultVersion_of_build : m.defaultVersion.id = e.defaultId := by
  obtain ⟨i, v, hv, hmark, hdefault, hunique⟩ := (tells_of_build h).default
  rw [hdefault, defaultId]
  cases hfind : e.versions.find? (·.isDefault) with
  | none => exact absurd hmark (List.find?_eq_none.1 hfind v (List.mem_of_getElem? hv))
  | some w =>
    -- no other version than the one at this place has the mark
    have hmark' : w.isDefault = true := by simpa using List.find?_some hfind
    obtain ⟨j, hw⟩ := List.getElem?_of_mem (List.mem_of_find?_eq_some hfind)
    obtain rfl : j = i := hunique j w hw hmark'
    obtain rfl : v = w := Option.some.inj (hv.symm.trans hw)
    rfl

/-- The report on the module of an entry says what the entry says. -/
theorem report_of_build : LanguageReport.ofModule m = e.report := by
  have hidentity := identity_of_build Catalog.note e h
  obtain ⟨hextensions, hstrategy⟩ := settings_of_build Catalog.note e h
  have hversions : m.versions.map (VersionReport.ofVersion m)
      = e.versions.map (VersionEntry.report e.name) :=
    map_versions_of_build h fun _ _ hv => report_versionAt h hv
  rw [LanguageReport.ofModule, LanguageModule.name, LanguageModule.shortName,
    LanguageModule.terseName, hidentity, hextensions, Extension.addAll_nil_left, hstrategy,
    id_defaultVersion_of_build h, hversions]
  rfl

theorem table_of_build (color : Bool) : Page.language .pretty color m = e.table color := by
  have hrows : m.versions.map (Page.versionRow color m)
      = e.versions.map (VersionEntry.row color) :=
    map_versions_of_build h fun _ _ hv => row_versionAt h hv color
  show Page.versionTable color m = e.table color
  rw [Page.versionTable, LanguageModule.name, LanguageModule.terseName,
    identity_of_build Catalog.note e h, (settings_of_build Catalog.note e h).2, hrows]
  rfl

end

end LanguageEntry

/-! ## Registries of catalogs -/

namespace Catalog

section

variable {c : Catalog} {r : Registry VersionNote}

theorem ofRegistry_buildRegistry (h : c.buildRegistry.value = .ok r) :
    LanguageReport.ofRegistry r = c.report := by
  have hmodules := mem_modules_buildRegistryWith note h
  obtain ⟨hwellFormed, hnames⟩ := (exists_buildRegistryWith_eq_ok note).1 ⟨r, h⟩
  have hascending : (LanguageReport.ofRegistry r).Pairwise fun k l => k.name < l.name :=
    List.pairwise_map.2 r.ascending
  refine Text.eq_sortOn_of_perm ?_ hascending
  -- both lists are without repetition, so only the reports in them count
  have hreports : ((c.languages.map LanguageEntry.report).map (·.name)).Nodup := by
    rw [List.map_map]
    exact hnames
  rw [List.perm_ext_iff_of_nodup (hascending.imp fun hlt heq => ?_) (List.Nodup.of_map _ hreports)]
  · intro l
    rw [LanguageReport.ofRegistry, List.mem_map, List.mem_map]
    constructor
    · rintro ⟨m, hm, rfl⟩
      obtain ⟨e, he, hbuild⟩ := (hmodules m).1 hm
      exact ⟨e, he, (LanguageEntry.report_of_build hbuild).symm⟩
    · rintro ⟨e, he, rfl⟩
      obtain ⟨m, hbuild⟩ := (e.exists_build_eq_ok note).2 (hwellFormed e he)
      exact ⟨m, (hmodules m).2 ⟨e, he, hbuild⟩, LanguageEntry.report_of_build hbuild⟩
  · exact String.lt_irrefl _ (heq ▸ hlt)

/-- The reports of a registry are those that its catalog gives, one for each entry, in the order
of the bytes of the names. In each entry one version is marked as default, and the page of the
language has its star in front of this one. -/
theorem report_buildRegistry (h : c.buildRegistry.value = .ok r) :
    LanguageReport.ofRegistry r = c.report ∧
      (c.report.Pairwise fun k l => Text.bytes k.name < Text.bytes l.name) ∧
      ∀ e ∈ c.languages, e.versions.countP (·.isDefault) = 1 ∧
        ∃ m, r.get? e.name = some m ∧ LanguageReport.ofModule m = e.report ∧
          ∀ color, Page.language .pretty color m = e.table color := by
  have hreport := ofRegistry_buildRegistry h
  refine ⟨hreport, ?_, fun e he => ?_⟩
  · rw [← hreport]
    exact List.pairwise_map.2 r.bytes_ascending
  · have hwellFormed := ((exists_buildRegistryWith_eq_ok note).1 ⟨r, h⟩).1 e he
    obtain ⟨m, hbuild⟩ := (e.exists_build_eq_ok note).2 hwellFormed
    have hm := (mem_modules_buildRegistryWith note h m).2 ⟨e, he, hbuild⟩
    refine ⟨hwellFormed.one_default, m, ?_, LanguageEntry.report_of_build hbuild,
      LanguageEntry.table_of_build hbuild⟩
    exact Registry.get?_eq_some.2 ⟨hm, LanguageEntry.name_of_build note e hbuild⟩

end

/-- Two languages, with version ids and aliases that look alike or are empty. -/
def lookalikes : Catalog where
  languages := [
    { name := "b"
      terseName := "x"
      extensions := [".b", "", "b", "."]
      versions := [
        { version := "1", aliases := ["1.0", "01"] },
        { version := "", aliases := ["1 ", "+"], isDefault := true, description? := some "new" }] },
    { name := "B"
      shortName? := some "bee"
      terseName := "x"
      strategy := .kindIndexed
      versions := [{ version := "1", aliases := [""], isDefault := true }] }]

/-- Every version has its own aliases and description, and the star stands in front of the
default one. -/
theorem report_buildRegistry_lookalikes :
    ∃ r, lookalikes.buildRegistry.value = .ok r ∧
      (LanguageReport.ofRegistry r).map (·.name) = ["B", "b"] ∧
      ∃ m, r.get? "b" = some m ∧
        LanguageReport.ofModule m =
          { name := "b", shortName := "b", terseName := "x", extensions := ["b"],
            strategy := "baseline", defaultVersion := "",
            versions := [
              { version := "1", name := "b 1", aliases := ["01", "1.0"], isDefault := false },
              { version := "", name := "b", aliases := ["+", "1 "], isDefault := true,
                description? := some "new" }] } ∧
        Page.language .pretty false m =
          "b (x), dispatch: baseline\n\n    1              aliases: 01, 1.0\n"
            ++ "  * (unversioned)  aliases: +, 1   new\n" := by
  have hok : lookalikes.buildRegistry.value.isOk = true := by decide
  have haliases : Text.sortOn id ["1.0", "01"] = ["01", "1.0"] :=
    (Text.eq_sortOn_of_perm (.swap _ _ _) (by decide)).symm
  have haliases' : Text.sortOn id ["1 ", "+"] = ["+", "1 "] :=
    (Text.eq_sortOn_of_perm (.swap _ _ _) (by decide)).symm
  have hnames : lookalikes.report
      = [lookalikes.languages[1].report, lookalikes.languages[0].report] :=
    (Text.eq_sortOn_of_perm (.swap _ _ _) (by decide)).symm
  obtain ⟨r, h⟩ := exists_eq_ok_of_isOk hok
  obtain ⟨hreport, -, hentries⟩ := report_buildRegistry h
  obtain ⟨-, m, hm, hmodule, htable⟩ := hentries lookalikes.languages[0] (List.getElem_mem _)
  refine ⟨r, h, ?_, m, hm, ?_, ?_⟩
  · rw [hreport, hnames]
    rfl
  · rw [hmodule]
    simp only [LanguageEntry.report, lookalikes, List.getElem_cons_zero, List.map_cons,
      List.map_nil, VersionEntry.report, haliases, haliases']
    decide
  · rw [htable]
    simp only [LanguageEntry.table, lookalikes, List.getElem_cons_zero, List.map_cons,
      List.map_nil, VersionEntry.row, haliases, haliases']
    decide

end Catalog

end Polyglot
