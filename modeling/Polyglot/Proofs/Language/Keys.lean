import Mathlib.Data.List.Nodup
import Polyglot.Proofs.Language.Record
import Polyglot.Proofs.Text.ByteOrder

/-!
# The keys of a version

The keys of a version are gathered by searching the key table for it. They are the keys
that lead to it (`mem_keysOf`), ascending and each once (`keysOf_ascending`), and in a
module that records registrations, the aliases so found are those that were given
(`IsRecordOf.aliasesOf_eq_sortOn`).

So from versions to keys and from keys to versions one goes there and back: every key is a
key of one version (`keysOf_disjoint`, `hasKey_iff_mem_keysOf`), and a version has keys when
it is the same as one of the module, also if it is a version of another module
(`keysOf_ne_nil`, `keysOf_inverts_get?`).
-/

namespace Polyglot

universe u

variable {η : Type u}

theorem Version.ordinal_eq_of_beq {v w : Version η} (h : (v == w) = true) :
    v.ordinal = w.ordinal :=
  congrArg (fun rank => rank.2.1) (beq_iff.1 h)

namespace VersionTable

/-- A version that a key leads to stands at its own ordinal. -/
theorem get?_eq_some {t : VersionTable η} {key : String} {w : Version η} :
    t.get? key = some w ↔ (key, w.ordinal) ∈ t.keys ∧ t.versions[w.ordinal]? = some w := by
  rw [get?, Option.bind_eq_some_iff]
  constructor
  · rintro ⟨i, hi, hw⟩
    obtain ⟨hlt, rfl⟩ := List.getElem?_eq_some_iff.1 hw
    rw [t.ordinal_eq i hlt]
    exact ⟨lookup_eq_some.1 hi, hw⟩
  · rintro ⟨hkey, hw⟩
    exact ⟨w.ordinal, lookup_eq_some.2 hkey, hw⟩

/-- The keys of a version, of this or another table, are those that lead to a version that is the
same. -/
theorem mem_keysOf {t : VersionTable η} {v : Version η} {key : String} :
    key ∈ t.keysOf v ↔ ∃ w, t.get? key = some w ∧ (w == v) = true := by
  rw [keysOf, List.mem_mergeSort, List.mem_map]
  constructor
  · rintro ⟨⟨key, i⟩, hmem, rfl⟩
    obtain ⟨hkey, hsame⟩ := List.mem_filter.1 hmem
    rw [Bool.and_eq_true] at hsame
    obtain ⟨w, hw, hwv⟩ := (Option.any_eq_true _ _).1 hsame.2
    obtain ⟨hlt, rfl⟩ := List.getElem?_eq_some_iff.1 hw
    refine ⟨_, get?_eq_some.2 ?_, hwv⟩
    rw [t.ordinal_eq i hlt]
    exact ⟨hkey, hw⟩
  · rintro ⟨w, hw, hwv⟩
    obtain ⟨hkey, hplace⟩ := get?_eq_some.1 hw
    refine ⟨(key, w.ordinal), List.mem_filter.2 ⟨hkey, ?_⟩, rfl⟩
    rw [Bool.and_eq_true]
    exact ⟨beq_iff_eq.2 (Version.ordinal_eq_of_beq hwv),
      (Option.any_eq_true _ _).2 ⟨w, hplace, hwv⟩⟩

theorem keysOf_ascending (t : VersionTable η) (v : Version η) :
    (t.keysOf v).Pairwise (· < ·) := by
  rw [keysOf, Text.mergeSort_eq_sortOn]
  refine Text.sortOn_ascending ?_
  rw [List.map_id']
  exact t.keys_nodup.sublist (List.filter_sublist.map Prod.fst)

theorem aliasesOf_ascending (t : VersionTable η) (v : Version η) :
    (t.aliasesOf v).Pairwise (· < ·) := (t.keysOf_ascending v).filter _

theorem mem_aliasesOf {t : VersionTable η} {v : Version η} {key : String} :
    key ∈ t.aliasesOf v ↔ key ∈ t.keysOf v ∧ key ≠ v.id := by
  rw [aliasesOf, List.mem_filter, bne_iff_ne]

/-- The aliases are the keys but for the id, which is not twice among them. -/
theorem aliasesOf_eq_erase (t : VersionTable η) (v : Version η) :
    t.aliasesOf v = (t.keysOf v).erase v.id := by
  have hdistinct : (t.keysOf v).Nodup := (t.keysOf_ascending v).imp String.ne_of_lt
  rw [hdistinct.erase_eq_filter]
  rfl

/-! ## All versions -/

/-- The id of a version leads to it. -/
theorem get?_id {t : VersionTable η} {v : Version η} (hv : v ∈ t.versions) :
    t.get? v.id = some v := by
  obtain ⟨i, hi, rfl⟩ := List.getElem_of_mem hv
  refine get?_eq_some.2 ⟨t.id_mem_keys _ hv, ?_⟩
  rw [t.ordinal_eq i hi]
  exact List.getElem?_eq_getElem hi

/-- A version has keys when the table has one that is the same. -/
theorem keysOf_ne_nil {t : VersionTable η} {v : Version η} :
    t.keysOf v ≠ [] ↔ ∃ w ∈ t.versions, (w == v) = true := by
  constructor
  · intro h
    obtain ⟨key, hkey⟩ := List.exists_mem_of_ne_nil _ h
    obtain ⟨w, hw, hwv⟩ := mem_keysOf.1 hkey
    exact ⟨w, List.mem_of_getElem? (get?_eq_some.1 hw).2, hwv⟩
  · rintro ⟨w, hw, hwv⟩
    exact List.ne_nil_of_mem (mem_keysOf.2 ⟨w, get?_id hw, hwv⟩)

/-- No key is a key of two versions. -/
theorem keysOf_disjoint (t : VersionTable η) : (t.versions.map t.keysOf).Pairwise List.Disjoint := by
  rw [List.pairwise_map, List.pairwise_iff_getElem]
  intro i j hi hj hij key hkey hkey'
  obtain ⟨v, hv, hvi⟩ := mem_keysOf.1 hkey
  obtain ⟨w, hw, hwj⟩ := mem_keysOf.1 hkey'
  obtain rfl : v = w := Option.some.inj (hv.symm.trans hw)
  -- the version that the key leads to has the ordinals of both places
  have hvi : v.ordinal = i := (Version.ordinal_eq_of_beq hvi).trans (t.ordinal_eq i hi)
  have hvj : v.ordinal = j := (Version.ordinal_eq_of_beq hwj).trans (t.ordinal_eq j hj)
  omega

end VersionTable

/-! ## Modules that record registrations -/

namespace LanguageModule

/-- Whether there is a key is whether it leads to a version. -/
theorem hasKey_eq_isSome (m : LanguageModule η) (key : String) :
    m.hasKey key = (m.get? key).isSome := by
  rw [Bool.eq_iff_iff, Option.isSome_iff_exists]
  constructor
  · intro h
    obtain ⟨⟨key, i⟩, hmem, rfl⟩ := List.mem_map.1 (VersionTable.hasKey_iff.1 h)
    have hlt := m.table.key_lt _ hmem
    refine ⟨m.table.versions[i], VersionTable.get?_eq_some.2 ?_⟩
    rw [m.table.ordinal_eq i hlt]
    exact ⟨hmem, List.getElem?_eq_getElem hlt⟩
  · rintro ⟨v, hv⟩
    have hmem := (VersionTable.get?_eq_some.1 hv).1
    exact VersionTable.hasKey_iff.2 (List.mem_map.2 ⟨_, hmem, rfl⟩)

/-- Every key is a key of a version. -/
theorem hasKey_iff_mem_keysOf (m : LanguageModule η) (key : String) :
    m.hasKey key = true ↔ ∃ v ∈ m.versions, key ∈ m.keysOf v := by
  rw [hasKey_eq_isSome, Option.isSome_iff_exists]
  constructor
  · rintro ⟨v, hv⟩
    exact ⟨v, List.mem_of_getElem? (VersionTable.get?_eq_some.1 hv).2,
      VersionTable.mem_keysOf.2 ⟨v, hv, Version.beq_iff.2 rfl⟩⟩
  · rintro ⟨v, -, hkey⟩
    obtain ⟨w, hw, -⟩ := VersionTable.mem_keysOf.1 hkey
    exact ⟨w, hw⟩

section

variable {m : LanguageModule η} {rs : List (Registration η)} {i : Nat} {r : Registration η}

theorem IsRecordOf.getElem?_versions (h : m.IsRecordOf rs) (hr : rs[i]? = some r) :
    m.versions[i]? = some ⟨m.identity, r.id, i, r.handler⟩ := by
  rw [h.versions, List.getElem?_mapIdx, hr]
  rfl

theorem IsRecordOf.exists_registration {v : Version η} (h : m.IsRecordOf rs)
    (hv : m.versions[i]? = some v) :
    ∃ r, rs[i]? = some r ∧ v = ⟨m.identity, r.id, i, r.handler⟩ := by
  rw [h.versions, List.getElem?_mapIdx] at hv
  obtain ⟨r, hr, hv⟩ := Option.map_eq_some_iff.1 hv
  exact ⟨r, hr, hv.symm⟩

/-- The keys of the version of a registration are the keys of the registration. -/
theorem IsRecordOf.mem_keysOf (h : m.IsRecordOf rs) (hr : rs[i]? = some r) {key : String} :
    key ∈ m.keysOf ⟨m.identity, r.id, i, r.handler⟩ ↔ key ∈ r.keys := by
  rw [LanguageModule.keysOf, VersionTable.mem_keysOf]
  have hplace := h.getElem?_versions hr
  constructor
  · rintro ⟨w, hw, hsame⟩
    -- the version that the key leads to stands at its ordinal, which is that of the registration
    have hordinal : w.ordinal = i := Version.ordinal_eq_of_beq hsame
    obtain ⟨-, hown⟩ := VersionTable.get?_eq_some.1 hw
    rw [hordinal] at hown
    exact (h.get?_eq key i r hr).1 (hw.trans hown.symm)
  · intro hkey
    exact ⟨_, ((h.get?_eq key i r hr).2 hkey).trans hplace, Version.beq_iff.2 rfl⟩

/-- The aliases that are found are those that were given, where these are distinct. -/
theorem IsRecordOf.aliasesOf_perm (h : m.IsRecordOf rs) (hr : rs[i]? = some r)
    (distinct : r.keys.Nodup) :
    (m.aliasesOf ⟨m.identity, r.id, i, r.handler⟩).Perm r.aliases := by
  obtain ⟨hid, haliases⟩ := List.nodup_cons.1 distinct
  have hfound : (m.aliasesOf ⟨m.identity, r.id, i, r.handler⟩).Nodup :=
    (m.table.aliasesOf_ascending _).imp String.ne_of_lt
  rw [List.perm_ext_iff_of_nodup hfound haliases]
  intro key
  have hkeys : key ∈ m.table.keysOf ⟨m.identity, r.id, i, r.handler⟩ ↔ key ∈ r.keys :=
    h.mem_keysOf hr
  rw [LanguageModule.aliasesOf, VersionTable.mem_aliasesOf, hkeys]
  constructor
  · rintro ⟨hkey, hne⟩
    exact (List.mem_cons.1 hkey).resolve_left hne
  · intro hkey
    refine ⟨List.mem_cons_of_mem _ hkey, ?_⟩
    rintro rfl
    exact hid hkey

/-- They come sorted. -/
theorem IsRecordOf.aliasesOf_eq_sortOn (h : m.IsRecordOf rs) (hr : rs[i]? = some r)
    (distinct : r.keys.Nodup) :
    m.aliasesOf ⟨m.identity, r.id, i, r.handler⟩ = Text.sortOn id r.aliases :=
  Text.eq_sortOn_of_perm (h.aliasesOf_perm hr distinct) (m.table.aliasesOf_ascending _)

/-- The version of a registration is the default one when the registration has the mark. -/
theorem IsRecordOf.isDefault_iff (h : m.IsRecordOf rs) (hr : rs[i]? = some r) :
    m.isDefault ⟨m.identity, r.id, i, r.handler⟩ = r.isDefault := by
  rw [Bool.eq_iff_iff, ← h.default i r hr, LanguageModule.isDefault, Version.beq_iff]
  have hdefault : m.versions[m.default]? = some m.defaultVersion :=
    List.getElem?_eq_getElem m.default_lt
  constructor
  · intro hrank
    have hordinal : m.defaultVersion.ordinal = i := congrArg (fun rank => rank.2.1) hrank
    have hplace : m.defaultVersion.ordinal = m.default := m.table.ordinal_eq _ m.default_lt
    rw [← hordinal, hplace]
    exact hdefault
  · intro heq
    rw [h.getElem?_versions hr] at heq
    rw [← Option.some.inj heq]

end

end LanguageModule

/-! ## Modules from scripts -/

namespace Builder

/-- The keys of a registration that was accepted are distinct. -/
theorem Records.keys_nodup {b : Builder η} {rs : List (Registration η)} (h : Records b rs)
    {r : Registration η} (hr : r ∈ rs) : r.keys.Nodup :=
  (List.nodup_flatMap.1 h.acceptable.keys_nodup).1 r hr

/-- Asking for the keys of a version inverts asking for the version of a key. The version may come
from anywhere: it has the keys that lead to a version that is the same, in the order of their
bytes, and none exactly when no version of the module is the same. The aliases are these keys
without the id, and for a version of the module they are those with which it was registered,
sorted. Every key of the module is a key of one of its versions, and of no other. -/
theorem keysOf_inverts_get? (name terseName : String) (script : List (Call η))
    {m : LanguageModule η} (h : ((new name terseName).run script).build = .ok m) :
    let rs := (new name terseName : Builder η).accepted script
    (∀ v : Version η,
      (m.keysOf v).Pairwise (fun k l => Text.bytes k < Text.bytes l) ∧
        (∀ key, key ∈ m.keysOf v ↔ ∃ w, m.get? key = some w ∧ (w == v) = true) ∧
        (m.keysOf v ≠ [] ↔ ∃ w ∈ m.versions, (w == v) = true) ∧
        m.aliasesOf v = (m.keysOf v).erase v.id) ∧
      (∀ (i : Nat) (v : Version η), m.versions[i]? = some v → ∃ r, rs[i]? = some r ∧
        v.id = r.id ∧ v.handler = r.handler ∧ m.aliasesOf v = Text.sortOn id r.aliases) ∧
      (m.versions.map m.keysOf).Pairwise List.Disjoint ∧
      ∀ key, m.hasKey key = true ↔ ∃ v ∈ m.versions, key ∈ m.keysOf v := by
  intro rs
  have hrecords : Records ((new name terseName).run script) rs :=
    records_run (records_new name terseName) script
  have hrecord := hrecords.isRecordOf h
  refine ⟨fun v => ⟨?_, fun key => VersionTable.mem_keysOf, VersionTable.keysOf_ne_nil,
    m.table.aliasesOf_eq_erase v⟩, fun i v hv => ?_, m.table.keysOf_disjoint,
    m.hasKey_iff_mem_keysOf⟩
  · exact (m.table.keysOf_ascending v).imp Text.bytes_lt_bytes
  · obtain ⟨r, hr, rfl⟩ := hrecord.exists_registration hv
    have hdistinct := hrecords.keys_nodup (List.mem_of_getElem? hr)
    exact ⟨r, hr, rfl, rfl, hrecord.aliasesOf_eq_sortOn hr hdistinct⟩

/-- A language with two versions, of which the second has two aliases. -/
def adaScript : List (Call Unit) :=
  [.register { id := "83", aliases := ["1983"], handler := (), isDefault := true },
    .register { id := "95", aliases := ["ISO", "1995"], handler := () }, .shortName "A"]

/-- A version of another module has the keys of the second version if the name of the language,
the ordinal and the id are the same, whatever else differs; with another ordinal it has none. -/
theorem keysOf_inverts_get?_foreign :
    ∃ m, ((new "Ada" "ada").run adaScript).build = .ok m ∧
      "1995" ∈ m.keysOf ⟨⟨"Ada", none, "gnat"⟩, "95", 1, ()⟩ ∧
      m.keysOf ⟨⟨"Ada", none, "gnat"⟩, "95", 0, ()⟩ = [] ∧
      m.aliasesOf ⟨⟨"Ada", some "A", "ada"⟩, "95", 1, ()⟩ = ["1995", "ISO"] := by
  obtain ⟨m, hm⟩ : ∃ m, ((new "Ada" "ada").run adaScript).build = .ok m :=
    exists_build_eq_ok.2 ⟨0, rfl⟩
  obtain ⟨hkeys, hregistered, -, -⟩ := keysOf_inverts_get? "Ada" "ada" adaScript hm
  have htable : m.table = ((new "Ada" "ada").run adaScript).table := (build_eq_ok.1 hm).1
  refine ⟨m, hm, ?_, ?_, ?_⟩
  · rw [(hkeys _).2.1, LanguageModule.get?, htable]
    exact ⟨⟨⟨"Ada", some "A", "ada"⟩, "95", 1, ()⟩, rfl, rfl⟩
  · by_contra hsome
    obtain ⟨w, hw, hsame⟩ := (hkeys _).2.2.1.1 hsome
    rw [LanguageModule.versions, htable] at hw
    have hall : ∀ w ∈ ((new "Ada" "ada").run adaScript).table.versions,
        (w == (⟨⟨"Ada", none, "gnat"⟩, "95", 0, ()⟩ : Version Unit)) = false := by decide
    rw [hall w hw] at hsame
    cases hsame
  · have hversion : m.versions[1]? = some ⟨⟨"Ada", some "A", "ada"⟩, "95", 1, ()⟩ := by
      rw [LanguageModule.versions, htable]
      rfl
    obtain ⟨r, hr, -, -, haliases⟩ := hregistered 1 _ hversion
    cases hr
    rw [haliases]
    exact (Text.eq_sortOn_of_perm (.swap _ _ _) (by decide)).symm

end Builder

end Polyglot
