import Polyglot.Proofs.Language.Script
import Polyglot.Proofs.Language.Table

/-!
# A builder is the record of its accepted registrations

The versions, the keys and the default version of a builder are three structures
that every call updates on its own. The invariant `Records` says what all three are in
terms of one list, the registrations accepted so far; every call keeps it
(`records_after`), and so does every script (`records_run`).

- `refusal?_eq_some`: why the next registration is refused, in terms of the list.
- `run_is_record`: what can be asked of a builder and of the module that it gives,
  in terms of the list.
-/

namespace Polyglot

universe u

variable {η : Type u}

namespace Registration

/-- Registrations that can all be accepted one after the other: no key stands twice, and at most
one of them is to be the default. -/
structure Acceptable (rs : List (Registration η)) : Prop where
  keys_nodup : (rs.flatMap keys).Nodup
  one_default : rs.countP (·.isDefault) ≤ 1

/-- What is acceptable is so up to any point. -/
theorem Acceptable.of_append {rs qs : List (Registration η)} (h : Acceptable (rs ++ qs)) :
    Acceptable rs := by
  refine ⟨?_, Nat.le_trans ?_ h.one_default⟩
  · have hd := h.keys_nodup
    rw [List.flatMap_append] at hd
    exact (List.nodup_append.1 hd).1
  · rw [List.countP_append]
    exact Nat.le_add_right _ _

/-- Why a registration is refused behind others: its first key that they have, or that it
repeats; and if there is none, that it is to be the default beside the one they have. -/
inductive Refusal (language : String) (before : List (Registration η)) (r : Registration η) :
    RegistryError → Prop
  | duplicateKey {front back : List String} {key : String}
      (split : r.keys = front ++ key :: back)
      (fresh : (before.flatMap keys ++ front).Nodup)
      (taken : key ∈ before.flatMap keys ++ front) :
      Refusal language before r (.duplicateKey language key)
  | defaultAlreadySet {d : Registration η}
      (fresh : (before.flatMap keys ++ r.keys).Nodup)
      (marked : r.isDefault = true)
      (default : before.find? (·.isDefault) = some d) :
      Refusal language before r (.defaultAlreadySet language d.id r.id)

end Registration

namespace Builder

open Registration

/-! ## The invariant -/

/-- The builder has taken in these registrations, in this order, and nothing else. -/
structure Records (b : Builder η) (rs : List (Registration η)) : Prop where
  versions : b.table.versions = rs.mapIdx fun i r => ⟨b.table.language, r.id, i, r.handler⟩
  keys : b.table.keys = (rs.mapIdx fun i r => r.keys.map (·, i)).flatten
  default : b.default? = rs.findIdx? (·.isDefault)
  one_default : rs.countP (·.isDefault) ≤ 1

theorem records_new (name terseName : String) :
    Records (new name terseName : Builder η) [] :=
  ⟨rfl, rfl, rfl, Nat.zero_le 1⟩

section Records

variable {b : Builder η} {rs : List (Registration η)}

theorem Records.length_versions (h : Records b rs) : b.table.versions.length = rs.length := by
  rw [h.versions, List.length_mapIdx]

/-- The keys of the builder are the keys of its registrations. -/
theorem Records.names (h : Records b rs) : b.table.names = rs.flatMap Registration.keys := by
  rw [VersionTable.names, h.keys, List.map_flatten, List.flatMap_def]
  congr 1
  refine List.ext_getElem? fun i => ?_
  rw [List.getElem?_map, List.getElem?_mapIdx, List.getElem?_map, Option.map_map]
  congr 1
  funext r
  simp [Function.comp_def]

theorem Records.acceptable (h : Records b rs) : Acceptable rs :=
  ⟨h.names ▸ b.table.keys_nodup, h.one_default⟩

/-- A registration has nothing against it when it is acceptable behind the record. -/
theorem Records.refusal?_eq_none (h : Records b rs) {r : Registration η} :
    b.refusal? r = none ↔ Acceptable (rs ++ [r]) := by
  rw [Builder.refusal?_eq_none, VersionTable.collision?_eq_none_iff_nodup, h.names, h.default,
    List.findIdx?_eq_none_iff]
  have hkeys : (rs ++ [r]).flatMap Registration.keys = rs.flatMap Registration.keys ++ r.keys := by
    simp
  have hcount : (rs ++ [r]).countP (·.isDefault)
      = rs.countP (·.isDefault) + if r.isDefault then 1 else 0 := by
    rw [List.countP_append, List.countP_singleton]
  constructor
  · rintro ⟨hnodup, hnone⟩
    refine ⟨hkeys ▸ hnodup, ?_⟩
    rw [hcount]
    by_cases hr : r.isDefault
    · have hzero : rs.countP (·.isDefault) = 0 :=
        List.countP_eq_zero.2 fun q hq => by simp [hnone hr q hq]
      rw [if_pos hr]
      omega
    · rw [if_neg hr]
      exact h.one_default
  · rintro ⟨hnodup, hone⟩
    refine ⟨hkeys ▸ hnodup, fun hr q hq => ?_⟩
    rw [hcount, if_pos hr] at hone
    have hzero : rs.countP (·.isDefault) = 0 := by omega
    simpa using List.countP_eq_zero.1 hzero q hq

/-! ## Every call keeps it -/

/-- Storing a registration appends it to the record. -/
theorem records_store (h : Records b rs) {r : Registration η} (free : b.refusal? r = none) :
    Records (b.store r (collision?_eq_none_of_refusal? free)) (rs ++ [r]) := by
  have hlen := h.length_versions
  obtain ⟨-, hdefault⟩ := refusal?_eq_none.1 free
  refine { versions := ?_, keys := ?_, default := ?_, one_default := ?_ }
  · show b.table.versions ++ [_] = _
    rw [List.mapIdx_concat, h.versions, List.length_mapIdx]
    rfl
  · show b.table.keys ++ r.keys.map (·, b.table.versions.length) = _
    rw [List.mapIdx_concat, List.flatten_concat, h.keys, hlen]
  · show (if r.isDefault then some b.table.versions.length else b.default?) = _
    rw [List.findIdx?_append, ← h.default, List.findIdx?_singleton]
    by_cases hr : r.isDefault
    · rw [if_pos hr, if_pos hr, hdefault hr, hlen]
      simp
    · rw [if_neg hr, if_neg hr]
      simp
  · exact (h.refusal?_eq_none.1 free).one_default

/-- The invariant looks at the table and at the default version alone. -/
theorem Records.congr (h : Records b rs) {b' : Builder η} (table : b'.table = b.table)
    (default : b'.default? = b.default?) : Records b' rs := by
  refine ⟨?_, ?_, ?_, h.one_default⟩
  · rw [table]
    exact h.versions
  · rw [table]
    exact h.keys
  · rw [default]
    exact h.default

/-- A new short name goes to every version and changes nothing else of it. -/
theorem records_withShortName (h : Records b rs) (shortName : String) :
    Records (b.withShortName shortName) rs := by
  refine ⟨?_, h.keys, h.default, h.one_default⟩
  show b.table.versions.map _ = _
  rw [h.versions]
  refine List.ext_getElem? fun i => ?_
  rw [List.getElem?_map, List.getElem?_mapIdx, List.getElem?_mapIdx, Option.map_map]
  rfl

/-- One call keeps the invariant; it adds the registration that it gets accepted, if any. -/
theorem records_after (h : Records b rs) (c : Call η) :
    Records (b.after c) (rs ++ (acceptance? (c, (b.perform c).value.2)).toList) := by
  cases c with
  | shortName value =>
    show Records _ (rs ++ [])
    rw [List.append_nil]
    exact records_withShortName h value
  | extensions given =>
    show Records _ (rs ++ [])
    rw [List.append_nil]
    exact h.congr rfl rfl
  | strategy value =>
    show Records _ (rs ++ [])
    rw [List.append_nil]
    exact h.congr rfl rfl
  | register r =>
    have hp : (b.perform (.register r)).value = b.register r := rfl
    rw [after, hp]
    cases hr : b.refusal? r with
    | some fault =>
      rw [register_of_refusal? hr]
      simpa [acceptance?] using h
    | none =>
      rw [register_of_free hr]
      exact records_store h hr

/-- A script keeps the invariant; it adds the registrations that it gets accepted. -/
theorem records_run (h : Records b rs) (script : List (Call η)) :
    Records (b.run script) (rs ++ b.accepted script) := by
  induction script generalizing b rs with
  | nil =>
    show Records b (rs ++ [])
    rw [List.append_nil]
    exact h
  | cons c cs ih =>
    have hrest := ih (records_after h c)
    rw [List.append_assoc] at hrest
    have haccepted : b.accepted (c :: cs)
        = (acceptance? (c, (b.perform c).value.2)).toList ++ (b.after c).accepted cs := by
      rw [accepted, transcript_cons, List.filterMap_cons]
      cases acceptance? (c, (b.perform c).value.2) <;> rfl
    rw [haccepted, run_cons]
    exact hrest

/-! ## What the record answers -/

theorem Records.hasKey (h : Records b rs) (key : String) :
    b.hasKey key = true ↔ ∃ r ∈ rs, key ∈ r.keys := by
  rw [Builder.hasKey, VersionTable.hasKey_iff, ← List.mem_flatMap, ← h.names]
  rfl

/-- A key leads to the registration that has it. -/
theorem Records.lookup (h : Records b rs) {key : String} {i : Nat} :
    b.table.keys.lookup key = some i ↔ ∃ r, rs[i]? = some r ∧ key ∈ r.keys := by
  rw [VersionTable.lookup_eq_some, h.keys, List.mem_flatten]
  constructor
  · rintro ⟨entries, hentries, hmem⟩
    obtain ⟨j, hj, rfl⟩ := List.mem_mapIdx.1 hentries
    obtain ⟨k, hk, heq⟩ := List.mem_map.1 hmem
    obtain ⟨rfl, rfl⟩ := Prod.mk.inj heq
    exact ⟨rs[j], List.getElem?_eq_getElem hj, hk⟩
  · rintro ⟨r, hr, hk⟩
    obtain ⟨hi, rfl⟩ := List.getElem?_eq_some_iff.1 hr
    exact ⟨_, List.mem_mapIdx.2 ⟨i, hi, rfl⟩, List.mem_map_of_mem hk⟩

theorem Records.getElem?_versions (h : Records b rs) {i : Nat} {r : Registration η}
    (hr : rs[i]? = some r) :
    b.table.versions[i]? = some ⟨b.table.language, r.id, i, r.handler⟩ := by
  rw [h.versions, List.getElem?_mapIdx, hr]
  rfl

/-- A key gives the version of a registration exactly when the registration has the key. -/
theorem Records.get?_eq_getElem? (h : Records b rs) (key : String) {i : Nat}
    {r : Registration η} (hr : rs[i]? = some r) :
    b.table.get? key = b.table.versions[i]? ↔ key ∈ r.keys := by
  constructor
  · intro heq
    rw [h.getElem?_versions hr, VersionTable.get?] at heq
    obtain ⟨j, hj, hv⟩ := Option.bind_eq_some_iff.1 heq
    obtain ⟨q, hq, hk⟩ := h.lookup.1 hj
    -- the two versions carry their ordinals, so they stem from one registration
    rw [h.getElem?_versions hq, Option.some.injEq, Version.mk.injEq] at hv
    obtain ⟨-, -, rfl, -⟩ := hv
    rw [hr] at hq
    exact Option.some.inj hq ▸ hk
  · intro hk
    rw [VersionTable.get?, h.lookup.2 ⟨r, hr, hk⟩]
    rfl

theorem Records.get?_eq_none (h : Records b rs) (key : String) :
    b.table.get? key = none ↔ ∀ r ∈ rs, key ∉ r.keys := by
  constructor
  · intro hnone r hr hk
    obtain ⟨i, hi⟩ := List.getElem?_of_mem hr
    have hsome := ((h.get?_eq_getElem? key hi).2 hk).trans (h.getElem?_versions hi)
    rw [hnone] at hsome
    cases hsome
  · intro hfree
    cases hv : b.table.get? key with
    | none => rfl
    | some v =>
      obtain ⟨i, hi, -⟩ := Option.bind_eq_some_iff.1 hv
      obtain ⟨r, hr, hk⟩ := h.lookup.1 hi
      exact absurd hk (hfree r (List.mem_of_getElem? hr))

/-- The default version is the version of the registration with the mark. -/
theorem Records.default?_eq_some (h : Records b rs) {i : Nat} {r : Registration η}
    (hr : rs[i]? = some r) : b.default? = some i ↔ r.isDefault = true := by
  obtain ⟨hi, rfl⟩ := List.getElem?_eq_some_iff.1 hr
  rw [h.default, List.findIdx?_eq_some_iff_getElem]
  constructor
  · rintro ⟨_, hd, _⟩
    exact hd
  · intro hd
    refine ⟨hi, hd, fun j hj => ?_⟩
    -- two marks at different places are one too many
    intro hdj
    have hsplit : rs = rs.take (j + 1) ++ rs.drop (j + 1) := (List.take_append_drop ..).symm
    have hfront : 0 < (rs.take (j + 1)).countP (·.isDefault) :=
      List.countP_pos_iff.2 ⟨rs[j], List.mem_take_iff_getElem.2 ⟨j, by omega, rfl⟩, hdj⟩
    have hback : 0 < (rs.drop (j + 1)).countP (·.isDefault) :=
      List.countP_pos_iff.2 ⟨rs[i],
        List.mem_drop_iff_getElem.2 ⟨i - (j + 1), by omega, by congr 1; omega⟩, hd⟩
    have hone := h.one_default
    rw [hsplit, List.countP_append] at hone
    omega

theorem Records.defaultVersion?_eq_map (h : Records b rs) :
    b.defaultVersion?.map Version.id = (rs.find? (·.isDefault)).map Registration.id := by
  rw [List.find?_eq_bind_findIdx?_getElem?, ← h.default, defaultVersion?]
  cases b.default? with
  | none => rfl
  | some i =>
    show (b.table.versions[i]?).map _ = (rs[i]?).map _
    rw [h.versions, List.getElem?_mapIdx, Option.map_map]
    rfl

/-- Why a registration is refused, in terms of the record. -/
theorem Records.refusal?_eq_some (h : Records b rs) {r : Registration η}
    {fault : RegistryError} : b.refusal? r = some fault ↔ Refusal b.name rs r fault := by
  have hdefault := h.defaultVersion?_eq_map
  rw [refusal?]
  constructor
  · intro hr
    split at hr
    · rename_i key hkey
      obtain ⟨front, back, split, fresh, taken⟩ := VersionTable.collision?_eq_some.1 hkey
      rw [h.names] at fresh taken
      cases hr
      exact .duplicateKey split fresh taken
    · rename_i free
      have fresh := VersionTable.collision?_eq_none_iff_nodup.1 free
      rw [h.names] at fresh
      split at hr
      · rename_i v marked hv
        rw [hv] at hdefault
        obtain ⟨d, hd, hid⟩ := Option.map_eq_some_iff.1 hdefault.symm
        cases hr
        rw [← hid]
        exact .defaultAlreadySet fresh marked hd
      · cases hr
  · intro hr
    cases hr with
    | duplicateKey split fresh taken =>
      rw [← h.names] at fresh taken
      rw [VersionTable.collision?_eq_some.2 ⟨_, _, split, fresh, taken⟩]
    | defaultAlreadySet fresh marked hd =>
      rw [← h.names] at fresh
      rw [hd] at hdefault
      obtain ⟨v, hv, hid⟩ := Option.map_eq_some_iff.1 hdefault
      rw [VersionTable.collision?_eq_none_iff_nodup.2 fresh, marked, hv, ← hid]

theorem Records.default?_isSome (h : Records b rs) :
    (∃ i, b.default? = some i) ↔ ∃ r ∈ rs, r.isDefault = true := by
  rw [h.default, ← Option.isSome_iff_exists, List.findIdx?_isSome, List.any_eq_true]

end Records

/-! ## Completion -/

/-- A finished module is the builder with its default version. -/
theorem build_eq_ok {b : Builder η} {m : LanguageModule η} :
    b.build = .ok m ↔
      m.table = b.table ∧ m.extensions = b.extensions ∧ m.strategy = b.strategy ∧
        b.default? = some m.default := by
  unfold build
  split
  · rename_i h
    simp [h]
  · rename_i i h
    obtain ⟨table, extensions, strategy, default, hlt⟩ := m
    rw [Except.ok.injEq, LanguageModule.mk.injEq, h, Option.some.injEq]
    constructor
    · rintro ⟨rfl, rfl, rfl, rfl⟩
      exact ⟨rfl, rfl, rfl, rfl⟩
    · rintro ⟨rfl, rfl, rfl, rfl⟩
      exact ⟨rfl, rfl, rfl, rfl⟩

theorem build_eq_error {b : Builder η} {fault : RegistryError} :
    b.build = .error fault ↔ b.default? = none ∧ fault = .missingDefault b.name := by
  unfold build
  split
  · rename_i h
    simp [h, eq_comm]
  · rename_i i h
    simp [h]

theorem exists_build_eq_ok {b : Builder η} :
    (∃ m, b.build = .ok m) ↔ ∃ i, b.default? = some i := by
  constructor
  · rintro ⟨m, hm⟩
    exact ⟨m.default, (build_eq_ok.1 hm).2.2.2⟩
  · rintro ⟨i, hi⟩
    exact ⟨⟨b.table, b.extensions, b.strategy, i, b.default_lt i hi⟩,
      build_eq_ok.2 ⟨rfl, rfl, rfl, hi⟩⟩

end Builder

/-! ## Scripts from the start -/

/-- A module tells of these registrations and of nothing else. -/
structure LanguageModule.IsRecordOf (m : LanguageModule η) (rs : List (Registration η)) :
    Prop where
  /-- Each registration has one version, at its place and with its place as ordinal. -/
  versions : m.versions = rs.mapIdx fun i r => ⟨m.identity, r.id, i, r.handler⟩
  /-- The keys of a registration, and no others, give its version. -/
  get?_eq : ∀ (key : String) (i : Nat) (r : Registration η), rs[i]? = some r →
    (m.get? key = m.versions[i]? ↔ key ∈ r.keys)
  get?_none : ∀ key, m.get? key = none ↔ ∀ r ∈ rs, key ∉ r.keys
  /-- No key belongs to two registrations. -/
  unique : ∀ (key : String) (i j : Nat) (r q : Registration η), rs[i]? = some r →
    rs[j]? = some q → key ∈ r.keys → key ∈ q.keys → i = j
  default : ∀ (i : Nat) (r : Registration η), rs[i]? = some r →
    (m.versions[i]? = some m.defaultVersion ↔ r.isDefault = true)
  /-- Whatever is looked up lies within the versions. -/
  in_bounds : m.default < m.versions.length ∧
    ∀ key i, m.table.keys.lookup key = some i → i < m.versions.length

namespace Builder

open Registration

theorem Records.isRecordOf {b : Builder η} {rs : List (Registration η)} (h : Records b rs)
    {m : LanguageModule η} (hm : b.build = .ok m) : m.IsRecordOf rs := by
  obtain ⟨table, -, -, default⟩ := build_eq_ok.1 hm
  have hversions : m.versions = b.table.versions := by rw [LanguageModule.versions, table]
  have hget : ∀ key, m.get? key = b.table.get? key := by
    intro key
    rw [LanguageModule.get?, table]
  refine { versions := ?_, get?_eq := ?_, get?_none := ?_, unique := ?_, default := ?_,
           in_bounds := ?_ }
  · rw [hversions, LanguageModule.identity, table]
    exact h.versions
  · intro key i r hr
    rw [hget, hversions]
    exact h.get?_eq_getElem? key hr
  · intro key
    rw [hget]
    exact h.get?_eq_none key
  · intro key i j r q hr hq hkr hkq
    have hi := h.lookup.2 ⟨r, hr, hkr⟩
    have hj := h.lookup.2 ⟨q, hq, hkq⟩
    exact Option.some.inj (hi.symm.trans hj)
  · intro i r hr
    rw [← h.default?_eq_some hr, default, Option.some.injEq]
    have hdef : m.versions[m.default]? = some m.defaultVersion :=
      List.getElem?_eq_getElem m.default_lt
    constructor
    · intro hi
      -- equal versions have equal ordinals, which are their places
      rw [hversions] at hi hdef
      have hlt : m.default < rs.length := by
        rw [← h.length_versions, ← table]
        exact m.default_lt
      rw [h.getElem?_versions (List.getElem?_eq_getElem hlt)] at hdef
      rw [h.getElem?_versions hr, ← hdef, Option.some.injEq, Version.mk.injEq] at hi
      exact hi.2.2.1.symm
    · rintro rfl
      exact hdef
  · refine ⟨m.default_lt, fun key i hi => ?_⟩
    exact m.table.key_lt _ (VersionTable.lookup_eq_some.1 hi)

/-- A builder, and the module that it gives, are the record of the accepted registrations,
whatever the script. As it is about every script, it holds behind every call of one. -/
theorem run_is_record (name terseName : String) (script : List (Call η)) :
    let b := (new name terseName : Builder η).run script
    let rs := (new name terseName : Builder η).accepted script
    (∀ key, b.hasKey key = true ↔ ∃ r ∈ rs, key ∈ r.keys) ∧
      rs.countP (·.isDefault) ≤ 1 ∧
      (∀ key i, b.table.keys.lookup key = some i → i < b.table.versions.length) ∧
      (∀ i, b.default? = some i → i < b.table.versions.length) ∧
      ((∃ m, b.build = .ok m) ↔ ∃ r ∈ rs, r.isDefault = true) ∧
      ∀ m, b.build = .ok m → m.IsRecordOf rs := by
  intro b rs
  have h : Records b rs := records_run (records_new name terseName) script
  refine ⟨h.hasKey, h.one_default, fun key i hi => ?_, b.default_lt, ?_, fun m => h.isRecordOf⟩
  · exact b.table.key_lt _ (VersionTable.lookup_eq_some.1 hi)
  · rw [exists_build_eq_ok, h.default?_isSome]

end Builder

end Polyglot
