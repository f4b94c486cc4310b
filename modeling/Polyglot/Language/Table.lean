import Polyglot.Language.Version

/-!
# Version tables

The versions of one language in order of registration, and the keys (ids and
aliases) under which they are found. A table keeps its own invariants:

- every version carries the names of the language and its own position;
- no key occurs twice, and every key leads to a version;
- the id of a version is one of its keys.

`VersionTable.collision?` looks for the first key of a registration that is taken
or repeated; `VersionTable.add` is defined where there is none.
-/

namespace Polyglot

universe u

/-- The versions of a language and the keys that lead to them. -/
structure VersionTable (η : Type u) where
  language : Identity
  versions : List (Version η)
  /-- Each key with the ordinal of its version. -/
  keys : List (String × Nat)
  language_eq : ∀ v ∈ versions, v.language = language
  ordinal_eq : ∀ i (h : i < versions.length), versions[i].ordinal = i
  keys_nodup : (keys.map Prod.fst).Nodup
  key_lt : ∀ e ∈ keys, e.2 < versions.length
  id_mem_keys : ∀ v ∈ versions, (v.id, v.ordinal) ∈ keys

namespace VersionTable

variable {η : Type u}

/-- No versions and no keys. -/
def empty (language : Identity) : VersionTable η where
  language := language
  versions := []
  keys := []
  language_eq := by simp
  ordinal_eq := by simp
  keys_nodup := by simp
  key_lt := by simp
  id_mem_keys := by simp

/-- Whether `key` is the id or an alias of a version. -/
def hasKey (t : VersionTable η) (key : String) : Bool := t.keys.any (·.1 == key)

/-- The version that `key` leads to. -/
def get? (t : VersionTable η) (key : String) : Option (Version η) :=
  (t.keys.lookup key).bind fun i => t.versions[i]?

/-- The keys that lead to `v`, ascending. A version of another table has keys here when it is
the same as the version at its ordinal. -/
def keysOf (t : VersionTable η) (v : Version η) : List String :=
  ((t.keys.filter fun e => e.2 == v.ordinal && (t.versions[e.2]?).any (· == v)).map
    Prod.fst).mergeSort

/-- The keys of `v` other than its id, ascending. -/
def aliasesOf (t : VersionTable η) (v : Version η) : List String :=
  (t.keysOf v).filter (· != v.id)

/-! ## Collisions -/

/-- The first of `keys` that is taken or stands earlier in the list; `seen` came before. -/
def collisionAfter? (t : VersionTable η) (seen : List String) : List String → Option String
  | [] => none
  | key :: keys =>
    if seen.contains key || t.hasKey key then some key
    else t.collisionAfter? (key :: seen) keys

/-- The first of `keys` that is taken or stands earlier in the list. -/
def collision? (t : VersionTable η) (keys : List String) : Option String :=
  t.collisionAfter? [] keys

theorem hasKey_iff {t : VersionTable η} {key : String} :
    t.hasKey key ↔ key ∈ t.keys.map Prod.fst := by
  simp [hasKey]

theorem collisionAfter?_eq_none {t : VersionTable η} {seen keys : List String} :
    t.collisionAfter? seen keys = none ↔
      keys.Nodup ∧ (∀ k ∈ keys, k ∉ seen) ∧ ∀ k ∈ keys, k ∉ t.keys.map Prod.fst := by
  induction keys generalizing seen with
  | nil => simp [collisionAfter?]
  | cons k ks ih =>
    rw [collisionAfter?]
    by_cases hk : seen.contains k || t.hasKey k
    · simp only [hk, if_true, reduceCtorEq, false_iff]
      rw [Bool.or_eq_true, List.contains_iff_mem, hasKey_iff] at hk
      grind
    · simp only [hk, Bool.false_eq_true, if_false, ih]
      rw [Bool.or_eq_true, List.contains_iff_mem, hasKey_iff, not_or] at hk
      grind

/-- A registration has no collision when its keys are distinct and free. -/
theorem collision?_eq_none {t : VersionTable η} {keys : List String} :
    t.collision? keys = none ↔ keys.Nodup ∧ ∀ k ∈ keys, k ∉ t.keys.map Prod.fst := by
  simp [collision?, collisionAfter?_eq_none]

/-! ## Operations -/

private theorem fst_map_pair (keys : List String) (n : Nat) :
    (keys.map (·, n)).map Prod.fst = keys := by
  simp [Function.comp_def]

/-- Add a version under its id and its aliases. -/
def add (t : VersionTable η) (id : String) (aliases : List String) (handler : η)
    (free : t.collision? (id :: aliases) = none) : VersionTable η where
  language := t.language
  versions := t.versions ++ [⟨t.language, id, t.versions.length, handler⟩]
  keys := t.keys ++ (id :: aliases).map (·, t.versions.length)
  language_eq := by
    intro v hv
    rcases List.mem_append.1 hv with h | h
    · exact t.language_eq v h
    · rw [List.mem_singleton.1 h]
  ordinal_eq := by
    intro i h
    rw [List.getElem_append]
    split
    · exact t.ordinal_eq i _
    · simp only [List.length_append, List.length_singleton] at h
      simp
      omega
  keys_nodup := by
    obtain ⟨hd, hf⟩ := collision?_eq_none.1 free
    rw [List.map_append, fst_map_pair]
    refine List.nodup_append.2 ⟨t.keys_nodup, hd, ?_⟩
    rintro a ha b hb rfl
    exact hf a hb ha
  key_lt := by
    intro e he
    rw [List.length_append, List.length_singleton]
    rcases List.mem_append.1 he with h | h
    · exact Nat.lt_succ_of_lt (t.key_lt e h)
    · obtain ⟨k, -, rfl⟩ := List.mem_map.1 h
      exact Nat.lt_succ_self _
  id_mem_keys := by
    intro v hv
    rcases List.mem_append.1 hv with h | h
    · exact List.mem_append_left _ (t.id_mem_keys v h)
    · rw [List.mem_singleton.1 h]
      simp

/-- Change the names of the language, in the table and in every version. -/
def rename (t : VersionTable η) (language : Identity) : VersionTable η where
  language := language
  versions := t.versions.map fun v => { v with language }
  keys := t.keys
  language_eq := by simp
  ordinal_eq := by
    intro i h
    simpa using t.ordinal_eq i (by simpa using h)
  keys_nodup := t.keys_nodup
  key_lt := by simpa using t.key_lt
  id_mem_keys := by
    intro v hv
    obtain ⟨w, hw, rfl⟩ := List.mem_map.1 hv
    exact t.id_mem_keys w hw

end VersionTable

end Polyglot
