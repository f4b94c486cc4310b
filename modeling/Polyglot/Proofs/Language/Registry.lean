import Polyglot.Language.Registry
import Polyglot.Proofs.FirstError

/-!
# Registries from modules

Which lists of modules make a registry.

- `Gathers`: the registry has the names of these modules, each name once; every
  insertion that goes through keeps it.
- `ofModules_eq_error`: the first module that repeats a name is the one refused.
-/

namespace Polyglot.Registry

universe u

variable {η : Type u}

/-! ## One insertion -/

theorem insert_eq_error {r : Registry η} {m : LanguageModule η} {fault : RegistryError} :
    r.insert m = .error fault ↔ m.name ∈ r.names ∧ fault = .duplicateLanguage m.name := by
  rw [names, List.mem_map, insert]
  split
  · rename_i taken
    rw [Except.error.injEq]
    exact ⟨fun h => ⟨taken, h.symm⟩, fun h => h.2.symm⟩
  · rename_i free
    constructor
    · intro h
      cases h
    · rintro ⟨taken, -⟩
      exact absurd taken free

theorem exists_insert_eq_ok {r : Registry η} {m : LanguageModule η} :
    (∃ r', r.insert m = .ok r') ↔ m.name ∉ r.names := by
  constructor
  · rintro ⟨r', hr⟩ hmem
    rw [insert_eq_error.2 ⟨hmem, rfl⟩] at hr
    cases hr
  · intro hfree
    cases hr : r.insert m with
    | ok r' => exact ⟨r', rfl⟩
    | error fault => exact absurd (insert_eq_error.1 hr).1 hfree

theorem modules_insert {r r' : Registry η} {m : LanguageModule η} (h : r.insert m = .ok r') :
    r'.modules = insertByName m r.modules := by
  unfold insert at h
  split at h
  · cases h
  · cases h
    rfl

theorem mem_modules_insert {r r' : Registry η} {m n : LanguageModule η}
    (h : r.insert m = .ok r') : n ∈ r'.modules ↔ n = m ∨ n ∈ r.modules := by
  rw [modules_insert h, mem_insertByName]

theorem mem_names_insert {r r' : Registry η} {m : LanguageModule η} (h : r.insert m = .ok r')
    (name : String) : name ∈ r'.names ↔ name = m.name ∨ name ∈ r.names := by
  rw [names, names, List.mem_map, List.mem_map]
  constructor
  · rintro ⟨n, hn, rfl⟩
    rcases (mem_modules_insert h).1 hn with rfl | hn
    · exact .inl rfl
    · exact .inr ⟨n, hn, rfl⟩
  · rintro (rfl | ⟨n, hn, rfl⟩)
    · exact ⟨m, (mem_modules_insert h).2 (.inl rfl), rfl⟩
    · exact ⟨n, (mem_modules_insert h).2 (.inr hn), rfl⟩

/-! ## Insertions in a row -/

theorem value_insertLogged (r : Registry η) (m : LanguageModule η) :
    (r.insertLogged m).value = r.insert m := by
  rw [insertLogged]
  cases r.insert m <;> rfl

theorem value_insertAll (r : Registry η) (ms : List (LanguageModule η)) :
    (r.insertAll ms).value = ms.foldlM insert r := by
  induction ms generalizing r with
  | nil => rfl
  | cons m ms ih =>
    rw [insertAll, Logged.value_andThen, value_insertLogged, List.foldlM_cons]
    congr 1
    funext r'
    exact ih r'

/-- The names of the registry are the names of these modules, which are distinct. -/
structure Gathers (ms : List (LanguageModule η)) (r : Registry η) : Prop where
  distinct : (ms.map LanguageModule.name).Nodup
  mem_names : ∀ name, name ∈ r.names ↔ name ∈ ms.map LanguageModule.name

theorem gathers_empty : Gathers [] (empty : Registry η) :=
  ⟨.nil, fun _ => .rfl⟩

theorem gathers_insert {ms : List (LanguageModule η)} {r r' : Registry η}
    {m : LanguageModule η} (h : Gathers ms r) (hm : r.insert m = .ok r') :
    Gathers (ms ++ [m]) r' := by
  have hfree : m.name ∉ ms.map LanguageModule.name := by
    rw [← h.mem_names]
    exact exists_insert_eq_ok.1 ⟨r', hm⟩
  constructor
  · rw [List.map_append]
    refine List.nodup_append.2 ⟨h.distinct, List.pairwise_singleton _ _, ?_⟩
    intro a ha b hb
    rw [List.map_singleton, List.mem_singleton] at hb
    rintro rfl
    exact hfree (hb ▸ ha)
  · intro name
    rw [mem_names_insert hm, h.mem_names, List.map_append, List.mem_append, or_comm]
    simp

/-- Modules are gathered one after the other as long as their names are distinct. -/
theorem exists_foldlM_insert {ms : List (LanguageModule η)}
    (distinct : (ms.map LanguageModule.name).Nodup) :
    ∃ r, ms.foldlM insert (empty : Registry η) = .ok r := by
  refine exists_foldlM_eq_ok Gathers (fun _ _ _ _ h => gathers_insert h) gathers_empty ?_
  rintro front m back r rfl h
  rw [exists_insert_eq_ok, h.mem_names]
  rw [List.map_append, List.map_cons, List.nodup_append] at distinct
  exact fun hmem => distinct.2.2 m.name hmem m.name List.mem_cons_self rfl

theorem gathers_foldlM {ms : List (LanguageModule η)} {r : Registry η}
    (h : ms.foldlM insert (empty : Registry η) = .ok r) : Gathers ms r :=
  foldlM_induction Gathers (fun _ _ _ _ h => gathers_insert h) gathers_empty h

/-- The registry holds the modules that it is made from. -/
theorem mem_modules_ofModules {ms : List (LanguageModule η)} {r : Registry η}
    (h : (ofModules ms).value = .ok r) (m : LanguageModule η) : m ∈ r.modules ↔ m ∈ ms := by
  rw [ofModules, value_insertAll] at h
  refine foldlM_induction (fun front s => ∀ m, m ∈ s.modules ↔ m ∈ front) ?_
    (fun _ => .rfl) h m
  intro front s n t hfront hn m
  rw [mem_modules_insert hn, hfront, List.mem_append, List.mem_singleton, or_comm]

/-! ## Registries from a list -/

theorem exists_ofModules_eq_ok {ms : List (LanguageModule η)} :
    (∃ r, (ofModules ms).value = .ok r) ↔ (ms.map LanguageModule.name).Nodup := by
  rw [ofModules, value_insertAll]
  exact ⟨fun ⟨_, hr⟩ => (gathers_foldlM hr).distinct, exists_foldlM_insert⟩

/-- The name that is refused is the first one that stands before itself. -/
theorem ofModules_eq_error {ms : List (LanguageModule η)} {fault : RegistryError} :
    (ofModules ms).value = .error fault ↔
      ∃ front name back, ms.map LanguageModule.name = front ++ name :: back ∧ front.Nodup ∧
        name ∈ front ∧ fault = .duplicateLanguage name := by
  rw [ofModules, value_insertAll, foldlM_eq_error]
  constructor
  · rintro ⟨front, m, back, r, rfl, hr, hm⟩
    have h := gathers_foldlM hr
    obtain ⟨hmem, hfault⟩ := insert_eq_error.1 hm
    refine ⟨front.map LanguageModule.name, m.name, back.map LanguageModule.name, ?_,
      h.distinct, (h.mem_names _).1 hmem, hfault⟩
    rw [List.map_append, List.map_cons]
  · rintro ⟨front, name, back, split, distinct, hmem, hfault⟩
    obtain ⟨before, rest, rfl, rfl, hrest⟩ := List.map_eq_append_iff.1 split
    obtain ⟨m, after, rfl, rfl, rfl⟩ := List.map_eq_cons_iff.1 hrest
    obtain ⟨r, hr⟩ := exists_foldlM_insert distinct
    have h := gathers_foldlM hr
    exact ⟨before, m, after, r, rfl, hr, insert_eq_error.2 ⟨(h.mem_names _).2 hmem, hfault⟩⟩

end Polyglot.Registry
