import Mathlib.Data.List.Dedup
import Polyglot.Proofs.Language.Query
import Polyglot.Proofs.Language.Registry

/-!
# Sequences of insertions

A sequence of insertions goes on after a refusal, with the registry as it was. Of the
modules of one name the first is taken in and the others are refused, whatever stands
between them.

- `accepted`: the modules of a sequence that were taken in, in order.
- `mem_accepted`: they are the modules that are the first of their name.
- `mem_modules_run`: they are what the registry holds in the end.
- `run_holds_first_modules`: what becomes of a next insertion, and what every query gives.
-/

namespace Polyglot

universe u

variable {η : Type u}

/-- The module stands in the list, and none before it has its name. -/
def LanguageModule.FirstOfName (ms : List (LanguageModule η)) (m : LanguageModule η) : Prop :=
  ∃ front back, ms = front ++ m :: back ∧ ∀ n ∈ front, n.name ≠ m.name

namespace LanguageModule

theorem not_firstOfName_nil (m : LanguageModule η) : ¬ FirstOfName [] m := by
  rintro ⟨front, back, h, -⟩
  cases front <;> cases h

theorem firstOfName_cons {n m : LanguageModule η} {ms : List (LanguageModule η)} :
    FirstOfName (n :: ms) m ↔ m = n ∨ n.name ≠ m.name ∧ FirstOfName ms m := by
  constructor
  · rintro ⟨front, back, heq, hfront⟩
    cases front with
    | nil => exact .inl (List.cons.inj heq).1.symm
    | cons k front =>
      obtain ⟨rfl, rfl⟩ := List.cons.inj heq
      obtain ⟨hk, hfront⟩ := List.forall_mem_cons.1 hfront
      exact .inr ⟨hk, front, back, rfl, hfront⟩
  · rintro (rfl | ⟨hne, front, back, rfl, hfront⟩)
    · exact ⟨[], ms, rfl, List.forall_mem_nil _⟩
    · exact ⟨n :: front, back, rfl, List.forall_mem_cons.2 ⟨hne, hfront⟩⟩

end LanguageModule

namespace Registry

open LanguageModule

/-! ## Sequences -/

/-- The registry that an insertion leaves; a refused one leaves the registry as it was. -/
def after (r : Registry η) (m : LanguageModule η) : Registry η :=
  match r.insert m with
  | .ok r' => r'
  | .error _ => r

/-- The registry that insertions leave one after the other. -/
def run (r : Registry η) (ms : List (LanguageModule η)) : Registry η := ms.foldl after r

/-- The modules of a sequence that are taken in, in order. -/
def accepted (r : Registry η) : List (LanguageModule η) → List (LanguageModule η)
  | [] => []
  | m :: ms =>
    if (r.insert m).isOk then m :: (r.after m).accepted ms else (r.after m).accepted ms

theorem run_cons (r : Registry η) (m : LanguageModule η) (ms : List (LanguageModule η)) :
    r.run (m :: ms) = (r.after m).run ms := rfl

theorem run_concat (r : Registry η) (ms : List (LanguageModule η)) (m : LanguageModule η) :
    r.run (ms ++ [m]) = (r.run ms).after m := List.foldl_concat after r m ms

/-- What an insertion does: the name is taken and nothing changes, or the module is accepted. -/
theorem after_cases (r : Registry η) (m : LanguageModule η) :
    (m.name ∈ r.names ∧ r.after m = r ∧ ∀ ms, r.accepted (m :: ms) = r.accepted ms) ∨
      ∃ r', r.insert m = .ok r' ∧ r.after m = r' ∧
        ∀ ms, r.accepted (m :: ms) = m :: r'.accepted ms := by
  cases h : r.insert m with
  | error fault =>
    have hafter : r.after m = r := by rw [after, h]
    refine .inl ⟨(insert_eq_error.1 h).1, hafter, fun ms => ?_⟩
    rw [accepted, h, hafter]
    rfl
  | ok r' =>
    have hafter : r.after m = r' := by rw [after, h]
    refine .inr ⟨r', rfl, hafter, fun ms => ?_⟩
    rw [accepted, h, hafter]
    rfl

/-- The registry holds what it held before and what was accepted. -/
theorem mem_modules_run (r : Registry η) (ms : List (LanguageModule η)) (n : LanguageModule η) :
    n ∈ (r.run ms).modules ↔ n ∈ r.modules ∨ n ∈ r.accepted ms := by
  induction ms generalizing r with
  | nil => simp [run, accepted]
  | cons m ms ih =>
    rw [run_cons, ih]
    obtain ⟨-, hafter, haccepted⟩ | ⟨r', hr', hafter, haccepted⟩ := r.after_cases m
    · rw [hafter, haccepted]
    · -- the module goes from the head of the accepted ones into the registry
      rw [hafter, haccepted, mem_modules_insert hr', List.mem_cons, or_assoc, or_left_comm]

/-- The registry has the names that it had before and those of the sequence, accepted or not. -/
theorem mem_names_run (r : Registry η) (ms : List (LanguageModule η)) (name : String) :
    name ∈ (r.run ms).names ↔ name ∈ r.names ∨ name ∈ ms.map LanguageModule.name := by
  induction ms generalizing r with
  | nil => simp [run]
  | cons m ms ih =>
    rw [run_cons, ih, List.map_cons, List.mem_cons]
    obtain ⟨htaken, hafter, -⟩ | ⟨r', hr', hafter, -⟩ := r.after_cases m
    · rw [hafter]
      constructor
      · exact Or.imp_right .inr
      · rintro (h | rfl | h)
        · exact .inl h
        · exact .inl htaken
        · exact .inr h
    · rw [hafter, mem_names_insert hr', or_assoc, or_left_comm]

/-- A module is accepted when its name is free at the start and it is the first of its name. -/
theorem mem_accepted (r : Registry η) (ms : List (LanguageModule η)) (n : LanguageModule η) :
    n ∈ r.accepted ms ↔ n.name ∉ r.names ∧ FirstOfName ms n := by
  induction ms generalizing r with
  | nil => simp [accepted, not_firstOfName_nil]
  | cons m ms ih =>
    rw [firstOfName_cons]
    obtain ⟨htaken, -, haccepted⟩ | ⟨r', hr', -, haccepted⟩ := r.after_cases m
    · -- the name of the refused module is taken, so a module with a free name is another one
      rw [haccepted, ih]
      refine and_congr_right fun hn => ?_
      have hne : m.name ≠ n.name := fun h => hn (h ▸ htaken)
      constructor
      · exact fun h => .inr ⟨hne, h⟩
      · rintro (rfl | ⟨-, h⟩)
        · exact absurd rfl hne
        · exact h
    · -- the name of the accepted module is taken behind it, so nothing of its name follows
      have hfree : m.name ∉ r.names := exists_insert_eq_ok.1 ⟨r', hr'⟩
      rw [haccepted, List.mem_cons, ih, mem_names_insert hr', not_or]
      constructor
      · rintro (rfl | ⟨⟨hne, hn⟩, h⟩)
        · exact ⟨hfree, .inl rfl⟩
        · exact ⟨hn, .inr ⟨Ne.symm hne, h⟩⟩
      · rintro ⟨hn, rfl | ⟨hne, h⟩⟩
        · exact .inl rfl
        · exact .inr ⟨⟨Ne.symm hne, hn⟩, h⟩

/-! ## Sequences from the start -/

theorem mem_modules_run_empty (ms : List (LanguageModule η)) (n : LanguageModule η) :
    n ∈ (empty.run ms).modules ↔ n ∈ empty.accepted ms := by
  rw [mem_modules_run]
  exact or_iff_right (List.not_mem_nil)

theorem mem_accepted_empty (ms : List (LanguageModule η)) (n : LanguageModule η) :
    n ∈ empty.accepted ms ↔ FirstOfName ms n := by
  rw [mem_accepted]
  exact and_iff_right (List.not_mem_nil)

/-- There are as many modules as there are names. -/
theorem size_run_empty (ms : List (LanguageModule η)) :
    ((empty : Registry η).run ms).size = (ms.map LanguageModule.name).dedup.length := by
  have hnames : ((empty : Registry η).run ms).names.Perm (ms.map LanguageModule.name).dedup := by
    rw [List.perm_ext_iff_of_nodup (names_nodup _) (List.nodup_dedup _)]
    intro name
    rw [mem_names_run, List.mem_dedup]
    exact or_iff_right (List.not_mem_nil)
  rw [← hnames.length_eq, names, List.length_map, size]

/-- The name of an accepted module is taken from then on. -/
theorem mem_names_run_empty (ms : List (LanguageModule η)) (name : String) :
    name ∈ (empty.run ms : Registry η).names ↔ ∃ n ∈ empty.accepted ms, n.name = name := by
  simp only [names, List.mem_map, mem_modules_run_empty]

/-- A registry is the first module of each name. An insertion is refused exactly when a module of
the name was accepted before, and then nothing changes; the modules are in strict order of the
bytes of their names, and every query is answered from the accepted ones. -/
theorem run_holds_first_modules (ms : List (LanguageModule η)) :
    let r := (empty : Registry η).run ms
    let kept := (empty : Registry η).accepted ms
    (∀ m fault, r.insert m = .error fault ↔
        (∃ n ∈ kept, n.name = m.name) ∧ fault = .duplicateLanguage m.name) ∧
      (∀ m, (∃ n ∈ kept, n.name = m.name) → (empty : Registry η).run (ms ++ [m]) = r) ∧
      (∀ m, m ∈ kept ↔ FirstOfName ms m) ∧
      (∀ m, m ∈ r.modules ↔ FirstOfName ms m) ∧
      r.modules.Pairwise (fun m n => Text.bytes m.name < Text.bytes n.name) ∧
      r.size = (ms.map LanguageModule.name).dedup.length ∧
      r.AnswersFrom kept ∧
      ∀ ms', (∀ m, FirstOfName ms' m ↔ FirstOfName ms m) → (empty : Registry η).run ms' = r := by
  intro r kept
  refine ⟨fun m fault => ?_, fun m hm => ?_, mem_accepted_empty ms, fun m => ?_,
    r.bytes_ascending, size_run_empty ms, answersFrom_of_mem (mem_modules_run_empty ms),
    fun ms' hms' => eq_of_mem_iff fun m => ?_⟩
  · rw [insert_eq_error, mem_names_run_empty]
  · rw [← mem_names_run_empty] at hm
    rw [run_concat, after, insert_eq_error.2 ⟨hm, rfl⟩]
  · rw [mem_modules_run_empty, mem_accepted_empty]
  · rw [mem_modules_run_empty, mem_modules_run_empty, mem_accepted_empty, mem_accepted_empty, hms']

end Registry

end Polyglot
