import Mathlib.Data.List.Sort
import Polyglot.Language.Registry
import Polyglot.Proofs.Text.ByteOrder

/-!
# What a registry answers

The queries of a registry scan its modules from the front; here they are told by which
modules it holds. Names are ascending, so the first module with a property is the one of
least name (`find?_eq_some`), and a name belongs to one module (`eq_of_name_eq`).

- `get?_eq_some`, `findTerse?_eq_some`, `lookup?_eq_some`: the module that a query gives.
- `get?_eq_none`, `findTerse?_eq_none`, `lookup?_eq_none`: when there is none.
- `mem_withExtension`, `withExtension_ascending`: the modules of an extension.
- `answersFrom_of_mem`: all of them, for any list of the modules that the registry holds.
-/

namespace Polyglot

universe u

variable {η : Type u}

/-- Of the modules with a property, the one of least name, in the order of the bytes. -/
structure LeastNamed (ms : List (LanguageModule η)) (p : LanguageModule η → Prop)
    (m : LanguageModule η) : Prop where
  mem : m ∈ ms
  holds : p m
  least : ∀ n ∈ ms, p n → Text.bytes m.name ≤ Text.bytes n.name

/-- Only which modules there are counts, not their order. -/
theorem LeastNamed.congr {ms ns : List (LanguageModule η)} (h : ∀ m, m ∈ ms ↔ m ∈ ns)
    {p : LanguageModule η → Prop} {m : LanguageModule η} :
    LeastNamed ms p m ↔ LeastNamed ns p m := by
  constructor
  · rintro ⟨hmem, hp, hleast⟩
    exact ⟨(h m).1 hmem, hp, fun n hn => hleast n ((h n).2 hn)⟩
  · rintro ⟨hmem, hp, hleast⟩
    exact ⟨(h m).2 hmem, hp, fun n hn => hleast n ((h n).1 hn)⟩

namespace Registry

variable {r : Registry η} {m : LanguageModule η}

/-! ## Names -/

theorem names_nodup (r : Registry η) : r.names.Nodup :=
  List.pairwise_map.2 (r.ascending.imp String.ne_of_lt)

/-- A name belongs to one module. -/
theorem eq_of_name_eq {n : LanguageModule η} (hm : m ∈ r.modules) (hn : n ∈ r.modules)
    (h : m.name = n.name) : m = n :=
  List.inj_on_of_nodup_map r.names_nodup hm hn h

/-- The names are in the strict order of their bytes. -/
theorem bytes_ascending (r : Registry η) :
    r.modules.Pairwise fun m n => Text.bytes m.name < Text.bytes n.name :=
  r.ascending.imp Text.bytes_lt_bytes

instance : Std.Irrefl fun m n : LanguageModule η => m.name < n.name :=
  ⟨fun _ => String.lt_irrefl _⟩

instance : Std.Antisymm fun m n : LanguageModule η => m.name < n.name :=
  ⟨fun _ _ hmn hnm => absurd (String.lt_trans hmn hnm) (String.lt_irrefl _)⟩

/-- A registry is which modules it holds. -/
theorem eq_of_mem_iff {s : Registry η} (h : ∀ m, m ∈ r.modules ↔ m ∈ s.modules) : r = s := by
  obtain ⟨ms, hms⟩ := r
  obtain ⟨ns, hns⟩ := s
  rw [Registry.mk.injEq]
  exact hms.eq_of_mem_iff hns h

theorem eq_of_leastNamed {n : LanguageModule η} {p : LanguageModule η → Prop}
    (hm : LeastNamed r.modules p m) (hn : LeastNamed r.modules p n) : m = n := by
  have hmn : m.name ≤ n.name := Text.bytes_le_iff.1 (hm.least n hn.mem hn.holds)
  have hnm : n.name ≤ m.name := Text.bytes_le_iff.1 (hn.least m hm.mem hm.holds)
  exact eq_of_name_eq hm.mem hn.mem (String.le_antisymm hmn hnm)

/-! ## The first module with a property -/

theorem leastNamed_of_find? {p : LanguageModule η → Bool} (h : r.modules.find? p = some m) :
    LeastNamed r.modules (p · = true) m := by
  obtain ⟨hm, front, back, hsplit, hfront⟩ := List.find?_eq_some_iff_append.1 h
  have hascending := r.bytes_ascending
  rw [hsplit] at hascending ⊢
  refine ⟨by simp, hm, fun n hn hp => ?_⟩
  rcases List.mem_append.1 hn with hn | hn
  · have hnot := hfront n hn
    rw [hp] at hnot
    cases hnot
  · rcases List.mem_cons.1 hn with rfl | hn
    · exact List.le_refl _
    · obtain ⟨-, hback, -⟩ := List.pairwise_append.1 hascending
      exact List.le_of_lt ((List.pairwise_cons.1 hback).1 n hn)

/-- The first module with a property is the one of least name. -/
theorem find?_eq_some {p : LanguageModule η → Bool} :
    r.modules.find? p = some m ↔ LeastNamed r.modules (p · = true) m := by
  refine ⟨leastNamed_of_find?, fun h => ?_⟩
  -- something is found, and as the module of least name it is the given one
  cases hfind : r.modules.find? p with
  | none => exact absurd h.holds (List.find?_eq_none.1 hfind m h.mem)
  | some n => rw [eq_of_leastNamed h (leastNamed_of_find? hfind)]

/-! ## Queries -/

theorem get?_eq_some {name : String} :
    r.get? name = some m ↔ m ∈ r.modules ∧ m.name = name := by
  rw [get?, find?_eq_some]
  constructor
  · rintro ⟨hmem, hname, -⟩
    exact ⟨hmem, beq_iff_eq.1 hname⟩
  · rintro ⟨hmem, rfl⟩
    refine ⟨hmem, beq_self_eq_true _, fun n _ hname => ?_⟩
    rw [beq_iff_eq.1 hname]
    exact List.le_refl _

theorem get?_eq_none {name : String} :
    r.get? name = none ↔ ∀ m ∈ r.modules, m.name ≠ name := by
  simp [get?]

theorem findTerse?_eq_some {terseName : String} :
    r.findTerse? terseName = some m ↔ LeastNamed r.modules (·.terseName = terseName) m := by
  rw [findTerse?, find?_eq_some]
  simp only [beq_iff_eq]

theorem findTerse?_eq_none {terseName : String} :
    r.findTerse? terseName = none ↔ ∀ m ∈ r.modules, m.terseName ≠ terseName := by
  simp [findTerse?]

/-- A module with the name comes first, and only without one the terse names count. -/
theorem lookup?_eq_some {q : String} :
    r.lookup? q = some m ↔ m ∈ r.modules ∧ m.name = q ∨
      (∀ n ∈ r.modules, n.name ≠ q) ∧ LeastNamed r.modules (·.terseName = q) m := by
  rw [lookup?, Option.or_eq_some_iff, get?_eq_some, get?_eq_none, findTerse?_eq_some]

theorem lookup?_eq_none {q : String} :
    r.lookup? q = none ↔ ∀ m ∈ r.modules, m.name ≠ q ∧ m.terseName ≠ q := by
  rw [lookup?, Option.or_eq_none_iff, get?_eq_none, findTerse?_eq_none]
  exact forall₂_and.symm

theorem mem_withExtension {e : String} :
    m ∈ r.withExtension e ↔ m ∈ r.modules ∧ m.hasExtension e = true := List.mem_filter

theorem withExtension_ascending (r : Registry η) (e : String) :
    (r.withExtension e).Pairwise fun m n => Text.bytes m.name < Text.bytes n.name :=
  r.bytes_ascending.filter _

/-! ## All queries together -/

/-- The registry answers from these modules: by name, by terse name and by extension, and where
several fit, it takes the one of least name. -/
structure AnswersFrom (r : Registry η) (ms : List (LanguageModule η)) : Prop where
  get? : ∀ name m, r.get? name = some m ↔ m ∈ ms ∧ m.name = name
  get?_none : ∀ name, r.get? name = none ↔ ∀ m ∈ ms, m.name ≠ name
  findTerse? : ∀ terseName m,
    r.findTerse? terseName = some m ↔ LeastNamed ms (·.terseName = terseName) m
  findTerse?_none : ∀ terseName,
    r.findTerse? terseName = none ↔ ∀ m ∈ ms, m.terseName ≠ terseName
  /-- A module with the name is found, whatever terse names there are. -/
  lookup?_name : ∀ q, (∃ m ∈ ms, m.name = q) → r.lookup? q = r.get? q
  lookup?_terse : ∀ q, (∀ m ∈ ms, m.name ≠ q) → r.lookup? q = r.findTerse? q
  lookup?_none : ∀ q, r.lookup? q = none ↔ ∀ m ∈ ms, m.name ≠ q ∧ m.terseName ≠ q
  withExtension : ∀ e m, m ∈ r.withExtension e ↔ m ∈ ms ∧ m.hasExtension e = true
  withExtension_ascending : ∀ e,
    (r.withExtension e).Pairwise fun m n => Text.bytes m.name < Text.bytes n.name
  withExtension_nil : ∀ e, r.withExtension e = [] ↔ ∀ m ∈ ms, m.hasExtension e = false

theorem answersFrom_of_mem {ms : List (LanguageModule η)} (h : ∀ m, m ∈ r.modules ↔ m ∈ ms) :
    r.AnswersFrom ms where
  get? name m := by rw [get?_eq_some, h]
  get?_none name := by simp only [get?_eq_none, h]
  findTerse? terseName m := by rw [findTerse?_eq_some, LeastNamed.congr h]
  findTerse?_none terseName := by simp only [findTerse?_eq_none, h]
  lookup?_name q := by
    rintro ⟨m, hm, hname⟩
    rw [lookup?, get?_eq_some.2 ⟨(h m).2 hm, hname⟩, Option.some_or]
  lookup?_terse q hq := by
    rw [lookup?, get?_eq_none.2 fun m hm => hq m ((h m).1 hm), Option.none_or]
  lookup?_none q := by simp only [lookup?_eq_none, h]
  withExtension e m := by rw [mem_withExtension, h]
  withExtension_ascending := r.withExtension_ascending
  withExtension_nil e := by simp [withExtension, List.filter_eq_nil_iff, h]

end Registry

end Polyglot
