import Mathlib.Algebra.BigOperators.Group.List.Basic
import Mathlib.Algebra.GroupWithZero.Nat
import Mathlib.Data.List.Sort
import Polyglot.Report.Summary

/-!
# What a summary counts

A summary takes files into account one by one and keeps three counters. The invariant
`Counts` says what they are in terms of one list, the languages of the files so far; one
more file keeps it (`counts_add`), and so do any number of them (`counts_foldl`).

- `Counts.mem_byLanguage`: the names with a count are those that occur, each once.
- `Counts.eq_of_perm`: the order of the files makes no difference.
- `Counts.sum_count`: the counts of all names and the unrecognized files add up to all files.
-/

namespace Polyglot.DetectionSummary

/-! ## One more file of a language -/

section

variable {counts : List (String × Nat)}

/-- Counting a file adds one under its language and nothing under any other name. -/
theorem lookup_countUp (h : counts.Pairwise (·.1 < ·.1)) (name n : String) :
    ((countUp name counts).lookup n).getD 0
      = (counts.lookup n).getD 0 + if n = name then 1 else 0 := by
  rw [countUp, Entries.lookup_update _ name h]
  by_cases hn : n = name
  · rw [if_pos hn, if_pos hn, hn, Option.getD_some]
  · rw [if_neg hn, if_neg hn, Nat.add_zero]

/-- A language is counted for the first time or once more, and all other counts stay. -/
theorem countUp_cases (name : String) (counts : List (String × Nat)) :
    (∃ front back, counts = front ++ back ∧
        countUp name counts = front ++ (name, 1) :: back) ∨
      ∃ front n back, counts = front ++ (name, n) :: back ∧
        countUp name counts = front ++ (name, n + 1) :: back :=
  Entries.update_cases _ name counts

theorem sum_countUp (name : String) (counts : List (String × Nat)) :
    ((countUp name counts).map Prod.snd).sum = (counts.map Prod.snd).sum + 1 := by
  rcases countUp_cases name counts with
    ⟨front, back, rfl, hcounts⟩ | ⟨front, n, back, rfl, hcounts⟩
  all_goals
    rw [hcounts]
    simp only [List.map_append, List.map_cons, List.sum_append, List.sum_cons]
    omega

theorem countUp_pos (h : ∀ e ∈ counts, 0 < e.2) (name : String) :
    ∀ e ∈ countUp name counts, 0 < e.2 := by
  intro e he
  rcases countUp_cases name counts with
    ⟨front, back, rfl, hcounts⟩ | ⟨front, n, back, rfl, hcounts⟩
  all_goals
    rw [hcounts, List.mem_append, List.mem_cons] at he
    rcases he with he | rfl | he
    · exact h e (List.mem_append_left _ he)
    · exact Nat.succ_pos _
    · exact h e (by simp [he])

end

/-! ## The invariant -/

/-- The summary of files with these languages, one for each file, and with nothing else in it. -/
structure Counts (s : DetectionSummary) (languages : List (Option String)) : Prop where
  scanned : s.filesScanned = languages.length
  unrecognized : s.unrecognized = languages.count none
  count : ∀ name, s.count name = languages.count (some name)
  positive : ∀ e ∈ s.byLanguage, 0 < e.2
  total : s.filesScanned = (s.byLanguage.map Prod.snd).sum + s.unrecognized

theorem counts_empty : Counts empty [] where
  scanned := rfl
  unrecognized := rfl
  count _ := rfl
  positive _ he := nomatch he
  total := rfl

section Counts

variable {s : DetectionSummary} {languages : List (Option String)}

/-- One more file keeps the invariant. -/
theorem counts_add (h : Counts s languages) (language : Option String) :
    Counts (s.add language) (languages ++ [language]) := by
  have hscanned := h.scanned
  have htotal := h.total
  cases language with
  | none =>
    refine { scanned := ?_, unrecognized := ?_, count := fun name => ?_, positive := h.positive,
             total := ?_ }
    · rw [List.length_append, ← hscanned]
      rfl
    · rw [List.count_append, ← h.unrecognized]
      rfl
    · rw [List.count_append, ← h.count]
      rfl
    · show s.filesScanned + 1 = _ + (s.unrecognized + 1)
      rw [htotal]
      rfl
  | some name =>
    refine { scanned := ?_, unrecognized := ?_, count := fun n => ?_,
             positive := countUp_pos h.positive name, total := ?_ }
    · rw [List.length_append, ← hscanned]
      rfl
    · rw [List.count_append, ← h.unrecognized]
      rfl
    · rw [List.count_append, ← h.count]
      show ((countUp name s.byLanguage).lookup n).getD 0 = _
      rw [lookup_countUp s.ascending, List.count_singleton]
      congr 1
      by_cases hn : n = name
      · rw [if_pos hn, hn]
        simp
      · rw [if_neg hn]
        simp [Ne.symm hn]
    · show s.filesScanned + 1 = ((countUp name s.byLanguage).map Prod.snd).sum + s.unrecognized
      rw [sum_countUp, htotal]
      omega

/-- Any number of files keep the invariant. -/
theorem counts_foldl (h : Counts s languages) (more : List (Option String)) :
    Counts (more.foldl add s) (languages ++ more) := by
  induction more generalizing s languages with
  | nil =>
    rw [List.append_nil]
    exact h
  | cons language more ih =>
    have hrest := ih (counts_add h language)
    rw [List.append_assoc] at hrest
    exact hrest

/-- A name has a count when it occurs, and then the number of times it does. -/
theorem Counts.mem_byLanguage (h : Counts s languages) {name : String} {n : Nat} :
    (name, n) ∈ s.byLanguage ↔ 0 < n ∧ n = languages.count (some name) := by
  rw [← h.count, DetectionSummary.count]
  have hdistinct := Entries.nodup_of_ascending s.ascending
  constructor
  · intro hmem
    refine ⟨h.positive _ hmem, ?_⟩
    rw [(Entries.lookup_eq_some hdistinct).2 hmem, Option.getD_some]
  · rintro ⟨hpos, hn⟩
    cases hlookup : s.byLanguage.lookup name with
    | none =>
      rw [hlookup, Option.getD_none] at hn
      omega
    | some k =>
      rw [hlookup, Option.getD_some] at hn
      rw [hn]
      exact (Entries.lookup_eq_some hdistinct).1 hlookup

instance : Std.Irrefl fun e f : String × Nat => e.1 < f.1 := ⟨fun e => String.lt_irrefl e.1⟩

instance : Std.Antisymm fun e f : String × Nat => e.1 < f.1 :=
  ⟨fun _ _ hef hfe => absurd hfe (String.lt_asymm hef)⟩

/-- Files with the same languages in another order have the same summary. -/
theorem Counts.eq_of_perm (h : Counts s languages) {s' : DetectionSummary}
    {languages' : List (Option String)} (h' : Counts s' languages')
    (hperm : languages.Perm languages') : s = s' := by
  have hscanned : s.filesScanned = s'.filesScanned := by
    rw [h.scanned, h'.scanned, hperm.length_eq]
  have hunrecognized : s.unrecognized = s'.unrecognized := by
    rw [h.unrecognized, h'.unrecognized, hperm.count_eq]
  have hbyLanguage : s.byLanguage = s'.byLanguage := by
    refine s.ascending.eq_of_mem_iff s'.ascending fun e => ?_
    rw [h.mem_byLanguage, h'.mem_byLanguage, hperm.count_eq]
  exact DetectionSummary.ext hscanned hbyLanguage hunrecognized

/-- One more file of a language is counted once for each time its name is asked for. -/
theorem sum_count_some_cons (names : List String) (name : String) (languages : List (Option String)) :
    (names.map fun n => (some name :: languages).count (some n)).sum
      = (names.map fun n => languages.count (some n)).sum + names.count name := by
  induction names with
  | nil => rfl
  | cons n names ih =>
    rw [List.map_cons, List.sum_cons, ih, List.count_cons, List.map_cons, List.sum_cons,
      List.count_cons]
    by_cases h : n = name
    · rw [h, if_pos (beq_self_eq_true _), if_pos (beq_self_eq_true _)]
      omega
    · have hname : (some name == some n) = false := by simpa using Ne.symm h
      have hn : (n == name) = false := by simpa using h
      rw [hname, hn, if_neg Bool.false_ne_true]
      omega

/-- The counts of distinct names, among which are all that occur, and the unrecognized files are
all files. -/
theorem Counts.sum_count (h : Counts s languages) {names : List String} (distinct : names.Nodup)
    (all : ∀ name, some name ∈ languages → name ∈ names) :
    (names.map s.count).sum + s.unrecognized = s.filesScanned := by
  rw [funext h.count, h.unrecognized, h.scanned]
  clear h
  induction languages with
  | nil => simp
  | cons language languages ih =>
    have hrest := ih fun name hname => all name (List.mem_cons_of_mem _ hname)
    cases language with
    | none =>
      have hsame : ∀ n, (none :: languages).count (some n) = languages.count (some n) :=
        fun n => List.count_cons_of_ne (by simp)
      simp only [hsame, List.count_cons_self, List.length_cons]
      omega
    | some name =>
      have hone : names.count name = 1 :=
        List.count_eq_one_of_mem distinct (all name List.mem_cons_self)
      have hnone : (some name :: languages).count none = languages.count none :=
        List.count_cons_of_ne (by simp)
      rw [sum_count_some_cons, hone, hnone, List.length_cons]
      omega

/-- The names that are kept are those that have a count. -/
theorem Counts.mem_names (h : Counts s languages) {name : String} :
    name ∈ s.byLanguage.map Prod.fst ↔ 0 < s.count name := by
  rw [List.mem_map]
  constructor
  · rintro ⟨e, he, rfl⟩
    obtain ⟨hpos, hn⟩ := h.mem_byLanguage.1 he
    rw [h.count, ← hn]
    exact hpos
  · intro hpos
    exact ⟨(name, s.count name), h.mem_byLanguage.2 ⟨hpos, h.count name⟩, rfl⟩

/-- Where the files are as many and no other count is greater, the count of a name that had none is
what the other names and the unrecognized files have lost. -/
theorem Counts.gain_eq_losses (h : Counts s languages) {s' : DetectionSummary}
    {languages' : List (Option String)} (h' : Counts s' languages')
    (scanned : s'.filesScanned = s.filesScanned) (fewer : s'.unrecognized ≤ s.unrecognized)
    {name : String} (others : ∀ n, n ≠ name → s'.count n ≤ s.count n)
    (fresh : s.count name = 0) :
    s'.count name = (s.byLanguage.map fun e => e.2 - s'.count e.1).sum
      + (s.unrecognized - s'.unrecognized) := by
  have hdistinct : (s.byLanguage.map Prod.fst).Nodup :=
    Entries.nodup_of_ascending s.ascending
  have hfree : name ∉ s.byLanguage.map Prod.fst := by
    rw [h.mem_names, fresh]
    exact Nat.lt_irrefl 0
  have hsum := h.sum_count hdistinct fun n hn => by
    rw [h.mem_names, h.count]
    exact List.count_pos_iff.2 hn
  have hsum' := h'.sum_count (List.nodup_cons.2 ⟨hfree, hdistinct⟩) fun n hn => by
    by_cases hname : n = name
    · exact hname ▸ List.mem_cons_self
    · have hpos : 0 < s'.count n := by
        rw [h'.count]
        exact List.count_pos_iff.2 hn
      exact List.mem_cons_of_mem _ (h.mem_names.2 (Nat.lt_of_lt_of_le hpos (others n hname)))
  -- each count is what is left of it and what it lost
  have hsplit : ((s.byLanguage.map Prod.fst).map s.count).sum
      = ((s.byLanguage.map Prod.fst).map s'.count).sum
        + (s.byLanguage.map fun e => e.2 - s'.count e.1).sum := by
    rw [List.map_map, List.map_map, ← List.sum_map_add]
    congr 1
    refine List.map_congr_left fun e he => ?_
    have hcount : e.2 = s.count e.1 := by
      rw [h.count]
      exact (h.mem_byLanguage.1 he).2
    have hne : e.1 ≠ name := fun heq => hfree (heq ▸ List.mem_map_of_mem he)
    have hle := others e.1 hne
    rw [Function.comp_apply, Function.comp_apply, hcount]
    omega
  rw [List.map_cons, List.sum_cons] at hsum'
  omega

end Counts

end Polyglot.DetectionSummary
