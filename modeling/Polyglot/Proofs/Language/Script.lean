import Polyglot.Language.Builder

/-!
# Scripts of calls on a builder

A script goes on after a refusal, with the builder that the refused call leaves.

- `register_of_refusal?`, `register_of_free`: the two ways in which a registration
  goes.
- `accepted`: the registrations of a script that were accepted, in order.
- `kept_leaves_no_trace`: refused registrations can be deleted from a script. The
  two runs go through the same builders, which is what carries the induction: a
  refused registration leaves the very builder that it found.
-/

namespace Polyglot.Builder

universe u

variable {η : Type u}

/-! ## One registration -/

theorem refusal?_eq_none {b : Builder η} {r : Registration η} :
    b.refusal? r = none ↔
      b.table.collision? r.keys = none ∧ (r.isDefault = true → b.default? = none) := by
  have hdefault : b.defaultVersion? = none ↔ b.default? = none := by
    rw [← Option.isNone_iff_eq_none, ← Option.isNone_iff_eq_none, ← Option.not_isSome,
      ← Option.not_isSome, b.default?_isSome]
  rw [refusal?, ← hdefault]
  cases b.table.collision? r.keys with
  | some key => simp
  | none =>
    cases r.isDefault with
    | false => simp
    | true => cases b.defaultVersion? <;> simp

/-- A refused registration leaves the builder that it found. -/
theorem register_of_refusal? {b : Builder η} {r : Registration η} {fault : RegistryError}
    (h : b.refusal? r = some fault) : b.register r = (b, .error fault) := by
  unfold register
  split
  · rename_i fault' h'
    rw [h] at h'
    rw [Option.some.inj h']
  · rename_i h'
    rw [h] at h'
    cases h'

/-- A registration with nothing against it is stored. -/
theorem register_of_free {b : Builder η} {r : Registration η} (h : b.refusal? r = none) :
    b.register r = (b.store r (collision?_eq_none_of_refusal? h), .ok ()) := by
  unfold register
  split
  · rename_i fault h'
    rw [h] at h'
    cases h'
  · rfl

/-! ## Transcripts -/

/-- Whether a line of a transcript is a refused registration. -/
def refused : Call η × Except RegistryError Unit → Bool
  | (.register _, .error _) => true
  | _ => false

/-- The registration that a line of a transcript tells of, if it was accepted. -/
def acceptance? : Call η × Except RegistryError Unit → Option (Registration η)
  | (.register r, .ok ()) => some r
  | _ => none

/-- The registrations of a script that were accepted, in order. -/
def accepted (b : Builder η) (script : List (Call η)) : List (Registration η) :=
  (b.transcript script).filterMap acceptance?

/-- A script without its refused registrations. -/
def kept (b : Builder η) (script : List (Call η)) : List (Call η) :=
  ((b.transcript script).filter fun line => !refused line).map Prod.fst

theorem run_cons (b : Builder η) (c : Call η) (cs : List (Call η)) :
    b.run (c :: cs) = (b.after c).run cs := rfl

theorem transcript_cons (b : Builder η) (c : Call η) (cs : List (Call η)) :
    b.transcript (c :: cs) = (c, (b.perform c).value.2) :: (b.after c).transcript cs := rfl

/-- What a call does to the builder and to its record: a registration is refused and changes
nothing, or it is stored; any other call succeeds. -/
theorem perform_cases (b : Builder η) (c : Call η) :
    (∃ r fault, c = .register r ∧ b.refusal? r = some fault ∧
        (b.perform c).value = (b, .error fault)) ∨
      (∃ r, ∃ h : b.refusal? r = none, c = .register r ∧
        (b.perform c).value = (b.store r (collision?_eq_none_of_refusal? h), .ok ())) ∨
      ((∀ r, c ≠ .register r) ∧ (b.perform c).value.2 = .ok ()) := by
  cases c with
  | shortName value => exact .inr (.inr ⟨by simp, rfl⟩)
  | extensions given => exact .inr (.inr ⟨by simp, rfl⟩)
  | strategy value => exact .inr (.inr ⟨by simp, rfl⟩)
  | register r =>
    cases h : b.refusal? r with
    | some fault => exact .inl ⟨r, fault, rfl, h, register_of_refusal? h⟩
    | none => exact .inr (.inl ⟨r, h, rfl, register_of_free h⟩)

/-- A call is a refused registration, and then it changes nothing, or it succeeds. -/
theorem refused_or_ok (b : Builder η) (c : Call η) :
    refused (c, (b.perform c).value.2) = true ∧ b.after c = b ∨
      refused (c, (b.perform c).value.2) = false ∧ (b.perform c).value.2 = .ok () := by
  obtain ⟨r, fault, rfl, _, h⟩ | ⟨r, _, rfl, h⟩ | ⟨_, h⟩ := b.perform_cases c
  · rw [after, h]
    exact .inl ⟨rfl, rfl⟩
  · rw [h]
    exact .inr ⟨rfl, rfl⟩
  · rw [h]
    refine .inr ⟨?_, rfl⟩
    cases c <;> rfl

theorem kept_cons_of_refused {b : Builder η} {c : Call η}
    (h : refused (c, (b.perform c).value.2) = true) (cs : List (Call η)) :
    b.kept (c :: cs) = (b.after c).kept cs := by
  simp [kept, transcript_cons, h]

theorem kept_cons_of_ok {b : Builder η} {c : Call η}
    (h : refused (c, (b.perform c).value.2) = false) (cs : List (Call η)) :
    b.kept (c :: cs) = c :: (b.after c).kept cs := by
  simp [kept, transcript_cons, h]

/-! ## Refused registrations -/

theorem run_kept (b : Builder η) (script : List (Call η)) :
    b.run (b.kept script) = b.run script := by
  induction script generalizing b with
  | nil => rfl
  | cons c cs ih =>
    rcases b.refused_or_ok c with ⟨hc, hb⟩ | ⟨hc, -⟩
    · have hrest := ih (b.after c)
      rw [kept_cons_of_refused hc, run_cons, ← hrest, hb]
    · rw [kept_cons_of_ok hc, run_cons, run_cons, ih (b.after c)]

theorem transcript_kept (b : Builder η) (script : List (Call η)) :
    b.transcript (b.kept script) = (b.transcript script).filter fun line => !refused line := by
  induction script generalizing b with
  | nil => rfl
  | cons c cs ih =>
    rw [transcript_cons, List.filter_cons]
    rcases b.refused_or_ok c with ⟨hc, hb⟩ | ⟨hc, -⟩
    · have hrest := ih (b.after c)
      rw [kept_cons_of_refused hc, hc, Bool.not_true, if_neg Bool.false_ne_true, ← hrest, hb]
    · rw [kept_cons_of_ok hc, transcript_cons, hc, Bool.not_false, if_pos rfl,
        ih (b.after c)]

/-- Every line of a transcript is a refused registration or a success. -/
theorem ok_of_mem_transcript {b : Builder η} {script : List (Call η)}
    {line : Call η × Except RegistryError Unit} (h : line ∈ b.transcript script)
    (hline : refused line = false) : line.2 = .ok () := by
  induction script generalizing b with
  | nil => cases h
  | cons c cs ih =>
    rcases List.mem_cons.1 h with rfl | h
    · rcases b.refused_or_ok c with ⟨hc, -⟩ | ⟨-, hok⟩
      · rw [hc] at hline
        cases hline
      · exact hok
    · exact ih h

/-- Refused registrations leave no trace: without them every call of the script is accepted, the
calls that remain go as they went before, and the builder is the same in the end, so it gives the
same module or the same error. -/
theorem kept_leaves_no_trace (b : Builder η) (script : List (Call η)) :
    (∀ line ∈ b.transcript (b.kept script), line.2 = .ok ()) ∧
      b.transcript (b.kept script) = (b.transcript script).filter (fun line => !refused line) ∧
      b.run (b.kept script) = b.run script ∧
      (b.run (b.kept script)).build = (b.run script).build := by
  refine ⟨fun line hline => ?_, b.transcript_kept script, b.run_kept script, ?_⟩
  · rw [transcript_kept, List.mem_filter] at hline
    exact ok_of_mem_transcript hline.1 (by simpa using hline.2)
  · rw [run_kept]

end Polyglot.Builder
