import Polyglot.Catalog.Supply
import Polyglot.Proofs.Catalog.Entry

/-!
# Which handlers are asked for

The handler of a version is asked for before the version is registered, so the last request may be
for a version that is refused. What is refused is a matter of keys and marks and not of handlers,
so the requests are the same for every supply, and they can be read off the catalog: they go through
all versions in the order of the document, up to the first place at which building stops.

- `LanguageEntry.StopsBehind`, `Catalog.StopsBehind`: the places at which building can stop.
- `LanguageEntry.asked_buildSuppliedFrom`, `LanguageEntry.asked_buildSupplied`,
  `Catalog.asked_buildEntriesSupplied`: the requests for versions, for an entry and for several.
- `Catalog.asked_in_document_order`: the requests, and what the versions hold.
-/

namespace Polyglot

universe u v

variable {σ : Type v} {η : Type u}

/-! ## Stops -/

/-- The list is one of the stops, and every other one comes behind it. -/
def FirstStop {α : Type u} (Stop : List α → Prop) (xs : List α) : Prop :=
  Stop xs ∧ ∀ ys, Stop ys → xs <+: ys

/-- The versions can be registered one after the other, whatever their handlers are. -/
structure VersionEntry.Acceptable (vs : List VersionEntry) : Prop where
  keys_nodup : (vs.flatMap VersionEntry.keys).Nodup
  one_default : vs.countP (·.isDefault) ≤ 1

theorem VersionEntry.Acceptable.of_isPrefix {vs ws : List VersionEntry} (h : Acceptable ws)
    (hvs : vs <+: ws) : Acceptable vs := by
  obtain ⟨rest, rfl⟩ := hvs
  refine ⟨?_, Nat.le_trans ?_ h.one_default⟩
  · have hkeys := h.keys_nodup
    rw [List.flatMap_append] at hkeys
    exact (List.nodup_append.1 hkeys).1
  · rw [List.countP_append]
    exact Nat.le_add_right _ _

/-- The requests for versions of an entry. -/
def LanguageEntry.requestsFor (e : LanguageEntry) (vs : List VersionEntry) :
    List (LanguageEntry × VersionEntry) := vs.map (e, ·)

/-- The requests for all versions of entries, entry by entry. -/
def Catalog.requests (es : List LanguageEntry) : List (LanguageEntry × VersionEntry) :=
  es.flatMap fun e => e.requestsFor e.versions

/-- Versions behind which an entry can stop: up to the first one that is refused, and all of them
if none is marked as default. -/
inductive LanguageEntry.StopsBehind (e : LanguageEntry) : List VersionEntry → Prop
  | refused {front back : List VersionEntry} {v : VersionEntry}
      (split : e.versions = front ++ v :: back)
      (accepted : VersionEntry.Acceptable front)
      (refused : ¬ VersionEntry.Acceptable (front ++ [v])) : StopsBehind e (front ++ [v])
  | missingDefault (unmarked : ∀ v ∈ e.versions, v.isDefault = false) : StopsBehind e e.versions

/-- Requests behind which entries can stop: with the first entry, or with a later one behind all
versions of the first. -/
inductive Catalog.StopsBehind :
    List LanguageEntry → List (LanguageEntry × VersionEntry) → Prop
  | here {e : LanguageEntry} {es : List LanguageEntry} {vs : List VersionEntry}
      (stop : e.StopsBehind vs) : StopsBehind (e :: es) (e.requestsFor vs)
  | later {e : LanguageEntry} {es : List LanguageEntry}
      {asked : List (LanguageEntry × VersionEntry)}
      (stop : StopsBehind es asked) : StopsBehind (e :: es) (e.requestsFor e.versions ++ asked)

namespace LanguageEntry

variable {e : LanguageEntry}

theorem StopsBehind.prefix_versions {vs : List VersionEntry} (h : e.StopsBehind vs) :
    vs <+: e.versions := by
  cases h with
  | missingDefault => exact List.prefix_refl _
  | @refused front back v split =>
    rw [split]
    exact ⟨back, by simp⟩

/-- A refused version comes before every other stop. -/
theorem firstStop_of_refused {front back : List VersionEntry} {v : VersionEntry}
    (split : e.versions = front ++ v :: back) (accepted : VersionEntry.Acceptable front)
    (refused : ¬ VersionEntry.Acceptable (front ++ [v])) :
    FirstStop e.StopsBehind (front ++ [v]) := by
  have hstop : e.StopsBehind (front ++ [v]) := .refused split accepted refused
  refine ⟨hstop, fun ys hys => ?_⟩
  cases hys with
  | missingDefault => exact hstop.prefix_versions
  | @refused front' back' v' split' accepted' refused' =>
    have hstop' : e.StopsBehind (front' ++ [v']) := .refused split' accepted' refused'
    rcases List.prefix_or_prefix_of_prefix hstop.prefix_versions hstop'.prefix_versions with h | h
    · exact h
    · -- an earlier stop would have to lie within the versions that are accepted
      rcases List.prefix_concat_iff.1 h with heq | hfront
      · exact heq ▸ List.prefix_refl _
      · exact absurd (accepted.of_isPrefix hfront) refused'

/-- Where all versions can be registered, an entry stops if none of them is marked. -/
theorem stopsBehind_iff_of_acceptable (accepted : VersionEntry.Acceptable e.versions)
    {vs : List VersionEntry} :
    e.StopsBehind vs ↔ (∀ v ∈ e.versions, v.isDefault = false) ∧ vs = e.versions := by
  constructor
  · intro h
    cases h with
    | missingDefault unmarked => exact ⟨unmarked, rfl⟩
    | @refused front back v split _ refused =>
      have hprefix : front ++ [v] <+: e.versions := ⟨back, by rw [split]; simp⟩
      exact absurd (accepted.of_isPrefix hprefix) refused
  · rintro ⟨unmarked, rfl⟩
    exact .missingDefault unmarked

end LanguageEntry

/-! ## One entry -/

namespace LanguageEntry

section

variable {supply : Supply σ η} {e : LanguageEntry} {s : σ}

/-! ### What is registered -/

theorem getElem?_suppliedRegistrations (vs : List VersionEntry) (s : σ) (j : Nat) :
    (e.suppliedRegistrations supply vs s)[j]? = (vs[j]?).map fun v =>
      e.suppliedRegistration supply v (supply.memory s (e.requestsFor (vs.take j))) := by
  induction vs generalizing s j with
  | nil => rfl
  | cons v vs ih =>
    cases j with
    | zero => rfl
    | succ j =>
      rw [suppliedRegistrations, List.getElem?_cons_succ, List.getElem?_cons_succ, ih]
      rfl

theorem flatMap_keys_suppliedRegistrations (vs : List VersionEntry) (s : σ) :
    (e.suppliedRegistrations supply vs s).flatMap Registration.keys
      = vs.flatMap VersionEntry.keys := by
  induction vs generalizing s with
  | nil => rfl
  | cons v vs ih =>
    rw [suppliedRegistrations, List.flatMap_cons, List.flatMap_cons, ih]
    rfl

theorem countP_suppliedRegistrations (vs : List VersionEntry) (s : σ) :
    (e.suppliedRegistrations supply vs s).countP (·.isDefault) = vs.countP (·.isDefault) := by
  induction vs generalizing s with
  | nil => rfl
  | cons v vs ih =>
    rw [suppliedRegistrations, List.countP_cons, List.countP_cons, ih]
    rfl

theorem acceptable_suppliedRegistrations {vs : List VersionEntry} :
    Registration.Acceptable (e.suppliedRegistrations supply vs s) ↔
      VersionEntry.Acceptable vs := by
  constructor
  · rintro ⟨hkeys, hone⟩
    rw [flatMap_keys_suppliedRegistrations] at hkeys
    rw [countP_suppliedRegistrations] at hone
    exact ⟨hkeys, hone⟩
  · rintro ⟨hkeys, hone⟩
    refine ⟨?_, ?_⟩
    · rw [flatMap_keys_suppliedRegistrations]
      exact hkeys
    · rw [countP_suppliedRegistrations]
      exact hone

/-- Versions are taken in or not whatever the handlers are. -/
theorem exists_acceptAll_supplied {vs : List VersionEntry} :
    (∃ b' : Builder η, (e.suppliedRegistrations supply vs s).foldlM Builder.accept e.builder
      = .ok b') ↔ VersionEntry.Acceptable vs := by
  rw [Builder.exists_acceptAll_eq_ok (recordsFor_builder e), acceptable_suppliedRegistrations]

/-! ### Step by step -/

/-- The supply is asked what the record of the requests says, and nothing else. -/
theorem memory_buildSuppliedFrom (vs : List VersionEntry) (b : Builder η) (s : σ) :
    (e.buildSuppliedFrom supply vs b s).2
      = supply.memory s (e.buildSuppliedFrom supply vs b s).1.asked := by
  induction vs generalizing b s with
  | nil => rfl
  | cons v vs ih =>
    cases hb : b.accept (e.suppliedRegistration supply v s) with
    | error fault => rw [buildSuppliedFrom_cons_of_error hb, Supply.memory_cons, Supply.memory_nil]
    | ok b' =>
      rw [buildSuppliedFrom_cons_of_ok hb, Supply.memory_cons]
      exact ih b' (supply.ask e v s).2

variable (supply e) in
/-- All versions are asked for if all are taken in, and otherwise those up to the first one that is
refused. -/
theorem asked_buildSuppliedFrom (vs : List VersionEntry) (b : Builder η) (s : σ) :
    (∃ b', (e.suppliedRegistrations supply vs s).foldlM Builder.accept b = .ok b') ∧
        (e.buildSuppliedFrom supply vs b s).1.asked = e.requestsFor vs ∨
      ∃ front v back, vs = front ++ v :: back ∧
        (∃ b', (e.suppliedRegistrations supply front s).foldlM Builder.accept b = .ok b') ∧
        (¬ ∃ b', (e.suppliedRegistrations supply (front ++ [v]) s).foldlM Builder.accept b
          = .ok b') ∧
        (e.buildSuppliedFrom supply vs b s).1.asked = e.requestsFor (front ++ [v]) := by
  induction vs generalizing b s with
  | nil => exact .inl ⟨⟨b, rfl⟩, rfl⟩
  | cons v vs ih =>
    cases hb : b.accept (e.suppliedRegistration supply v s) with
    | error fault =>
      refine .inr ⟨[], v, vs, rfl, ⟨b, rfl⟩, ?_, ?_⟩
      · rintro ⟨b', hb'⟩
        rw [List.nil_append, suppliedRegistrations, foldlM_cons_of_error hb] at hb'
        cases hb'
      · rw [buildSuppliedFrom_cons_of_error hb]
        rfl
    | ok b' =>
      rw [buildSuppliedFrom_cons_of_ok hb]
      -- the version at the head is taken in, so it stands in front of what the rest asks for
      obtain ⟨hall, hasked⟩ | ⟨front, w, back, rfl, hfront, hrefused, hasked⟩ :=
        ih b' (supply.ask e v s).2
      · rw [suppliedRegistrations, foldlM_cons_of_ok hb]
        exact .inl ⟨hall, congrArg ((e, v) :: ·) hasked⟩
      · refine .inr ⟨v :: front, w, back, rfl, ?_, ?_, congrArg ((e, v) :: ·) hasked⟩
        · rw [suppliedRegistrations, foldlM_cons_of_ok hb]
          exact hfront
        · rw [List.cons_append, suppliedRegistrations, foldlM_cons_of_ok hb]
          exact hrefused

/-! ### From the first version to the last -/

variable (supply e s)

/-- Whether an entry gives a module does not depend on the supply. -/
theorem exists_buildSupplied_eq_ok :
    (∃ m, (e.buildSupplied supply s).1.result = .ok m) ↔
      VersionEntry.Acceptable e.versions ∧ ∃ v ∈ e.versions, v.isDefault = true := by
  rw [buildSupplied, result_buildSuppliedFrom,
    Builder.exists_acceptAll_build_eq_ok (recordsFor_builder e), acceptable_suppliedRegistrations,
    ← List.countP_pos_iff, countP_suppliedRegistrations, List.countP_pos_iff]

/-- All versions of an entry are asked for and it gives a module, or it stops, and then the requests
end at the first stop. -/
theorem asked_buildSupplied :
    (∃ m, (e.buildSupplied supply s).1.result = .ok m) ∧ (∀ vs, ¬ e.StopsBehind vs) ∧
        (e.buildSupplied supply s).1.asked = e.requestsFor e.versions ∨
      (∃ fault, (e.buildSupplied supply s).1.result = .error fault) ∧
        ∃ vs, FirstStop e.StopsBehind vs ∧
          (e.buildSupplied supply s).1.asked = e.requestsFor vs := by
  have hok := exists_buildSupplied_eq_ok supply e s
  obtain ⟨hall, hasked⟩ | ⟨front, v, back, split, hfront, hrefused, hasked⟩ :=
    asked_buildSuppliedFrom supply e e.versions e.builder s
  · rw [exists_acceptAll_supplied] at hall
    have hstops := @stopsBehind_iff_of_acceptable e hall
    by_cases marked : ∃ v ∈ e.versions, v.isDefault = true
    · refine .inl ⟨hok.2 ⟨hall, marked⟩, fun vs hvs => ?_, hasked⟩
      obtain ⟨v, hv, hmark⟩ := marked
      rw [(hstops.1 hvs).1 v hv] at hmark
      cases hmark
    · refine .inr ⟨exists_eq_error fun h => marked (hok.1 h).2, e.versions, ⟨?_, ?_⟩, hasked⟩
      · exact .missingDefault fun v hv => Bool.eq_false_iff.2 fun hmark => marked ⟨v, hv, hmark⟩
      · exact fun vs hvs => (hstops.1 hvs).2 ▸ List.prefix_refl _
  · rw [exists_acceptAll_supplied] at hfront hrefused
    refine .inr ⟨exists_eq_error fun h => hrefused ?_, front ++ [v],
      firstStop_of_refused split hfront hrefused, hasked⟩
    exact (hok.1 h).1.of_isPrefix ⟨back, by rw [split]; simp⟩

/-- The module of an entry holds what the supply hands out for each version in its turn. -/
theorem versions_buildSupplied {m : LanguageModule η}
    (h : (e.buildSupplied supply s).1.result = .ok m) :
    m.identity = e.identity ∧ m.versions = e.versions.mapIdx fun j v =>
      ⟨e.identity, v.version, j,
        supply.answer s (e.requestsFor (e.versions.take j)) e v⟩ := by
  rw [buildSupplied, result_buildSuppliedFrom] at h
  have hidentity : m.identity = e.identity := by
    rw [Builder.identity_acceptAll h, language_builder]
  refine ⟨hidentity, ?_⟩
  rw [(Builder.isRecordOf_acceptAll (recordsFor_builder e) h).versions, hidentity]
  refine List.ext_getElem? fun j => ?_
  rw [List.getElem?_mapIdx, List.getElem?_mapIdx, getElem?_suppliedRegistrations, Option.map_map]
  rfl

end

end LanguageEntry

/-! ## All entries -/

namespace Catalog

section

variable (supply : Supply σ η)

theorem memory_buildEntriesSupplied (es : List LanguageEntry) (s : σ) :
    (buildEntriesSupplied supply es s).2
      = supply.memory s (buildEntriesSupplied supply es s).1.asked := by
  induction es generalizing s with
  | nil => rfl
  | cons e es ih =>
    have hfirst : (e.buildSupplied supply s).2
        = supply.memory s (e.buildSupplied supply s).1.asked :=
      LanguageEntry.memory_buildSuppliedFrom e.versions e.builder s
    rw [buildEntriesSupplied]
    cases (e.buildSupplied supply s).1.result with
    | error fault => exact hfirst
    | ok m =>
      show (buildEntriesSupplied supply es _).2 = supply.memory s (_ ++ _)
      rw [ih, Supply.memory_append, hfirst]

/-- The requests end at the first stop of the entries, and if there is none, all versions are asked
for and there are modules. -/
theorem asked_buildEntriesSupplied (es : List LanguageEntry) (s : σ) :
    (∃ ms, (buildEntriesSupplied supply es s).1.result = .ok ms) ∧
        (∀ asked, ¬ StopsBehind es asked) ∧
        (buildEntriesSupplied supply es s).1.asked = requests es ∨
      (∃ fault, (buildEntriesSupplied supply es s).1.result = .error fault) ∧
        FirstStop (StopsBehind es) (buildEntriesSupplied supply es s).1.asked := by
  induction es generalizing s with
  | nil =>
    refine .inl ⟨⟨[], rfl⟩, fun asked h => ?_, rfl⟩
    cases h
  | cons e es ih =>
    rw [buildEntriesSupplied]
    obtain ⟨⟨m, hm⟩, hnone, hasked⟩ | ⟨⟨fault, hfault⟩, vs, ⟨hstop, hleast⟩, hasked⟩ :=
      e.asked_buildSupplied supply s
    · -- the entry does not stop, so every stop lies behind all its versions
      simp only [hm, hasked]
      obtain ⟨⟨ms, hms⟩, hnone', hasked'⟩ | ⟨⟨fault, hfault⟩, hstop, hleast⟩ :=
        ih (e.buildSupplied supply s).2
      · refine .inl ⟨⟨m :: ms, by rw [hms]; rfl⟩, fun asked h => ?_, ?_⟩
        · cases h with
          | here stop => exact hnone _ stop
          | later stop => exact hnone' _ stop
        · rw [hasked', requests, requests, List.flatMap_cons]
      · refine .inr ⟨⟨fault, by rw [hfault]; rfl⟩, .later hstop, fun asked h => ?_⟩
        cases h with
        | here stop => exact absurd stop (hnone _)
        | later stop => exact (List.prefix_append_right_inj _).2 (hleast _ stop)
    · simp only [hfault, hasked]
      refine .inr ⟨⟨fault, rfl⟩, .here hstop, fun asked h => ?_⟩
      cases h with
      | here stop => exact (hleast _ stop).map _
      | later stop =>
        exact (hstop.prefix_versions.map _).trans (List.prefix_append _ _)

/-- The modules are those of the entries in the order of the document, each built with what the
supply remembers of the entries before it. -/
theorem modules_buildEntriesSupplied {es : List LanguageEntry} {s : σ}
    {ms : List (LanguageModule η)} (h : (buildEntriesSupplied supply es s).1.result = .ok ms) :
    ms.length = es.length ∧ ∀ (i : Nat) (e : LanguageEntry) (m : LanguageModule η),
      es[i]? = some e → ms[i]? = some m →
        (e.buildSupplied supply (supply.memory s (requests (es.take i)))).1.result = .ok m := by
  induction es generalizing s ms with
  | nil =>
    cases h
    exact ⟨rfl, fun i e m he => by cases he⟩
  | cons e es ih =>
    rw [buildEntriesSupplied] at h
    obtain ⟨⟨m, hm⟩, -, hasked⟩ | ⟨⟨fault, hfault⟩, -⟩ := e.asked_buildSupplied supply s
    · simp only [hm] at h
      have hmemory : (e.buildSupplied supply s).2
          = supply.memory s (e.requestsFor e.versions) := by
        rw [← hasked]
        exact LanguageEntry.memory_buildSuppliedFrom e.versions e.builder s
      cases hrest : (buildEntriesSupplied supply es (e.buildSupplied supply s).2).1.result with
      | error fault =>
        rw [hrest] at h
        cases h
      | ok ms' =>
        rw [hrest] at h
        cases h
        obtain ⟨hlength, hmodules⟩ := ih hrest
        refine ⟨congrArg (· + 1) hlength, fun i e' m' he hm' => ?_⟩
        cases i with
        | zero =>
          cases he
          cases hm'
          exact hm
        | succ i =>
          have hmodule := hmodules i e' m' he hm'
          rw [hmemory, ← Supply.memory_append] at hmodule
          exact hmodule
    · simp only [hfault] at h
      cases h

end

/-- The handlers are asked for version by version in the order of the document, up to the first
stop: behind the first version that is refused, or behind the last version of an entry without a
default version, whichever comes first. Where there is no stop, all versions are asked for, and only
then there are modules; they come in the order of the document, and each version holds what was
handed out for it. A supply without memory gives what its function gives. -/
theorem asked_in_document_order (supply : Supply σ η) (c : Catalog) (s : σ) :
    let built := (c.buildSupplied supply s).1
    (c.buildSupplied supply s).2 = supply.memory s built.asked ∧
      ((∃ ms, built.result = .ok ms) ∧ (∀ asked, ¬ StopsBehind c.languages asked) ∧
          built.asked = requests c.languages ∨
        (∃ fault, built.result = .error fault) ∧
          FirstStop (StopsBehind c.languages) built.asked) ∧
      (∀ ms, built.result = .ok ms → ms.length = c.languages.length ∧
        ∀ (i : Nat) (e : LanguageEntry) (m : LanguageModule η),
          c.languages[i]? = some e → ms[i]? = some m →
            m.identity = e.identity ∧ m.versions = e.versions.mapIdx fun j v =>
              ⟨e.identity, v.version, j, supply.answer s
                (requests (c.languages.take i) ++ e.requestsFor (e.versions.take j)) e v⟩) ∧
      ∀ handlerFor : LanguageEntry → VersionEntry → η,
        c.buildSupplied (.ofFunction handlerFor) s = (c.buildWith handlerFor, s) := by
  refine ⟨memory_buildEntriesSupplied supply c.languages s,
    asked_buildEntriesSupplied supply c.languages s, fun ms hms => ?_,
    fun handlerFor => buildSupplied_ofFunction handlerFor c s⟩
  obtain ⟨hlength, hmodules⟩ := modules_buildEntriesSupplied supply hms
  refine ⟨hlength, fun i e m he hm => ?_⟩
  obtain ⟨hidentity, hversions⟩ :=
    LanguageEntry.versions_buildSupplied supply e _ (hmodules i e m he hm)
  refine ⟨hidentity, hversions.trans ?_⟩
  simp only [Supply.answer, Supply.memory_append]

/-- The version whose id is taken is still asked for, and nothing behind it, so the supply is left
with the number two. -/
example :
    let ada : LanguageEntry :=
      { name := "Ada", terseName := "ada",
        versions := [{ version := "83", isDefault := true }, { version := "83" },
          { version := "95" }] }
    let built := Catalog.buildSupplied ⟨fun _ _ n => (n, n + 1)⟩ ⟨[ada, ada]⟩ 0
    built.1.asked.map (·.2.version) = ["83", "83"] ∧ built.2 = 2 := by decide

end Catalog

end Polyglot
