import Polyglot.Proofs.Language.Extension
import Polyglot.Proofs.Language.Record

/-!
# The extensions that a module recognises

One leading dot is taken off an extension when it is given, and one when it is asked for. An
extension that was given with one dot or with none is so recognised with a dot and without.
One that was given with two dots is kept with one: it is recognised with both of its dots, but
in the form in which it is kept another one is asked for.

- `bare_eq_self_iff`, `dotted_bare_iff`: when taking off a dot changes nothing, and when a dot
  is left.
- `extensions_of_build`: what a module keeps, in terms of what its builder was given.
- `extensions_recognised`: how what is kept is recognised.
- `dotted_extension_kept`: it is not always recognised as it is kept.
-/

namespace Polyglot

universe u

variable {η : Type u}

namespace Extension

/-- Whether an extension begins with a dot. -/
def dotted (e : String) : Bool := e.toList.head? == some '.'

/-- An extension is a dot and its bare form, or it has no dot and is bare. -/
theorem bare_cases (e : String) :
    e.toList = '.' :: (bare e).toList ∧ dotted e = true ∨ bare e = e ∧ dotted e = false := by
  unfold bare dotted
  split
  · rename_i cs h
    rw [h, String.toList_ofList]
    exact .inl ⟨rfl, rfl⟩
  · rename_i h
    refine .inr ⟨rfl, ?_⟩
    cases hcs : e.toList with
    | nil => rfl
    | cons c cs =>
      have hc : c ≠ '.' := fun hc => h cs (hc ▸ hcs)
      simpa using hc

/-- Taking off a dot gives back what the dot was put before. -/
@[simp] theorem bare_dot_append (e : String) : bare ("." ++ e) = e := by
  have hlist : ("." ++ e).toList = '.' :: e.toList := by simp
  rw [bare, hlist]
  exact String.ofList_toList

theorem bare_eq_self_iff {e : String} : bare e = e ↔ dotted e = false := by
  rcases bare_cases e with ⟨hlist, hdot⟩ | ⟨hbare, hdot⟩
  · rw [hdot]
    refine iff_of_false (fun hbare => ?_) Bool.false_ne_true.symm
    -- the bare form is shorter
    have hlength := congrArg List.length hlist
    rw [hbare, List.length_cons] at hlength
    omega
  · exact iff_of_true hbare hdot

/-- A dot is left when there were two. -/
theorem dotted_bare_iff {e : String} : dotted (bare e) = true ↔ ['.', '.'] <+: e.toList := by
  rcases bare_cases e with ⟨hlist, -⟩ | ⟨hbare, hdot⟩
  · rw [hlist, dotted, List.cons_prefix_cons, and_iff_right rfl]
    cases (bare e).toList with
    | nil => simp
    | cons c cs =>
      rw [List.head?_cons, beq_iff_eq, Option.some.injEq, List.cons_prefix_cons]
      exact ⟨fun h => ⟨h.symm, List.nil_prefix⟩, fun h => h.1.symm⟩
  · rw [hbare, hdot]
    refine iff_of_false Bool.false_ne_true ?_
    rintro ⟨cs, hcs⟩
    rw [dotted, ← hcs] at hdot
    cases hdot

/-- What is kept of given extensions: their bare forms, but for the empty one. -/
theorem mem_addAll_nil {given : List String} {e : String} :
    e ∈ addAll [] given ↔ e ≠ "" ∧ ∃ g ∈ given, bare g = e := by
  rw [addAll_nil_left, List.mem_eraseDups, List.mem_filter, List.mem_map, Bool.not_eq_true',
    and_comm]
  simp

theorem known_iff {listed : List String} {e : String} :
    known listed e = true ↔ bare e ∈ listed := List.contains_iff_mem

end Extension

namespace LanguageModule

open Extension

variable {m : LanguageModule η} {e : String}

/-- Behind a dot an extension is recognised if it is kept. -/
theorem hasExtension_dot_append : m.hasExtension ("." ++ e) = true ↔ e ∈ m.extensions := by
  rw [hasExtension, known_iff, bare_dot_append]

/-- So it is without one, if it does not begin with a dot itself. -/
theorem hasExtension_of_not_dotted (h : dotted e = false) :
    m.hasExtension e = true ↔ e ∈ m.extensions := by
  rw [hasExtension, known_iff, bare_eq_self_iff.2 h]

end LanguageModule

namespace Builder

open Extension

/-! ## What a builder was given -/

/-- The extensions that a call gives. -/
def Call.given : Call η → List String
  | .extensions given => given
  | _ => []

/-- The extensions that a script gives, in order. -/
def givenExtensions (script : List (Call η)) : List String := script.flatMap Call.given

theorem extensions_after (b : Builder η) (c : Call η) :
    (b.after c).extensions = addAll b.extensions c.given := by
  cases c with
  | shortName | extensions | strategy => rfl
  | register r =>
    show (b.register r).1.extensions = b.extensions
    cases h : b.refusal? r with
    | some fault => rw [register_of_refusal? h]
    | none =>
      rw [register_of_free h]
      rfl

theorem extensions_run (b : Builder η) (script : List (Call η)) :
    (b.run script).extensions = addAll b.extensions (givenExtensions script) := by
  induction script generalizing b with
  | nil => rfl
  | cons c cs ih =>
    rw [run_cons, ih, extensions_after, givenExtensions, givenExtensions, List.flatMap_cons,
      addAll_append]

/-- A module keeps what was given to its builder, whenever that was. -/
theorem extensions_of_build {name terseName : String} {script : List (Call η)}
    {m : LanguageModule η} (h : ((new name terseName).run script).build = .ok m) :
    m.extensions = addAll [] (givenExtensions script) := by
  obtain ⟨-, hextensions, -, -⟩ := build_eq_ok.1 h
  rw [hextensions, extensions_run]
  rfl

/-! ## What its module recognises -/

/-- What is kept is recognised behind a dot. It is recognised as it is kept if it has no dot of its
own, or if what is left without this dot is kept too. All that is kept is free of dots and
recognised in both forms exactly when nothing was given with two dots. -/
theorem extensions_recognised (name terseName : String) (script : List (Call η))
    {m : LanguageModule η} (h : ((new name terseName).run script).build = .ok m) :
    (∀ e ∈ m.extensions, m.hasExtension ("." ++ e) = true) ∧
      (∀ e ∈ m.extensions,
        m.hasExtension e = true ↔ dotted e = false ∨ bare e ∈ m.extensions) ∧
      ((∀ e ∈ m.extensions, dotted e = false ∧ m.hasExtension e = true ∧
          m.hasExtension ("." ++ e) = true) ↔
        ∀ g ∈ givenExtensions script, ¬ ['.', '.'] <+: g.toList) := by
  have hkept := extensions_of_build h
  have hbehind : ∀ e ∈ m.extensions, m.hasExtension ("." ++ e) = true :=
    fun e => LanguageModule.hasExtension_dot_append.2
  refine ⟨hbehind, fun e he => ?_, ?_⟩
  · constructor
    · intro hknown
      exact .inr (known_iff.1 hknown)
    · rintro (hdot | hbare)
      · exact (LanguageModule.hasExtension_of_not_dotted hdot).2 he
      · exact known_iff.2 hbare
  · constructor
    · intro hall g hg htwo
      -- what is kept of two dots is not empty, and it has a dot
      have hdot : dotted (bare g) = true := dotted_bare_iff.2 htwo
      have hne : bare g ≠ "" := by
        intro hempty
        rw [hempty] at hdot
        cases hdot
      have hmem : bare g ∈ m.extensions := hkept ▸ mem_addAll_nil.2 ⟨hne, g, hg, rfl⟩
      rw [(hall _ hmem).1] at hdot
      cases hdot
    · intro hnone e he
      obtain ⟨-, g, hg, rfl⟩ := mem_addAll_nil.1 (hkept ▸ he)
      have hdot : dotted (bare g) = false := by
        rw [← Bool.not_eq_true, dotted_bare_iff]
        exact hnone g hg
      exact ⟨hdot, (LanguageModule.hasExtension_of_not_dotted hdot).2 he, hbehind _ he⟩

/-! ## Two dots -/

/-- A language to which extensions are given with one dot, with none, and with two. -/
def dottedScript : List (Call Unit) :=
  [.extensions [".java", "jav"], .register { id := "17", handler := (), isDefault := true },
    .extensions ["java", "..j"]]

theorem exists_build_dottedScript : ∃ m, ((new "Java" "java").run dottedScript).build = .ok m :=
  exists_build_eq_ok.2 ⟨0, rfl⟩

/-- The two dots are recognised, and one is not, although it is kept. -/
theorem extensions_recognised_dotted :
    ∃ m, ((new "Java" "java").run dottedScript).build = .ok m ∧
      m.extensions = ["java", "jav", ".j"] ∧ m.hasExtension ("." ++ ".j") = true ∧
      m.hasExtension ".j" = false := by
  obtain ⟨m, hm⟩ := exists_build_dottedScript
  obtain ⟨hbehind, hkept, -⟩ := extensions_recognised "Java" "java" dottedScript hm
  have hextensions : m.extensions = ["java", "jav", ".j"] := extensions_of_build hm
  have hmem : ".j" ∈ m.extensions := by
    rw [hextensions]
    decide
  refine ⟨m, hm, hextensions, hbehind _ hmem, ?_⟩
  rw [← Bool.not_eq_true, hkept _ hmem, hextensions]
  decide

/-- Not everything that is kept is free of dots and recognised. -/
theorem dotted_extension_kept :
    ¬ ∀ (name terseName : String) (script : List (Call Unit)) (m : LanguageModule Unit),
      ((new name terseName).run script).build = .ok m → ∀ e ∈ m.extensions,
        dotted e = false ∧ m.hasExtension e = true ∧ m.hasExtension ("." ++ e) = true := by
  intro h
  obtain ⟨m, hm⟩ := exists_build_dottedScript
  have hmem : ".j" ∈ m.extensions := by
    rw [extensions_of_build hm]
    decide
  have hdot : dotted ".j" = false := (h "Java" "java" dottedScript m hm ".j" hmem).1
  cases hdot

end Builder

end Polyglot
