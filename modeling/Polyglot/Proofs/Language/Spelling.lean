import Polyglot.Proofs.Language.Recognition
import Polyglot.Proofs.Language.Settings

/-!
# The spelling of extensions

An extension is kept without its first dot, and it is asked for without its first dot. So it is
recognised in the spelling in which it was given, and in every other one that has the same bare
form. Which calls gave it does not matter, and giving it again does not either.

- `addAll_repeated`: what is kept when an extension is given again.
- `run_repeated`: the builder is the same without a call that gives nothing new.
- `hasExtension_iff_given`: what is recognised, told by what was given.
- `extensions_spelled`: all of this for the module that a script builds.
-/

namespace Polyglot

universe u

variable {η : Type u}

namespace Extension

/-- Whether an extension has the bare form of one of the given ones. -/
def Spelled (given : List String) (e : String) : Prop := ∃ g ∈ given, bare e = bare g

/-- Nothing is kept of an extension that is given in another spelling or once more. -/
theorem add_repeated {given : List String} {e : String} (h : Spelled given e) :
    add (addAll [] given) e = addAll [] given := by
  obtain ⟨g, hg, heg⟩ := h
  refine add_of_not_isNew ?_
  rw [isNew, Bool.not_eq_false']
  by_cases hempty : bare e = ""
  · rw [hempty]
    rfl
  · have hmem : bare e ∈ addAll [] given := mem_addAll_nil.2 ⟨hempty, g, hg, heg.symm⟩
    rw [List.contains_iff_mem.2 hmem, Bool.or_true]

theorem addAll_repeated {front again : List String} (h : ∀ e ∈ again, Spelled front e)
    (back : List String) : addAll [] (front ++ again ++ back) = addAll [] (front ++ back) := by
  rw [addAll_append, addAll_append, addAll_append]
  congr 1
  induction again with
  | nil => rfl
  | cons e again ih =>
    obtain ⟨he, hagain⟩ := List.forall_mem_cons.1 h
    show addAll (add (addAll [] front) e) again = _
    rw [add_repeated he, ih hagain]

end Extension

namespace Builder

open Extension

/-- A call that gives nothing new can be left out. -/
theorem run_repeated {name terseName : String} {front : List (Call η)} {again : List String}
    (h : ∀ e ∈ again, Spelled (givenExtensions front) e) (back : List (Call η)) :
    (new name terseName).run (front ++ .extensions again :: back)
      = (new name terseName).run (front ++ back) := by
  rw [run_append, run_append, run_cons]
  congr 1
  refine eq_of_parts rfl ?_ rfl rfl
  have hfront : ((new name terseName).run front).extensions = addAll [] (givenExtensions front) :=
    extensions_run _ front
  have hagain := addAll_repeated h []
  rw [List.append_nil, List.append_nil, addAll_append] at hagain
  rw [extensions_after, hfront]
  exact hagain

/-- An extension is recognised when its bare form is that of a given one, and not empty. -/
theorem hasExtension_iff_given {name terseName : String} {script : List (Call η)}
    {m : LanguageModule η} (h : ((new name terseName).run script).build = .ok m) {e : String} :
    m.hasExtension e = true ↔ bare e ≠ "" ∧ Spelled (givenExtensions script) e := by
  rw [LanguageModule.hasExtension, known_iff, extensions_of_build h, mem_addAll_nil]
  exact and_congr_right fun _ => exists_congr fun g => and_congr_right fun _ => eq_comm

/-- One dot is taken off where there is one. A module keeps the bare forms of what its builder was
given, in this order, without the empty one and without repetitions. So another script that gives
the same leads to the same extensions, and so does one that gives something again, while the whole
builder is the same without a call that gives nothing new. What is recognised are the given
extensions and the other spellings of their bare forms, but for the empty one. -/
theorem extensions_spelled (name terseName : String) (script : List (Call η))
    {m : LanguageModule η} (h : ((new name terseName).run script).build = .ok m) :
    (∀ e, bare ("." ++ e) = e) ∧
      (∀ e, dotted e = false → bare e = e) ∧
      m.extensions = (((givenExtensions script).map bare).filter (!·.isEmpty)).eraseDups ∧
      (∀ script' m', ((new name terseName : Builder η).run script').build = .ok m' →
        givenExtensions script' = givenExtensions script → m'.extensions = m.extensions) ∧
      (∀ script' m', ((new name terseName : Builder η).run script').build = .ok m' →
        ∀ front again back, givenExtensions script = front ++ back →
          givenExtensions script' = front ++ again ++ back → (∀ e ∈ again, e ∈ front) →
          m'.extensions = m.extensions) ∧
      (∀ front again back, script = front ++ back →
        (∀ e ∈ again, e ∈ givenExtensions front) →
        ((new name terseName).run (front ++ .extensions again :: back)).build = .ok m) ∧
      ∀ e, m.hasExtension e = true ↔
        bare e ≠ "" ∧ ∃ g ∈ givenExtensions script, bare e = bare g := by
  refine ⟨bare_dot_append, fun _ => bare_eq_self_iff.2, ?_, fun script' m' h' hgiven => ?_, ?_, ?_,
    fun _ => hasExtension_iff_given h⟩
  · rw [extensions_of_build h, addAll_nil_left]
  · rw [extensions_of_build h, extensions_of_build h', hgiven]
  · intro script' m' h' front again back hscript hscript' hagain
    rw [extensions_of_build h, extensions_of_build h', hscript, hscript']
    exact addAll_repeated (fun e he => ⟨e, hagain e he, rfl⟩) back
  · rintro front again back rfl hagain
    rw [run_repeated (fun e he => ⟨e, hagain e he, rfl⟩) back]
    exact h

/-- One extension in several spellings, with two that have no bare form. -/
def spellings : List (Call Unit) :=
  [.extensions ["", ".", "..x"], .register { id := "1", handler := (), isDefault := true },
    .extensions [".x", "x"]]

/-- Of five spellings two are kept, and all are recognised but for those that are empty. -/
theorem extensions_spelled_spellings :
    ∃ m, ((new "X" "x").run spellings).build = .ok m ∧ m.extensions = [".x", "x"] ∧
      ["", ".", "..x", ".x", "x", "...x"].filter m.hasExtension = ["..x", ".x", "x"] := by
  obtain ⟨m, hm⟩ : ∃ m, ((new "X" "x").run spellings).build = .ok m :=
    exists_build_eq_ok.2 ⟨0, rfl⟩
  obtain ⟨-, -, hextensions, -, -, -, hknown⟩ := extensions_spelled "X" "x" spellings hm
  refine ⟨m, hm, hextensions, ?_⟩
  have hdecide : m.hasExtension = fun e : String =>
      decide (bare e ≠ "" ∧ ∃ g ∈ givenExtensions spellings, bare e = bare g) :=
    funext fun e => Bool.eq_iff_iff.2 ((hknown e).trans decide_eq_true_iff.symm)
  rw [hdecide]
  decide

end Builder

end Polyglot
