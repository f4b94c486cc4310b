import Polyglot.Proofs.Files.Path
import Polyglot.Proofs.Files.Scan
import Polyglot.Proofs.Language.Query
import Polyglot.Proofs.Language.Recognition

/-!
# Extensions that take part in detection

A module keeps every text as an extension, but the language of a path is looked up with what
the path has behind its last dot, and in that there is neither a dot nor a slash. So an
extension that has one of them is kept in vain: without it every path has the language that it
has with it, although the extension is still recognised when it is asked for. Any other one
decides over all file names that end in it.

- `LanguageModule.IsBuilt`: the modules that a builder can give.
- `Registry.dropExtension`: the registry without an extension.
- `detect?_dropExtension_of_ne`, `detect?_dropExtension_of_eq`: which paths see the difference.
- `extension_takes_part`: which extensions take part in detection.
-/

namespace Polyglot

universe u

variable {η : Type u}

namespace LanguageModule

/-- A builder gives this module behind some script. -/
def IsBuilt (m : LanguageModule η) : Prop :=
  ∃ (name terseName : String) (script : List (Builder.Call η)),
    ((Builder.new name terseName).run script).build = .ok m

/-- The module without an extension. -/
def dropExtension (e : String) (m : LanguageModule η) : LanguageModule η :=
  { m with extensions := m.extensions.filter (· != e) }

theorem IsBuilt.ne_empty {m : LanguageModule η} (h : m.IsBuilt) {e : String}
    (he : e ∈ m.extensions) : e ≠ "" := by
  obtain ⟨name, terseName, script, hbuild⟩ := h
  rw [Builder.extensions_of_build hbuild] at he
  exact (Extension.mem_addAll_nil.1 he).1

/-- An extension without dots is recognised if it is kept. -/
theorem hasExtension_iff_mem {e : String} (hdot : '.' ∉ e.toList) {m : LanguageModule η} :
    m.hasExtension e = true ↔ e ∈ m.extensions := by
  refine hasExtension_of_not_dotted ?_
  rw [Extension.dotted, beq_eq_false_iff_ne]
  exact fun hhead => hdot (List.mem_of_head? hhead)

theorem mem_extensions_dropExtension {e x : String} {m : LanguageModule η} :
    x ∈ (m.dropExtension e).extensions ↔ x ∈ m.extensions ∧ x ≠ e := by
  rw [dropExtension, List.mem_filter, bne_iff_ne]

/-- Whether another extension is recognised does not depend on the one that is dropped. -/
theorem hasExtension_dropExtension {e x : String} (hdot : '.' ∉ x.toList) (hne : x ≠ e)
    (m : LanguageModule η) : (m.dropExtension e).hasExtension x = m.hasExtension x := by
  rw [Bool.eq_iff_iff, hasExtension_iff_mem hdot, hasExtension_iff_mem hdot,
    mem_extensions_dropExtension]
  exact and_iff_left hne

end LanguageModule

namespace Registry

open LanguageModule

/-- The registry with an extension taken from all modules that keep it. -/
def dropExtension (e : String) (r : Registry η) : Registry η where
  modules := r.modules.map (LanguageModule.dropExtension e)
  ascending := by
    rw [List.pairwise_map]
    exact r.ascending

section

variable {r : Registry η} {e : String} {p : Path}

/-- A path with another extension keeps its language. -/
theorem detect?_dropExtension_of_ne (r : Registry η) (h : p.extensionText? ≠ some e) :
    (r.dropExtension e).detect? p = (r.detect? p).map (·.dropExtension e) := by
  rw [detect?, detect?]
  cases hx : p.extensionText? with
  | none => rfl
  | some x =>
    have hne : x ≠ e := fun heq => h (hx.trans (congrArg some heq))
    have hdot : '.' ∉ x.toList := (Path.free_of_extensionText? hx).2
    have hsame : ((·.hasExtension x) ∘ fun m : LanguageModule η => m.dropExtension e)
        = (·.hasExtension x) := by
      funext m
      exact hasExtension_dropExtension hdot hne m
    show (r.modules.map _).find? _ = (r.modules.find? _).map _
    rw [List.find?_map, hsame]

/-- A path with this extension has no language left. -/
theorem detect?_dropExtension_of_eq (r : Registry η) (h : p.extensionText? = some e) :
    (r.dropExtension e).detect? p = none := by
  have hdot : '.' ∉ e.toList := (Path.free_of_extensionText? h).2
  rw [detect?, h]
  refine List.find?_eq_none.2 fun n hn => ?_
  obtain ⟨m, -, rfl⟩ := List.mem_map.1 hn
  rw [hasExtension_iff_mem hdot, mem_extensions_dropExtension]
  exact fun hkept => hkept.2 rfl

/-- The language of a path with this extension is the first of those that recognise it. -/
theorem detect?_of_extensionText? (h : p.extensionText? = some e) :
    r.detect? p = (r.withExtension e).head? := by
  rw [detect?, h, withExtension, List.head?_filter]
  rfl

/-- Where an extension without dots is kept, the first module that recognises it is the one of
least name that keeps it. -/
theorem exists_leastNamed_of_kept {n : LanguageModule η} (hdot : '.' ∉ e.toList)
    (hn : n ∈ r.modules) (hkept : e ∈ n.extensions) :
    ∃ m, r.modules.find? (·.hasExtension e) = some m ∧
      LeastNamed r.modules (e ∈ ·.extensions) m := by
  cases hfind : r.modules.find? (·.hasExtension e) with
  | none => exact absurd ((hasExtension_iff_mem hdot).2 hkept) (List.find?_eq_none.1 hfind n hn)
  | some m =>
    have hleast := leastNamed_of_find? hfind
    simp only [hasExtension_iff_mem hdot] at hleast
    exact ⟨m, rfl, hleast⟩

end

/-- An extension that is kept takes part in the detection of paths exactly if it has neither a dot
nor a slash. Then it decides over every name that ends in a dot and it: the language is the one of
least name that keeps it, and without it there is none. Otherwise no path has another language
without it, although the modules that keep it recognise it behind a dot, and if it does not begin
with a dot, as it is. -/
theorem extension_takes_part (r : Registry η) (built : ∀ m ∈ r.modules, m.IsBuilt) {e : String}
    (kept : ∃ m ∈ r.modules, e ∈ m.extensions) :
    ('.' ∉ e.toList ∧ '/' ∉ e.toList →
      ∀ front stem : List UInt8, Path.EndsOpen front → stem ≠ [] → Path.slash ∉ stem →
        let p : Path := ⟨front ++ (stem ++ Path.dot :: Text.bytes e)⟩
        ∃ m, r.detect? p = some m ∧ LeastNamed r.modules (e ∈ ·.extensions) m ∧
          (r.withExtension e).head? = some m ∧ (r.dropExtension e).detect? p = none) ∧
      ('.' ∈ e.toList ∨ '/' ∈ e.toList →
        (∀ p, (r.dropExtension e).detect? p = (r.detect? p).map (·.dropExtension e)) ∧
          ∀ m ∈ r.modules, e ∈ m.extensions →
            m ∈ r.withExtension ("." ++ e) ∧
              (Extension.dotted e = false → m ∈ r.withExtension e)) := by
  obtain ⟨n, hn, hkept⟩ := kept
  have hne : e ≠ "" := (built n hn).ne_empty hkept
  constructor
  · rintro ⟨hdot, hslash⟩ front stem hfront hstem hstem_free p
    have hext : p.extensionText? = some e :=
      Path.extensionText?_append hfront hstem hstem_free hne hslash hdot
    obtain ⟨m, hfind, hleast⟩ := exists_leastNamed_of_kept hdot hn hkept
    have hfirst : (r.withExtension e).head? = some m := List.head?_filter.trans hfind
    exact ⟨m, (detect?_of_extensionText? hext).trans hfirst, hleast, hfirst,
      r.detect?_dropExtension_of_eq hext⟩
  · intro hdead
    refine ⟨fun p => ?_, fun m hm he => ⟨?_, fun hdotted => ?_⟩⟩
    · -- the path would have an extension with a dot or a slash
      refine r.detect?_dropExtension_of_ne fun hext => ?_
      obtain ⟨hslash, hdot⟩ := Path.free_of_extensionText? hext
      exact hdead.elim hdot hslash
    · exact mem_withExtension.2 ⟨hm, hasExtension_dot_append.2 he⟩
    · exact mem_withExtension.2 ⟨hm, (hasExtension_of_not_dotted hdotted).2 he⟩

/-! ## An extension inside another -/

/-- Two languages with an extension in common; one keeps a longer form of it too. -/
def qtAndTypeScript : Registry Unit where
  modules := [oneVersion "Qt Linguist" "qt" "6.7" ["ts"],
    oneVersion "TypeScript" "ts" "5.4" ["ts", "d.ts"]]
  ascending := by decide

/-- A module with one version is given by a builder, if its extensions have no dots in front and
none of them is empty or stands twice. -/
theorem oneVersion_isBuilt (name terseName id : String) {extensions : List String}
    (h : Extension.addAll [] extensions = extensions) :
    (oneVersion name terseName id extensions).IsBuilt := by
  refine ⟨name, terseName, [.extensions extensions,
    .register { id, handler := (), isDefault := true }], ?_⟩
  exact Builder.build_eq_ok.2 ⟨rfl, h.symm, rfl, rfl⟩

theorem qtAndTypeScript_built : ∀ m ∈ qtAndTypeScript.modules, m.IsBuilt := by
  intro m hm
  rcases List.mem_cons.1 hm with rfl | hm
  · exact oneVersion_isBuilt _ _ _ (by decide)
  · rw [List.mem_singleton.1 hm]
    exact oneVersion_isBuilt _ _ _ (by decide)

/-- A name that ends in the longer form goes by the shorter one, and the longer one is dead. -/
theorem extension_takes_part_declarations :
    (∀ m ∈ qtAndTypeScript.modules, m.IsBuilt) ∧
      (∃ m ∈ qtAndTypeScript.modules, "ts" ∈ m.extensions) ∧
      (∃ m ∈ qtAndTypeScript.modules, "d.ts" ∈ m.extensions) ∧
      (∃ m, qtAndTypeScript.detect?
          ⟨Text.bytes "src/" ++ (Text.bytes "app.d" ++ Path.dot :: Text.bytes "ts")⟩ = some m ∧
        m.name = "Qt Linguist") ∧
      (∀ p, (qtAndTypeScript.dropExtension "d.ts").detect? p
        = (qtAndTypeScript.detect? p).map (·.dropExtension "d.ts")) ∧
      (qtAndTypeScript.withExtension "d.ts").map (·.name) = ["TypeScript"] := by
  have hshort : ∃ m ∈ qtAndTypeScript.modules, "ts" ∈ m.extensions :=
    ⟨_, List.mem_cons_self, by decide⟩
  have hlong : ∃ m ∈ qtAndTypeScript.modules, "d.ts" ∈ m.extensions :=
    ⟨_, List.mem_cons_of_mem _ List.mem_cons_self, by decide⟩
  obtain ⟨hlive, -⟩ := extension_takes_part qtAndTypeScript qtAndTypeScript_built hshort
  obtain ⟨-, hdead⟩ := extension_takes_part qtAndTypeScript qtAndTypeScript_built hlong
  refine ⟨qtAndTypeScript_built, hshort, hlong, ?_, (hdead (by decide)).1, by decide +kernel⟩
  obtain ⟨m, hdetect, -, hfirst, -⟩ := hlive (by decide) (Text.bytes "src/")
    (Text.bytes "app.d") (.inr (by decide +kernel)) (by decide +kernel) (by decide +kernel)
  have hname : (qtAndTypeScript.withExtension "ts").head?.map (·.name) = some "Qt Linguist" := by
    decide +kernel
  rw [hfirst] at hname
  exact ⟨m, hdetect, Option.some.inj hname⟩

end Registry

end Polyglot
