import Polyglot.Proofs.Language.Query
import Polyglot.Proofs.Language.Request

/-!
# Resolving texts to versions

A registry resolves a text by reading it as a request (`resolve?_eq_answer?`) and answering
this from the module of the terse name.

- `resolve?_grammar`: which texts give a version.
- `resolve?_terseName_iff`: for which versions the text that is printed for them leads back to
  them.
-/

namespace Polyglot

universe u

variable {η : Type u}

/-- The version that a registry has for a request. -/
def Request.answer? (q : Request) (r : Registry η) : Option (Version η) :=
  (r.findTerse? q.terseName).bind fun m =>
    match q.key? with
    | some key => m.get? key
    | none => some m.defaultVersion

/-! ## Versions of modules -/

namespace LanguageModule

theorem mem_versions_of_get? {m : LanguageModule η} {key : String} {v : Version η}
    (h : m.get? key = some v) : v ∈ m.versions := by
  obtain ⟨i, -, hi⟩ := Option.bind_eq_some_iff.1 h
  exact List.mem_of_getElem? hi

theorem language_of_mem {m : LanguageModule η} {v : Version η} (h : v ∈ m.versions) :
    v.language = m.identity := m.table.language_eq v h

theorem terseName_of_mem {m : LanguageModule η} {v : Version η} (h : v ∈ m.versions) :
    v.terseName = qualify m.terseName v.id := by
  rw [Version.terseName, language_of_mem h]
  rfl

end LanguageModule

namespace Registry

/-- A version belongs to one module. -/
theorem eq_of_mem_versions {r : Registry η} {m n : LanguageModule η} {v : Version η}
    (hm : m ∈ r.modules) (hn : n ∈ r.modules) (hvm : v ∈ m.versions) (hvn : v ∈ n.versions) :
    m = n := by
  refine eq_of_name_eq hm hn ?_
  have h := (LanguageModule.language_of_mem hvm).symm.trans (LanguageModule.language_of_mem hvn)
  exact congrArg Identity.name h

/-! ## Resolving -/

theorem resolve?_eq_answer? (r : Registry η) (s : String) :
    r.resolve? s = (Request.ofText s).answer? r := by
  rw [resolve?, Request.ofText]
  cases Text.cutAtSpace (Text.trim s.toList) with
  | none =>
    rw [Request.answer?]
    cases r.findTerse? (String.ofList (Text.trim s.toList)) <;> rfl
  | some parts => rfl

/-- A text gives a version when it is written for a request that the module of the terse name
has the version for. -/
theorem resolve?_eq_some {r : Registry η} {s : String} {v : Version η} :
    r.resolve? s = some v ↔ ∃ name m, r.findTerse? name = some m ∧
      (Request.Written s ⟨name, none⟩ ∧ v = m.defaultVersion ∨
        ∃ key, Request.Written s ⟨name, some key⟩ ∧ m.get? key = some v) := by
  rw [resolve?_eq_answer?]
  constructor
  · intro h
    have hwritten := Request.written_ofText s
    generalize Request.ofText s = q at h hwritten
    obtain ⟨name, key?⟩ := q
    obtain ⟨m, hm, hv⟩ := Option.bind_eq_some_iff.1 h
    refine ⟨name, m, hm, ?_⟩
    cases key? with
    | none => exact .inl ⟨hwritten, (Option.some.inj hv).symm⟩
    | some key => exact .inr ⟨key, hwritten, hv⟩
  · rintro ⟨name, m, hm, ⟨hwritten, rfl⟩ | ⟨key, hwritten, hv⟩⟩
    · rw [Request.ofText_of_written hwritten, Request.answer?, hm]
      rfl
    · rw [Request.ofText_of_written hwritten, Request.answer?, hm]
      exact hv

open Text Request

/-- The texts that give a version. They are a terse name with blanks around it, for the default
version, or a terse name, a space and a key with blanks around the whole and behind the space; the
language is the one of least name with the terse name. Reading a text never asks for a key that is
empty or has blanks around it. -/
theorem resolve?_grammar (r : Registry η) (s : String) :
    (∀ v, r.resolve? s = some v ↔ ∃ name m, r.findTerse? name = some m ∧
        (Written s ⟨name, none⟩ ∧ v = m.defaultVersion ∨
          ∃ key, Written s ⟨name, some key⟩ ∧ m.get? key = some v)) ∧
      (∀ name m, r.findTerse? name = some m ↔
        LeastNamed r.modules (·.terseName = name) m) ∧
      r.resolve? s = (ofText s).answer? r ∧
      ∀ key, (ofText s).key? = some key → key ≠ "" ∧ Trimmed key.toList :=
  ⟨fun _ => resolve?_eq_some, fun _ _ => findTerse?_eq_some, r.resolve?_eq_answer? s,
    fun _ => key_of_ofText⟩

section Printed

variable {r : Registry η} {m : LanguageModule η} {v : Version η}

/-- A printed version is found again only in its own module, under the terse name of it. -/
theorem resolve?_printed (hm : m ∈ r.modules) (hv : v ∈ m.versions) :
    r.resolve? v.terseName = some v ↔ r.findTerse? m.terseName = some m ∧
      (Written v.terseName ⟨m.terseName, none⟩ ∧ v = m.defaultVersion ∨
        ∃ key, Written v.terseName ⟨m.terseName, some key⟩ ∧ m.get? key = some v) := by
  rw [resolve?_eq_some]
  constructor
  · rintro ⟨name, n, hn, h⟩
    obtain ⟨hmem, rfl, -⟩ := findTerse?_eq_some.1 hn
    -- what the module of the terse name answers is a version of its own
    have hvn : v ∈ n.versions := by
      rcases h with ⟨-, rfl⟩ | ⟨key, -, hget⟩
      · exact n.defaultVersion_mem
      · exact LanguageModule.mem_versions_of_get? hget
    obtain rfl := eq_of_mem_versions hm hmem hv hvn
    exact ⟨hn, h⟩
  · rintro ⟨hfind, h⟩
    exact ⟨m.terseName, m, hfind, h⟩

/-- When the text printed for a version leads back to it. The terse name must hold no space and
lead to the module; an id without anything but blanks gives the default version, if no blanks
stand around the terse name; any other id is looked up without the blanks around it, if the
terse name is not empty and does not begin with a blank. -/
theorem resolve?_terseName_iff (hm : m ∈ r.modules) (hv : v ∈ m.versions) :
    r.resolve? v.terseName = some v ↔
      LeastNamed r.modules (·.terseName = m.terseName) m ∧ ' ' ∉ m.terseName.toList ∧
        (trim v.id.toList = [] → Trimmed m.terseName.toList ∧ v = m.defaultVersion) ∧
        (trim v.id.toList ≠ [] → m.terseName ≠ "" ∧ beginsBlank m.terseName.toList = false ∧
          m.get? (String.ofList (trim v.id.toList)) = some v) := by
  rw [resolve?_printed hm hv, findTerse?_eq_some, LanguageModule.terseName_of_mem hv,
    written_qualify_bare]
  simp only [written_qualify_keyed]
  refine and_congr_right fun _ => ?_
  -- an id of blanks only leaves no key behind the name, any other leaves one
  by_cases hid : trim v.id.toList = []
  · constructor
    · rintro (⟨⟨-, htrimmed, hwhole⟩, hdefault⟩ | ⟨key, ⟨hkey, hne, -⟩, -⟩)
      · exact ⟨hwhole, fun _ => ⟨htrimmed, hdefault⟩, fun h => absurd hid h⟩
      · exact absurd (hkey.symm.trans hid) (toList_ne_nil.2 hne)
    · rintro ⟨hwhole, hbare, -⟩
      obtain ⟨htrimmed, hdefault⟩ := hbare hid
      exact .inl ⟨⟨trim_eq_nil.1 hid, htrimmed, hwhole⟩, hdefault⟩
  · constructor
    · rintro (⟨⟨hblank, -⟩, -⟩ | ⟨key, ⟨hkey, -, hname, hbegin, hwhole⟩, hget⟩)
      · exact absurd (trim_eq_nil.2 hblank) hid
      · refine ⟨hwhole, fun h => absurd h hid, fun _ => ⟨hname, hbegin, ?_⟩⟩
        rwa [hkey, String.ofList_toList]
    · rintro ⟨hwhole, -, hkeyed⟩
      obtain ⟨hname, hbegin, hget⟩ := hkeyed hid
      refine .inr ⟨_, ⟨String.toList_ofList.symm, ?_, hname, hbegin, hwhole⟩, hget⟩
      rwa [← toList_ne_nil, String.toList_ofList]

/-- A language with two versions; the id of the second has blanks around it, and it is an alias
without them. -/
def paddedModule : LanguageModule Unit where
  table := ((VersionTable.empty { name := "Java", terseName := "java" }).add "8" [] ()
    (by decide)).add " 17\t" ["17"] () (by decide)
  extensions := []
  strategy := .baseline
  default := 0
  default_lt := by decide

theorem resolve?_terseName_padded :
    let r : Registry Unit := ⟨[paddedModule], List.pairwise_singleton _ _⟩
    let v : Version Unit := ⟨paddedModule.identity, " 17\t", 1, ()⟩
    paddedModule ∈ r.modules ∧ v ∈ paddedModule.versions ∧
      r.resolve? v.terseName = some v := by
  intro r v
  have hm : paddedModule ∈ r.modules := List.mem_singleton_self _
  have hv : v ∈ paddedModule.versions := List.mem_cons_of_mem _ (List.mem_singleton_self _)
  refine ⟨hm, hv, (resolve?_terseName_iff hm hv).2 ⟨⟨hm, rfl, ?_⟩, by decide, ?_, ?_⟩⟩
  · intro n hn _
    rw [List.mem_singleton.1 hn]
    exact List.le_refl _
  · exact fun h => absurd h (by decide)
  · have hkey : paddedModule.table.keys.lookup (String.ofList (trim v.id.toList)) = some 1 := by
      decide
    refine fun _ => ⟨by decide, by decide, ?_⟩
    rw [LanguageModule.get?, VersionTable.get?, hkey]
    rfl

end Printed

end Registry

end Polyglot
