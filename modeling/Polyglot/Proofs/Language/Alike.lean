import Polyglot.Proofs.InStep
import Polyglot.Proofs.Language.Keys
import Polyglot.Proofs.Language.Query

/-!
# Modules and registries that answer alike

A module keeps its keys in the order in which they came, and nothing that it answers shows
this order. So modules are compared by their answers (`LanguageModule.Alike`), and
registries by the answers of all their queries (`Registry.AnswersAlike`).

- `IsRecordOf.alike`: records of the same registrations, but for the order of aliases,
  answer alike.
- `Registry.answersAlike_of_partners`: registries answer alike when every module of the one
  has a partner in the other that answers alike.
-/

namespace Polyglot

universe u

variable {η : Type u}

/-! ## Modules -/

/-- The modules give the same answers. -/
structure LanguageModule.Alike (m n : LanguageModule η) : Prop where
  identity : m.identity = n.identity
  extensions : m.extensions = n.extensions
  strategy : m.strategy = n.strategy
  versions : m.versions = n.versions
  defaultVersion : m.defaultVersion = n.defaultVersion
  get? : ∀ key, m.get? key = n.get? key
  hasKey : ∀ key, m.hasKey key = n.hasKey key
  keysOf : ∀ v, m.keysOf v = n.keysOf v
  aliasesOf : ∀ v, m.aliasesOf v = n.aliasesOf v

/-- The registrations are the same but for the order of their keys. -/
structure Registration.Alike (r q : Registration η) : Prop where
  id : r.id = q.id
  handler : r.handler = q.handler
  isDefault : r.isDefault = q.isDefault
  keys : ∀ key, key ∈ r.keys ↔ key ∈ q.keys

namespace LanguageModule

/-- The keys of a version are determined by which keys lead where. -/
theorem keysOf_congr {m n : LanguageModule η} (h : ∀ key, m.get? key = n.get? key)
    (v : Version η) : m.keysOf v = n.keysOf v := by
  refine (m.table.keysOf_ascending v).eq_of_mem_iff (n.table.keysOf_ascending v) fun key => ?_
  have hkey : m.table.get? key = n.table.get? key := h key
  show key ∈ m.table.keysOf v ↔ key ∈ n.table.keysOf v
  rw [VersionTable.mem_keysOf, VersionTable.mem_keysOf, hkey]

theorem alike_of_get? {m n : LanguageModule η} (identity : m.identity = n.identity)
    (extensions : m.extensions = n.extensions) (strategy : m.strategy = n.strategy)
    (versions : m.versions = n.versions) (defaultVersion : m.defaultVersion = n.defaultVersion)
    (get? : ∀ key, m.get? key = n.get? key) : m.Alike n where
  identity := identity
  extensions := extensions
  strategy := strategy
  versions := versions
  defaultVersion := defaultVersion
  get? := get?
  hasKey key := by rw [hasKey_eq_isSome, hasKey_eq_isSome, get?]
  keysOf := keysOf_congr get?
  aliasesOf v := congrArg (List.filter (· != v.id)) (keysOf_congr get? v)

section

variable {m n : LanguageModule η} {rs qs : List (Registration η)}

theorem IsRecordOf.versions_eq (hm : m.IsRecordOf rs) (hn : n.IsRecordOf qs)
    (h : List.Forall₂ Registration.Alike rs qs) (identity : m.identity = n.identity) :
    m.versions = n.versions := by
  rw [hm.versions, hn.versions, identity]
  refine List.ext_getElem? fun i => ?_
  rw [List.getElem?_mapIdx, List.getElem?_mapIdx]
  cases hr : rs[i]? with
  | some r =>
    obtain ⟨q, hq, hrq⟩ := exists_of_getElem?_left h hr
    rw [hq, Option.map_some, Option.map_some, hrq.id, hrq.handler]
  | none =>
    have hq : qs[i]? = none := by
      rw [List.getElem?_eq_none_iff] at hr ⊢
      exact h.length_eq ▸ hr
    rw [hq]

/-- Modules that record alike registrations answer alike. -/
theorem IsRecordOf.alike (hm : m.IsRecordOf rs) (hn : n.IsRecordOf qs)
    (h : List.Forall₂ Registration.Alike rs qs) (identity : m.identity = n.identity)
    (extensions : m.extensions = n.extensions) (strategy : m.strategy = n.strategy) :
    m.Alike n := by
  have hversions := hm.versions_eq hn h identity
  refine alike_of_get? identity extensions strategy hversions ?_ fun key => ?_
  · -- the default version stands at the place of the mark, and both have the mark at one place
    have hdefault : m.versions[m.default]? = some m.defaultVersion :=
      List.getElem?_eq_getElem m.default_lt
    obtain ⟨r, hr, -⟩ := hm.exists_registration hdefault
    obtain ⟨q, hq, hrq⟩ := exists_of_getElem?_left h hr
    have hmark : q.isDefault = true := hrq.isDefault ▸ (hm.default _ r hr).1 hdefault
    have hdefault' := (hn.default _ q hq).2 hmark
    rw [← hversions, hdefault] at hdefault'
    exact Option.some.inj hdefault'
  · by_cases hkey : ∃ r ∈ rs, key ∈ r.keys
    · obtain ⟨r, hmem, hkey⟩ := hkey
      obtain ⟨i, hr⟩ := List.getElem?_of_mem hmem
      obtain ⟨q, hq, hrq⟩ := exists_of_getElem?_left h hr
      rw [(hm.get?_eq key i r hr).2 hkey, (hn.get?_eq key i q hq).2 ((hrq.keys key).1 hkey),
        hversions]
    · have hnone : m.get? key = none :=
        (hm.get?_none key).2 fun r hr hk => hkey ⟨r, hr, hk⟩
      have hnone' : n.get? key = none := by
        refine (hn.get?_none key).2 fun q hq hk => ?_
        obtain ⟨i, hi⟩ := List.getElem?_of_mem hq
        obtain ⟨r, hr, hrq⟩ := exists_of_getElem?_left h.flip hi
        exact hkey ⟨r, List.mem_of_getElem? hr, (Registration.Alike.keys hrq key).2 hk⟩
      rw [hnone, hnone']

end

end LanguageModule

/-! ## Registries -/

namespace LanguageModule.Alike

variable {m n : LanguageModule η}

theorem name (h : m.Alike n) : m.name = n.name := congrArg Identity.name h.identity

theorem terseName (h : m.Alike n) : m.terseName = n.terseName :=
  congrArg Identity.terseName h.identity

theorem hasExtension (h : m.Alike n) (e : String) : m.hasExtension e = n.hasExtension e :=
  congrArg (Extension.known · e) h.extensions

end LanguageModule.Alike

namespace Registry

/-- The registries answer every query alike. -/
structure AnswersAlike (r s : Registry η) : Prop where
  modules : List.Forall₂ LanguageModule.Alike r.modules s.modules
  size : r.size = s.size
  get? : ∀ name, Option.Rel LanguageModule.Alike (r.get? name) (s.get? name)
  findTerse? : ∀ terseName,
    Option.Rel LanguageModule.Alike (r.findTerse? terseName) (s.findTerse? terseName)
  lookup? : ∀ name, Option.Rel LanguageModule.Alike (r.lookup? name) (s.lookup? name)
  withExtension : ∀ e,
    List.Forall₂ LanguageModule.Alike (r.withExtension e) (s.withExtension e)
  detect? : ∀ p, Option.Rel LanguageModule.Alike (r.detect? p) (s.detect? p)
  resolve? : ∀ text, r.resolve? text = s.resolve? text

variable {r s : Registry η}

theorem answersAlike_of_forall₂ (h : List.Forall₂ LanguageModule.Alike r.modules s.modules) :
    r.AnswersAlike s := by
  have hget : ∀ name, Option.Rel LanguageModule.Alike (r.get? name) (s.get? name) := by
    intro name
    refine rel_find? (fun m n hmn => ?_) h
    rw [hmn.name]
  have hterse : ∀ terseName,
      Option.Rel LanguageModule.Alike (r.findTerse? terseName) (s.findTerse? terseName) := by
    intro terseName
    refine rel_find? (fun m n hmn => ?_) h
    rw [hmn.terseName]
  refine { modules := h, size := h.length_eq, get? := hget, findTerse? := hterse,
           lookup? := fun name => ?_, withExtension := fun e => ?_, detect? := fun p => ?_,
           resolve? := fun text => ?_ }
  · exact rel_or (hget name) (hterse name)
  · exact List.rel_filter (fun m n hmn => Bool.eq_iff_iff.1 (hmn.hasExtension e)) h
  · rw [detect?, detect?]
    cases p.extensionText? with
    | none => exact .none
    | some e => exact rel_find? (fun m n hmn => hmn.hasExtension e) h
  · rw [resolve?, resolve?]
    cases Text.cutAtSpace (Text.trim text.toList) with
    | none =>
      simp only [Option.map_eq_bind]
      exact bind_eq_of_rel (fun m n hmn => congrArg some hmn.defaultVersion) (hterse _)
    | some cut => exact bind_eq_of_rel (fun m n hmn => hmn.get? _) (hterse _)

/-- Registries answer alike when every module of each has a partner in the other that answers
alike. -/
theorem answersAlike_of_partners (left : ∀ m ∈ r.modules, ∃ n ∈ s.modules, m.Alike n)
    (right : ∀ n ∈ s.modules, ∃ m ∈ r.modules, m.Alike n) : r.AnswersAlike s :=
  answersAlike_of_forall₂
    (forall₂_of_ascending (fun _ _ h => h.name) r.ascending s.ascending left right)

end Registry

end Polyglot
