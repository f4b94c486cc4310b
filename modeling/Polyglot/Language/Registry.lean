import Polyglot.Language.Builder
import Polyglot.Files.Path
import Polyglot.Text.Blank

/-!
# The registry of languages

Language modules in ascending order of name, no two of one name. Where several
modules fit a query, the one of least name is the answer.

- `Registry.lookup?`: by name, then by terse name.
- `Registry.detect?`: the language of a path, by its extension.
- `Registry.resolve?`: a version from a text such as `java 17` or `java`.
-/

namespace Polyglot

universe u

/-- Language modules in ascending order of name. -/
structure Registry (η : Type u) where
  modules : List (LanguageModule η)
  ascending : modules.Pairwise (·.name < ·.name)

namespace Registry

variable {η : Type u}

def empty : Registry η := ⟨[], .nil⟩

instance : Inhabited (Registry η) := ⟨empty⟩

/-- The number of languages. -/
def size (r : Registry η) : Nat := r.modules.length

def names (r : Registry η) : List String := r.modules.map LanguageModule.name

/-! ## Insertion -/

/-- Put a module before the first one of greater name. -/
def insertByName (m : LanguageModule η) : List (LanguageModule η) → List (LanguageModule η)
  | [] => [m]
  | n :: ns => if m.name < n.name then m :: n :: ns else n :: insertByName m ns

theorem mem_insertByName {m n : LanguageModule η} {ns : List (LanguageModule η)} :
    n ∈ insertByName m ns ↔ n = m ∨ n ∈ ns := by
  induction ns with
  | nil => simp [insertByName]
  | cons k ks ih =>
    rw [insertByName]
    split
    · simp
    · simp [ih, or_left_comm]

theorem insertByName_ascending {m : LanguageModule η} {ns : List (LanguageModule η)}
    (h : ns.Pairwise (·.name < ·.name)) (fresh : ∀ n ∈ ns, n.name ≠ m.name) :
    (insertByName m ns).Pairwise (·.name < ·.name) := by
  induction ns with
  | nil => simp [insertByName]
  | cons k ks ih =>
    obtain ⟨hk, hks⟩ := List.pairwise_cons.1 h
    rw [insertByName]
    split
    · rename_i hlt
      refine List.pairwise_cons.2 ⟨?_, h⟩
      intro n hn
      rcases List.mem_cons.1 hn with rfl | hn
      · exact hlt
      · exact String.lt_trans hlt (hk n hn)
    · rename_i hlt
      refine List.pairwise_cons.2 ⟨?_, ih hks fun n hn => fresh n (List.mem_cons_of_mem _ hn)⟩
      intro n hn
      rcases mem_insertByName.1 hn with rfl | hn
      · have hne := fresh k List.mem_cons_self
        have hle : k.name ≤ n.name := String.not_lt.1 hlt
        exact Decidable.byContradiction fun hnot =>
          hne (String.le_antisymm hle (String.not_lt.1 hnot))
      · exact hk n hn

/-- Add a module, unless there is one of its name. -/
def insert (r : Registry η) (m : LanguageModule η) : Except RegistryError (Registry η) :=
  if taken : ∃ n ∈ r.modules, n.name = m.name then .error (.duplicateLanguage m.name)
  else .ok ⟨insertByName m r.modules, insertByName_ascending r.ascending (by simpa using taken)⟩

/-- Add a module and tell of it; a refusal is not logged. -/
def insertLogged (r : Registry η) (m : LanguageModule η) :
    Logged (Except RegistryError (Registry η)) :=
  match r.insert m with
  | .ok r' => ⟨.ok r', [.languageAdded m.name]⟩
  | .error e => ⟨.error e, []⟩

/-- Add modules up to the first one that is refused. -/
def insertAll (r : Registry η) :
    List (LanguageModule η) → Logged (Except RegistryError (Registry η))
  | [] => ⟨.ok r, []⟩
  | m :: ms => (r.insertLogged m).andThen fun r' => r'.insertAll ms

/-- The registry of the given modules. -/
def ofModules (ms : List (LanguageModule η)) : Logged (Except RegistryError (Registry η)) :=
  empty.insertAll ms

/-! ## Queries -/

/-- The module of that name. -/
def get? (r : Registry η) (name : String) : Option (LanguageModule η) :=
  r.modules.find? (·.name == name)

/-- The first module with that terse name. -/
def findTerse? (r : Registry η) (terseName : String) : Option (LanguageModule η) :=
  r.modules.find? (·.terseName == terseName)

/-- By name, and by terse name if no module has the name. -/
def lookup? (r : Registry η) (name : String) : Option (LanguageModule η) :=
  (r.get? name).or (r.findTerse? name)

/-- All modules with the extension, given with or without its dot. -/
def withExtension (r : Registry η) (e : String) : List (LanguageModule η) :=
  r.modules.filter (·.hasExtension e)

/-- The first module with the extension of the path; an extension that is not UTF-8 has none. -/
def detect? (r : Registry η) (p : Path) : Option (LanguageModule η) :=
  p.extensionText?.bind fun e => r.modules.find? (·.hasExtension e)

/-- Read a terse name, or a terse name, a space and a version key, with blanks around each. -/
def resolve? (r : Registry η) (s : String) : Option (Version η) :=
  let text := Text.trim s.toList
  match Text.cutAtSpace text with
  | some (language, key) =>
    (r.findTerse? (String.ofList language)).bind (·.get? (String.ofList (Text.trim key)))
  | none => (r.findTerse? (String.ofList text)).map (·.defaultVersion)

def outline (r : Registry η) : Text.Outline :=
  .record "LanguageRegistry" [("modules", .set (r.modules.map LanguageModule.outline))] false

end Registry

end Polyglot
