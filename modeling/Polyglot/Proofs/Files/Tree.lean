import Polyglot.Files.Tree

/-!
# What a walk meets

A walk leaves out what is excluded while it goes down a tree. The listing of a tree leaves
out nothing and notes, beside every file, the folders around it. What a walk meets is the
part of the listing in which neither the file nor a folder around it is excluded
(`WalkRoot.files_eq`).

- `FoundFile`, `WalkRoot.listing`: all files, each with the folders around it.
- `FileTree.Relisted`: the same tree with its folders listed in another order.
- `WalkRoot.Relisted.listing_perm`: the order in which folders are listed is seen in the
  order of the listing and nowhere else.
-/

namespace Polyglot

/-- A file of a tree: its path, and the paths of the folders from the root down to it. -/
structure FoundFile where
  path : Path
  folders : List Path
deriving DecidableEq, Repr

/-- Whether neither the file nor any folder around it is excluded. -/
def FoundFile.isOpen (excluded : Path → Bool) (f : FoundFile) : Bool :=
  !excluded f.path && f.folders.all (!excluded ·)

namespace FileTree

/-- What holds of files and of what is neither file nor folder, and of a folder as soon as it holds
of the trees in it, holds of every tree. -/
@[elab_as_elim]
theorem induction {motive : FileTree → Prop} (file : motive .file) (other : motive .other)
    (folder : ∀ entries, (∀ e ∈ entries, motive e.2) → motive (.folder entries))
    (t : FileTree) : motive t :=
  @FileTree.rec motive (fun entries => ∀ e ∈ entries, motive e.2) (fun e => motive e.2)
    file other folder (fun _ he => nomatch he)
    (fun _ _ hfirst hrest => List.forall_mem_cons.2 ⟨hfirst, hrest⟩) (fun _ _ h => h) t

/-! ## Listings -/

/-- Every file in a tree at a path; `around` are the folders around the tree, outermost first. -/
def listing (around : List Path) (p : Path) : FileTree → List FoundFile
  | .file => [⟨p, around⟩]
  | .other => []
  | .folder entries => entryListing (around ++ [p]) p entries
where
  /-- Every file in the entries of the folder at a path. -/
  entryListing (around : List Path) (p : Path) : List (List UInt8 × FileTree) → List FoundFile
    | [] => []
    | (name, t) :: entries =>
      t.listing around (p.child name) ++ entryListing around p entries

/-- Every file inside a folder at a path that is not itself among the folders. -/
def contents (p : Path) : FileTree → List FoundFile
  | .folder entries => listing.entryListing [] p entries
  | _ => []

theorem entryListing_eq_flatMap (around : List Path) (p : Path)
    (entries : List (List UInt8 × FileTree)) :
    listing.entryListing around p entries
      = entries.flatMap fun e => e.2.listing around (p.child e.1) := by
  induction entries with
  | nil => rfl
  | cons e entries ih =>
    rw [List.flatMap_cons, ← ih]
    rfl

/-- The folders around a tree are around every file in it. -/
theorem around_subset_folders {around : List Path} {p : Path} {t : FileTree} {f : FoundFile}
    (hf : f ∈ t.listing around p) : around ⊆ f.folders := by
  induction t using FileTree.induction generalizing around p with
  | file =>
    rw [List.mem_singleton.1 hf]
    exact List.Subset.refl around
  | other => cases hf
  | folder entries ih =>
    rw [listing, entryListing_eq_flatMap] at hf
    obtain ⟨e, he, hf⟩ := List.mem_flatMap.1 hf
    exact fun q hq => ih e he hf (List.mem_append_left _ hq)

/-! ## Pruning is filtering -/

section Pruning

variable {excluded : Path → Bool}

theorem entryFiles_eq_flatMap (p : Path) (entries : List (List UInt8 × FileTree)) :
    files.entryFiles excluded p entries
      = entries.flatMap fun e => e.2.files excluded (p.child e.1) := by
  induction entries with
  | nil => rfl
  | cons e entries ih =>
    rw [List.flatMap_cons, ← ih]
    rfl

/-- Trees whose files are the open ones of their listings make a folder of which this holds. -/
theorem entryFiles_eq {around : List Path} {p : Path} {entries : List (List UInt8 × FileTree)}
    (h : ∀ e ∈ entries, e.2.files excluded (p.child e.1)
      = ((e.2.listing around (p.child e.1)).filter (·.isOpen excluded)).map FoundFile.path) :
    files.entryFiles excluded p entries
      = ((listing.entryListing around p entries).filter (·.isOpen excluded)).map
        FoundFile.path := by
  rw [entryFiles_eq_flatMap, entryListing_eq_flatMap, List.filter_flatMap, List.map_flatMap]
  rw [List.flatMap_def, List.flatMap_def, List.map_congr_left h]

/-- Around which nothing is excluded, the files of a tree are the open ones of its listing. -/
theorem files_eq {around : List Path} (open_around : ∀ q ∈ around, excluded q = false)
    (p : Path) (t : FileTree) :
    t.files excluded p
      = ((t.listing around p).filter (·.isOpen excluded)).map FoundFile.path := by
  induction t using FileTree.induction generalizing around p with
  | file =>
    have hall : around.all (!excluded ·) = true := by
      rw [List.all_eq_true]
      intro q hq
      rw [open_around q hq]
      rfl
    rw [files, listing, List.filter_cons, FoundFile.isOpen, hall, Bool.and_true]
    cases excluded p <;> rfl
  | other => rfl
  | folder entries ih =>
    rw [files, listing]
    cases hp : excluded p with
    | true =>
      -- the folder is around each file of its listing, so none of them is open
      have hnone : (listing.entryListing (around ++ [p]) p entries).filter (·.isOpen excluded)
          = [] := by
        rw [List.filter_eq_nil_iff]
        intro f hf hopen
        rw [entryListing_eq_flatMap] at hf
        obtain ⟨e, -, hf⟩ := List.mem_flatMap.1 hf
        have hmem : p ∈ f.folders :=
          around_subset_folders hf (List.mem_append_right _ (List.mem_singleton.2 rfl))
        rw [FoundFile.isOpen, Bool.and_eq_true, List.all_eq_true] at hopen
        have hopen_p := hopen.2 p hmem
        rw [hp] at hopen_p
        cases hopen_p
      rw [hnone]
      rfl
    | false =>
      refine entryFiles_eq fun e he => ih e he (fun q hq => ?_) _
      rcases List.mem_append.1 hq with hq | hq
      · exact open_around q hq
      · rw [List.mem_singleton.1 hq, hp]

end Pruning

/-! ## The order of entries -/

/-- Two trees that differ at most in the order in which the entries of their folders are listed,
at any depth. -/
inductive Relisted : FileTree → FileTree → Prop
  | refl (t : FileTree) : Relisted t t
  | order {entries entries' : List (List UInt8 × FileTree)} (h : entries.Perm entries') :
      Relisted (.folder entries) (.folder entries')
  | inside {front back : List (List UInt8 × FileTree)} {name : List UInt8} {t t' : FileTree}
      (h : Relisted t t') :
      Relisted (.folder (front ++ (name, t) :: back)) (.folder (front ++ (name, t') :: back))
  | trans {t u v : FileTree} (h : Relisted t u) (h' : Relisted u v) : Relisted t v

theorem entryListing_perm {entries entries' : List (List UInt8 × FileTree)}
    (h : entries.Perm entries') (around : List Path) (p : Path) :
    (listing.entryListing around p entries).Perm (listing.entryListing around p entries') := by
  rw [entryListing_eq_flatMap, entryListing_eq_flatMap]
  exact h.flatMap_right _

/-- A tree inside a folder may be replaced by one with the same files. -/
theorem entryListing_inside {t t' : FileTree} {around : List Path} {p : Path} {name : List UInt8}
    (h : (t.listing around (p.child name)).Perm (t'.listing around (p.child name)))
    (front back : List (List UInt8 × FileTree)) :
    (listing.entryListing around p (front ++ (name, t) :: back)).Perm
      (listing.entryListing around p (front ++ (name, t') :: back)) := by
  rw [entryListing_eq_flatMap, entryListing_eq_flatMap, List.flatMap_append, List.flatMap_append,
    List.flatMap_cons, List.flatMap_cons]
  exact (h.append_right _).append_left _

theorem Relisted.listing_perm {t t' : FileTree} (h : Relisted t t') (around : List Path)
    (p : Path) : (t.listing around p).Perm (t'.listing around p) := by
  induction h generalizing around p with
  | refl t => exact .refl _
  | order h => exact entryListing_perm h _ p
  | inside h ih => exact entryListing_inside (ih _ _) _ _
  | trans h h' ih ih' => exact (ih around p).trans (ih' around p)

theorem Relisted.contents_perm {t t' : FileTree} (h : Relisted t t') (p : Path) :
    (t.contents p).Perm (t'.contents p) := by
  induction h with
  | refl t => exact .refl _
  | order h => exact entryListing_perm h [] p
  | inside h ih => exact entryListing_inside (h.listing_perm _ _) _ _
  | trans h h' ih ih' => exact ih.trans ih'

end FileTree

/-! ## Walks -/

namespace WalkRoot

/-- All files of a walk. The root is among the folders around them, unless it is a link: a link is
no folder, whatever it leads to. -/
def listing (p : Path) : WalkRoot → List FoundFile
  | .direct tree => tree.listing [] p
  | .linked tree => tree.contents p

/-- The files of a walk that are not excluded and around which no folder is. -/
def openFiles (excluded : Path → Bool) (p : Path) (root : WalkRoot) : List FoundFile :=
  (root.listing p).filter (·.isOpen excluded)

/-- A walk meets the open files. -/
theorem files_eq (excluded : Path → Bool) (p : Path) (root : WalkRoot) :
    root.files excluded p = (root.openFiles excluded p).map FoundFile.path := by
  have none_around : ∀ q ∈ ([] : List Path), excluded q = false := fun _ hq => nomatch hq
  cases root with
  | direct tree => exact FileTree.files_eq none_around p tree
  | linked tree =>
    cases tree with
    | file => rfl
    | other => rfl
    | folder entries =>
      exact FileTree.entryFiles_eq fun e _ => FileTree.files_eq none_around _ e.2

/-- The same walk with folders listed in another order. -/
inductive Relisted : WalkRoot → WalkRoot → Prop
  | direct {t t' : FileTree} (h : t.Relisted t') : Relisted (.direct t) (.direct t')
  | linked {t t' : FileTree} (h : t.Relisted t') : Relisted (.linked t) (.linked t')

theorem Relisted.listing_perm {root root' : WalkRoot} (h : Relisted root root') (p : Path) :
    (root.listing p).Perm (root'.listing p) := by
  cases h with
  | direct h => exact h.listing_perm [] p
  | linked h => exact h.contents_perm p

end WalkRoot

end Polyglot
