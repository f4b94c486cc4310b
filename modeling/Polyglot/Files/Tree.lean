import Polyglot.Files.Path

/-!
# File trees

What lies under a path: a file, a folder with named entries, or something that is
neither, such as a link. A walk goes through a tree from a root path on and leaves out
what is excluded; an excluded folder is not entered.

- `FileTree.files`: the paths of the files that a walk meets.
- `WalkRoot.files`: the same from the place where a walk begins, which may be a link.
-/

namespace Polyglot

/-- A tree of files. The entries of a folder stand in the order in which they are listed. -/
inductive FileTree where
  | file
  | other
  | folder (entries : List (List UInt8 × FileTree))

namespace FileTree

/-- The files in a tree at a path. -/
def files (excluded : Path → Bool) (p : Path) : FileTree → List Path
  | .file => if excluded p then [] else [p]
  | .other => []
  | .folder entries => if excluded p then [] else entryFiles excluded p entries
where
  /-- The files in the entries of the folder at a path. -/
  entryFiles (excluded : Path → Bool) (p : Path) : List (List UInt8 × FileTree) → List Path
    | [] => []
    | (name, t) :: entries =>
      t.files excluded (p.child name) ++ entryFiles excluded p entries

end FileTree

/-- Where a walk begins: at a tree itself, or at a link that leads to a tree. -/
inductive WalkRoot where
  | direct (tree : FileTree)
  | linked (tree : FileTree)

/-- The files that a walk meets. A link to a folder is followed even if the path of the link is
excluded, and a link to anything else holds no files. -/
def WalkRoot.files (excluded : Path → Bool) (p : Path) : WalkRoot → List Path
  | .direct tree => tree.files excluded p
  | .linked (.folder entries) => FileTree.files.entryFiles excluded p entries
  | .linked _ => []

end Polyglot
