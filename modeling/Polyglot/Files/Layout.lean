import Polyglot.Files.Tree

/-!
# Layouts

Files, folders and links that are held in memory. A place is the list of names that
leads to it from the folder to which all paths are relative. Links are followed on the
way to a place, so a path and a place are two things: several paths may lead to one
place, and a path may lead nowhere.

- `Layout.resolve`: the place to which a path leads.
- `Layout.read`: the content of a file.
- `Layout.walkRoot`: the tree at a path.
-/

namespace Polyglot

/-- The name of a file or folder. -/
abbrev Name := List UInt8

/-- What is at a place. -/
inductive Layout.Entry where
  | file (content : List UInt8)
  | link (target : Path)
  | folder

/-- What lies where. Of two entries for one place the first one counts, and the folders above an
entry need none of their own. -/
structure Layout where
  entries : List (List Name × Layout.Entry) := []

namespace Layout

/-- Lay out one more entry at a path that neither leaves the folder nor goes through a link. -/
def add (l : Layout) (p : Path) (e : Entry) : Layout :=
  let place := (Path.pieces p.bytes).filter fun name => name != [] && name != [Path.dot]
  ⟨(place, e) :: l.entries⟩

/-- What is at a place. -/
def entry? (l : Layout) (place : List Name) : Option Entry :=
  match l.entries.lookup place with
  | some e => some e
  | none =>
    if place.isEmpty || l.entries.any fun (q, _) => place.isPrefixOf q then some .folder else none

/-! ## Paths -/

/-- The number of links that may be followed on one way. -/
def maxLinks : Nat := 40

/-- The greatest length of a name, in bytes. -/
def maxName : Nat := 255

/-- The length that a path may not reach, in bytes. -/
def pathLimit : Nat := 4096

/-- Go on from a place by steps, each of them a name, `..`, or an empty one that stays. Every
step needs a folder to start from. A link at the very end is followed if `followLast`. -/
def walk (l : Layout) (followLast : Bool) (links : Nat) (place : List Name) (steps : List Name) :
    Except FileFault (List Name × Entry) :=
  match steps with
  | [] =>
    match l.entry? place with
    | some e => .ok (place, e)
    | none => .error .notFound
  | name :: steps =>
    match l.entry? place with
    | some .folder =>
      if name = [] || name = [Path.dot] then l.walk followLast links place steps
      else if name = [Path.dot, Path.dot] then
        if place.isEmpty then .error .notFound
        else l.walk followLast links place.dropLast steps
      else if maxName < name.length then .error .nameTooLong
      else
        match l.entry? (place ++ [name]) with
        | none => .error .notFound
        | some (.link target) =>
          if steps.isEmpty && !followLast then .ok (place ++ [name], .link target)
          else if target.bytes.head? = some Path.slash then .error .notFound
          else
            match links with
            | 0 => .error .tooManyLinks
            | links + 1 => l.walk followLast links place (Path.pieces target.bytes ++ steps)
        | some _ => l.walk followLast links (place ++ [name]) steps
    | some _ => .error .notFolder
    | none => .error .notFound
termination_by (links, steps.length)

/-- The place to which a path leads, and what is there. -/
def resolve (l : Layout) (followLast : Bool) (p : Path) :
    Except FileFault (List Name × Entry) :=
  if p.bytes.contains 0 then .error .nulByte
  else if pathLimit ≤ p.bytes.length then .error .nameTooLong
  else if p.bytes.isEmpty || p.bytes.head? = some Path.slash then .error .notFound
  else l.walk followLast maxLinks [] (Path.pieces p.bytes)

/-- The content of the file at a path. -/
def read (l : Layout) (p : Path) : Except FileFault (List UInt8) := do
  match ← l.resolve true p with
  | (_, .file content) => .ok content
  | (_, .folder) => .error .isFolder
  | (_, .link _) => .error .notFound

/-! ## Trees -/

/-- The names in the folder at a place. -/
def namesIn (l : Layout) (place : List Name) : List Name :=
  (l.entries.filterMap fun (q, _) =>
    if place.isPrefixOf q then q[place.length]? else none).eraseDups

/-- The tree at a place, down to a depth. -/
def treeTo (l : Layout) : (depth : Nat) → List Name → FileTree
  | 0, _ => .other
  | depth + 1, place =>
    match l.entry? place with
    | some (.file _) => .file
    | some .folder =>
      .folder ((l.namesIn place).map fun name => (name, l.treeTo depth (place ++ [name])))
    | _ => .other

/-- The tree at a place; no place is deeper than the longest one of an entry. -/
def tree (l : Layout) (place : List Name) : FileTree :=
  l.treeTo ((l.entries.map fun (q, _) => q.length).foldl max 0 + 1) place

/-- What a walk that begins at a path goes through. -/
def walkRoot (l : Layout) (p : Path) : Except FileFault WalkRoot := do
  let (place, _) ← l.resolve true p
  match ← l.resolve false p with
  | (_, .link _) => .ok (.linked (l.tree place))
  | _ => .ok (.direct (l.tree place))

end Layout

end Polyglot
