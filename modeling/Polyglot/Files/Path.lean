/-!
# Paths

A path is a sequence of bytes; `/` separates its components and any other byte may
occur in a name.

- `Path.fileName?`: the last component, empty and `.` components at the end left out.
- `Path.extension?`: what follows the last dot of the file name, if something stands
  before that dot.
- `FileFault`: why what lies at a path cannot be had.
-/

namespace Polyglot

/-- A path, as the bytes of its text. -/
structure Path where
  bytes : List UInt8
deriving DecidableEq, Repr, Inhabited

namespace Path

/-- The byte of `/`. -/
def slash : UInt8 := 0x2F

/-- The byte of `.`. -/
def dot : UInt8 := 0x2E

/-- The path written as `s`. -/
def ofString (s : String) : Path := ⟨s.toUTF8.toList⟩

/-- The text of the path, if its bytes are UTF-8. -/
def toString? (p : Path) : Option String := String.fromUTF8? ⟨p.bytes.toArray⟩

/-- What stands between the slashes; one more than there are slashes. -/
def pieces (bytes : List UInt8) : List (List UInt8) := bytes.splitOn slash

/-- The last component that is neither empty nor `.`, unless it is `..`. -/
def fileName? (p : Path) : Option (List UInt8) :=
  match (pieces p.bytes).reverse.dropWhile fun piece => piece == [] || piece == [dot] with
  | [] => none
  | piece :: _ => if piece == [dot, dot] then none else some piece

/-- Whether the path ends in the component `..`. -/
def endsInParent (p : Path) : Bool := (pieces p.bytes).getLast? == some [dot, dot]

/-- The bytes before and after the last dot of a name. -/
def cutAtLastDot (name : List UInt8) : Option (List UInt8 × List UInt8) :=
  let after := (name.reverse.takeWhile (· != dot)).reverse
  match name.reverse.dropWhile (· != dot) with
  | [] => none
  | _ :: before => some (before.reverse, after)

/-- What follows the last dot of a name, unless that dot leads it. -/
def extensionOfName (name : List UInt8) : Option (List UInt8) :=
  match cutAtLastDot name with
  | some (before, after) => if before.isEmpty then none else some after
  | none => none

/-- The extension of the file name. -/
def extension? (p : Path) : Option (List UInt8) := p.fileName?.bind extensionOfName

/-- The extension as a text, if it is UTF-8. -/
def extensionText? (p : Path) : Option String := p.extension?.bind fun bytes => toString? ⟨bytes⟩

/-- The entry `name` of the directory at `p`: joined by one slash unless `p` ends in one. -/
def child (p : Path) (name : List UInt8) : Path :=
  if p.bytes.isEmpty || p.bytes.getLast? == some slash then ⟨p.bytes ++ name⟩
  else ⟨p.bytes ++ slash :: name⟩

end Path

/-! ## Faults of file access -/

/-- What keeps a path from being used. -/
inductive FileFault where
  | notFound
  | notFolder
  | isFolder
  | tooManyLinks
  | nameTooLong
  /-- No path holds the byte zero. -/
  | nulByte
  /-- The content is not UTF-8. -/
  | notText
  | other (message : String)
deriving DecidableEq, Repr

def FileFault.message : FileFault → String
  | .notFound => "No such file or directory (os error 2)"
  | .notFolder => "Not a directory (os error 20)"
  | .isFolder => "Is a directory (os error 21)"
  | .tooManyLinks => "Too many levels of symbolic links (os error 40)"
  | .nameTooLong => "File name too long (os error 36)"
  | .nulByte => "file name contained an unexpected NUL byte"
  | .notText => "stream did not contain valid UTF-8"
  | .other message => message

end Polyglot
