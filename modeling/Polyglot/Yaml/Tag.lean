/-!
# Tags

A tag is a sequence of octets, since an escape in it may write any octet; a zero
octet ends it. The tags of the core schema begin with the same words, and those of
a document's own with `!`.

- `Tag.ofOctets`: the tag that octets write.
- `Tag.local?`: what a tag of the document's own says.
-/

namespace Polyglot.Yaml

/-- A tag, as the octets of its text. -/
structure Tag where
  octets : List UInt8
deriving DecidableEq, Repr, Inhabited

namespace Tag

/-- The octet of `!`. -/
def bang : UInt8 := 0x21

/-- The tag written as `s`. -/
def ofString (s : String) : Tag := ⟨s.toUTF8.toList⟩

/-- The tag that octets write, up to the first one that is zero. -/
def ofOctets (octets : List UInt8) : Tag := ⟨octets.takeWhile (· != 0)⟩

instance : Append Tag := ⟨fun s t => ⟨s.octets ++ t.octets⟩⟩

/-- A tag of the core schema. -/
def core (name : String) : Tag := ofString ("tag:yaml.org,2002:" ++ name)

/-- Whether the tag is one of the document's own. -/
def isLocal (t : Tag) : Bool := t.octets.head? == some bang

/-- What a tag of the document's own says behind its `!`, or `!` when it says nothing more;
nothing when that is no text. -/
def local? (t : Tag) : Option String :=
  match t.octets with
  | [] => none
  | first :: more =>
    if first = bang then String.fromUTF8? ⟨(if more.isEmpty then [bang] else more).toArray⟩ else none

end Tag

end Polyglot.Yaml
