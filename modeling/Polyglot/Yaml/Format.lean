import Polyglot.Yaml.Document
import Polyglot.Yaml.Plain
import Polyglot.Decode.Format

/-!
# Reading data from YAML documents

Data are read from the nodes of a document in order, and the first fault ends the
reading: a value of the wrong form, or the place where the document breaks off. A
value of the wrong form is reported with its path and the place of its node; a
problem of a record as a whole with the place of the record.

Aliases are followed, but not more than a hundred times as often as the document
has parts.

- `Fault.message`: a fault with its path and place.
- `format`: how data are read from nodes.
- `read`: read a whole text.
-/

namespace Polyglot.Yaml

/-! ## Paths -/

/-- The way from the root to a node. -/
inductive Trail where
  | root
  | item (parent : Trail) (index : Nat)
  | field (parent : Trail) (name : String)
  /-- The value of a key that is an alias. -/
  | unnamed (parent : Trail)
deriving DecidableEq, Repr, Inhabited

namespace Trail

/-- The text of a path. -/
def text : Trail → String
  | .root => "."
  | .item parent index => parent.text ++ "[" ++ toString index ++ "]"
  | .field .root name => name
  | .field parent name => parent.text ++ "." ++ name
  | .unnamed .root => "?"
  | .unnamed parent => parent.text ++ ".?"

end Trail

/-- Where a problem lies. -/
structure Place where
  trail : Trail
  mark : Mark
deriving DecidableEq, Repr

/-! ## Faults -/

/-- Why a text cannot be read. -/
inductive Fault where
  | malformed
  | unknownAnchor (mark : Mark)
  | tooManyAliases
  | severalDocuments
  | data (problem : Problem) (place? : Option Place)
deriving DecidableEq, Repr

/-- A place as it stands at the end of a message; the very beginning is not mentioned. -/
def Mark.suffix (m : Mark) : String :=
  if m.line = 0 && m.column = 0 then ""
  else " at line " ++ toString (m.line + 1) ++ " column " ++ toString (m.column + 1)

/-- The fault as a sentence. -/
def Fault.message : Fault → String
  | .malformed => "malformed document"
  | .unknownAnchor m => "unknown anchor" ++ m.suffix
  | .tooManyAliases => "repetition limit exceeded"
  | .severalDocuments =>
    "deserializing from YAML containing more than one document is not supported"
  | .data p none => p.message
  | .data p (some ⟨.root, m⟩) => p.message ++ m.suffix
  | .data p (some ⟨t, m⟩) => t.text ++ ": " ++ p.message ++ m.suffix

/-- The fault behind the end of a damaged document. -/
def Damage.fault : Damage → Fault
  | .malformed => .malformed
  | .unknownAnchor m => .unknownAnchor m

/-! ## The reader -/

/-- Reading counts how many aliases were followed. -/
abbrev Reader := StateT Nat (Except Fault)

/-- A node of a document, with the path to it. -/
structure Site where
  document : Document
  trail : Trail
  node : Node

namespace Site

def fail {α : Type} (f : Fault) : Reader α := throw f

/-- A problem whose place the reader around it will know. -/
def report {α : Type} (p : Problem) : Reader α := fail (.data p none)

/-- The fault at the place where the document breaks off. -/
def breakOff {α : Type} (s : Site) : Reader α :=
  fail ((s.document.damage?.map Damage.fault).getD .malformed)

/-- Give problems without a place this one. -/
def locate {α : Type} (place : Place) (r : Reader α) : Reader α := fun n =>
  match r n with
  | .error (.data p none) => .error (.data p (some place))
  | result => result

/-- The node itself, or the one that an alias stands for. -/
def resolve (s : Site) : Reader Site :=
  match s.node with
  | .alias _ _ anchor => do
    let followed := (← get) + 1
    set followed
    if s.document.extent * 100 < followed then fail .tooManyAliases
    else
      match s.document.target? anchor with
      | some n => return { s with node := n }
      | none => s.breakOff
  | _ => return s

/-- Read with the node that the site stands for; problems without a place lie there. -/
def withNode {α : Type} (s : Site) (read : Site → Reader α) : Reader α := do
  let t ← s.resolve
  locate ⟨t.trail, t.node.mark⟩ (read t)

/-! ## What a node looks like -/

/-- What a tag of the core schema makes of a scalar: the words for what it should have been, when
it is not of that kind. -/
def taggedFound (tag : Tag) (text : String) : Option (Found ⊕ String) :=
  let orElse (f? : Option Found) (words : String) : Found ⊕ String :=
    match f? with
    | some f => .inl f
    | none => .inr words
  if tag = .core "bool" then
    some (orElse ((Plain.boolean? text).map .boolean) "a boolean")
  else if tag = .core "int" then
    some (orElse ((Plain.integer? text.toList).bind Plain.integerFound?) "an integer")
  else if tag = .core "float" then
    some (orElse ((Plain.float? text.toList).map fun x =>
      .float (Decimal.text .positional x)) "a float")
  else if tag = .core "null" then
    some (orElse (if Plain.isNull text then some .nothing else none) "null")
  else none

/-- The problem of a scalar that is not of the expected form. -/
def scalarMismatch (tag : Option Tag) (style : ScalarStyle) (text expected : String) :
    Problem :=
  match tag with
  | some tag =>
    match taggedFound tag text with
    | some (.inl f) => .invalidType f expected
    | some (.inr words) => .invalidValue (.text text) words
    | none =>
      if tag.isLocal && style = .plain then .invalidType (Plain.found text) expected
      else .invalidType (.text text) expected
  | none =>
    if style = .plain then .invalidType (Plain.found text) expected
    else .invalidType (.text text) expected

/-- Refuse a node that is not of the expected form. -/
def mismatch {α : Type} (s : Site) (expected : String) : Reader α :=
  match s.node with
  | .scalar _ _ tag style text => report (scalarMismatch tag style text expected)
  | .sequence .. => report (.invalidType .sequence expected)
  | .mapping .. => report (.invalidType .map expected)
  | .alias .. | .broken => s.breakOff

/-! ## Scalars -/

/-- The text of a scalar, whatever it looks like. -/
def readScalar (expected : String) (s : Site) : Reader String :=
  s.withNode fun s =>
    match s.node with
    | .scalar _ _ _ _ text => return text
    | _ => s.mismatch expected

def readText : Site → Reader String := readScalar "a string"

/-- A text, or nothing for a plain scalar that says so. -/
def readOptionalText (s : Site) : Reader (Option String) := do
  let t ← s.resolve
  match t.node with
  | .broken => t.breakOff
  | .scalar _ _ tag .plain text =>
    if tag = some (.core "null") then
      if Plain.isNull text then return none
      else report (.invalidValue (.text text) "null")
    else if tag.isNone && (text.isEmpty || Plain.isNull text) then return none
    else return some text
  | _ => return some (← t.readText)

def readBoolean (s : Site) : Reader Bool :=
  s.withNode fun s =>
    match s.node with
    | .scalar _ _ tag style text =>
      let counts : Bool := match style with
        | .plain => true
        | .literal => tag == some (.core "bool")
        | _ => false
      match if counts then Plain.boolean? text else none with
      | some b => return b
      | none => s.mismatch "a boolean"
    | _ => s.mismatch "a boolean"

/-! ## Lists -/

/-- A plain scalar without text stands for an empty collection. -/
def isEmptyScalar : Node → Bool
  | .scalar _ _ _ style text => style = .plain && text.isEmpty
  | _ => false

/-- Items in order, from an index on. -/
def readItems {α : Type} (read : Site → Reader α) (s : Site) :
    (index : Nat) → List Node → Reader (List α)
  | _, [] => return []
  | index, n :: ns =>
    match n with
    | .broken => s.breakOff
    | _ => do
      let a ← read { s with trail := .item s.trail index, node := n }
      return a :: (← readItems read s (index + 1) ns)

def readList {α : Type} (read : Site → Reader α) (s : Site) : Reader (List α) :=
  s.withNode fun s =>
    match s.node with
    | .sequence _ _ _ items => readItems read s 0 items
    | n => if isEmptyScalar n then return [] else s.mismatch "a sequence"

/-! ## Choices -/

/-- The value that a name stands for. -/
def variant {α : Type} (variants : List (String × α)) (name : String) : Reader α :=
  match variants.lookup name with
  | some a => return a
  | none => report (.unknownVariant name (variants.map Prod.fst))

/-- Nothing must be said about the value of a tagged choice. -/
def readNothing (s : Site) : Reader Unit :=
  s.withNode fun s =>
    match s.node with
    | .scalar _ _ _ style text =>
      if style = .plain && (text.isEmpty || Plain.isNull text) then return ()
      else report (.invalidValue (.text text) "null")
    | _ => s.mismatch "unit"

/-- One of several names at a node that is no alias: the text of a scalar, or the tag of a node
that says no more. The problem of an unknown tag is not given a place. -/
def readNamed {α : Type} (variants : List (String × α)) (s : Site) : Reader α := do
  let orTag (tag : Option Tag) (untagged : Reader α) : Reader α :=
    match tag.bind Tag.local? with
    | some name => do
      let a ← variant variants name
      s.readNothing
      return a
    | none => locate ⟨s.trail, s.node.mark⟩ untagged
  let expected := "a YAML tag starting with '!'"
  match s.node with
  | .scalar _ _ tag _ text => orTag tag (variant variants text)
  | .sequence _ _ tag _ => orTag tag (report (.invalidType .sequence expected))
  | .mapping _ _ tag _ => orTag tag (report (.invalidType .map expected))
  | .alias .. | .broken => s.breakOff

/-- One of several names. The problem of an unknown tag lies with the alias that led to it, or
with the record around it. -/
def readChoice {α : Type} (variants : List (String × α)) (s : Site) : Reader α :=
  match s.node with
  | .alias .. => locate ⟨s.trail, s.node.mark⟩ do (← s.resolve).readNamed variants
  | _ => s.readNamed variants

/-! ## Records -/

/-- Put entries into a record, in order; `seen` are the fields so far, and unknown ones do not
matter. Returns the names of all fields. -/
def readEntries {π : Type} (readers : List (FieldReader Site Reader π)) (s : Site) :
    (seen : List String) → List (Node × Node) → π → Reader (π × List String)
  | seen, [], p => return (p, seen)
  | seen, (k, v) :: es, p => do
    match k with
    | .broken => s.breakOff
    | _ =>
      let name ← readScalar "field identifier" { s with node := k }
      match readers.find? (·.name == name) with
      | some r =>
        if seen.contains name then report (.duplicateField name)
        else
          let trail := match k with
            | .scalar .. => Trail.field s.trail name
            | _ => .unnamed s.trail
          match v with
          | .broken => s.breakOff
          | _ =>
            let p ← r.read p { s with trail, node := v }
            readEntries readers s (name :: seen) es p
      | none => if v.isWhole then readEntries readers s seen es p else s.breakOff

/-- A mapping, or nothing at all. -/
def readRecord {π : Type} (name : String) (readers : List (FieldReader Site Reader π)) (start : π)
    (s : Site) : Reader π :=
  s.withNode fun s => do
    let (p, seen) ← match s.node with
      | .mapping _ _ _ entries => readEntries readers s [] entries start
      | n => if isEmptyScalar n then pure (start, []) else s.mismatch ("struct " ++ name)
    match readers.find? fun r => !r.optional && !seen.contains r.name with
    | some r => report (.missingField r.name)
    | none => return p

end Site

/-- Data in YAML documents. -/
def format : Format Site Reader where
  text := Site.readText
  optionalText := Site.readOptionalText
  boolean := Site.readBoolean
  list := Site.readList
  choice := Site.readChoice
  record := Site.readRecord

/-- Read a text that is to hold at most one document; an empty one gives `empty`. -/
def read {α : Type} (empty : α) (reader : Site → Reader α) (text : String) : Except Fault α := do
  let d := Document.ofText text
  match d.root? with
  | none => return empty
  | some root =>
    let (a, _) ← (reader ⟨d, .root, root⟩).run 0
    match d.damage? with
    | some damage => throw damage.fault
    | none => if d.isFollowed then throw .severalDocuments else return a

end Polyglot.Yaml
