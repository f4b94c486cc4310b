import Polyglot.Text.Outline

/-!
# Versions of a language

A version carries the names of its language, its id, its place in the order of
registration and a handler, a value of any type that the registry stores and hands
back without looking at it.

Two versions are the same when language name, ordinal and id agree; the order
compares these three in turn, so a sorted list goes by language and inside a
language by registration.

- `qualify`: how a name and a version id are written together.
- `Version.beq_iff`: sameness is agreement of the three parts.
-/

namespace Polyglot

universe u

/-- The names of a language, shared by its module and all of its versions. -/
structure Identity where
  name : String
  shortName? : Option String := none
  terseName : String
deriving DecidableEq, Repr

/-- The short name, which is the name unless another one was given. -/
def Identity.shortName (i : Identity) : String := i.shortName?.getD i.name

/-- One registered version of a language. -/
structure Version (η : Type u) where
  language : Identity
  id : String
  ordinal : Nat
  handler : η

/-- A name followed by a version id; an empty id adds nothing, not even the space. -/
def qualify (name id : String) : String :=
  if id.isEmpty then name else name ++ " " ++ id

namespace Version

variable {η : Type u}

def name (v : Version η) : String := qualify v.language.name v.id

def shortName (v : Version η) : String := qualify v.language.shortName v.id

def terseName (v : Version η) : String := qualify v.language.terseName v.id

def display (v : Version η) : String := "LanguageVersion[" ++ v.name ++ "]"

/-- The outline leaves the handler out, so it is open. -/
def outline (v : Version η) : Text.Outline :=
  .record "LanguageVersion"
    [("language", .text v.language.name), ("version", .text v.id), ("ordinal", .number v.ordinal)]
    true

/-! ## Sameness and order -/

/-- What sameness and hashing look at. -/
def rank (v : Version η) : String × Nat × String := (v.language.name, v.ordinal, v.id)

instance : BEq (Version η) where
  beq v w := v.language.name == w.language.name && v.ordinal == w.ordinal && v.id == w.id

instance : Hashable (Version η) where
  hash v := hash v.rank

/-- By language name, then ordinal, then id. -/
instance : Ord (Version η) where
  compare v w :=
    (compare v.language.name w.language.name).then <|
      (compare v.ordinal w.ordinal).then (compare v.id w.id)

theorem beq_iff {v w : Version η} : (v == w) = true ↔ v.rank = w.rank := by
  simp [BEq.beq, rank, and_assoc]

theorem hash_eq_of_beq {v w : Version η} (h : (v == w) = true) : hash v = hash w := by
  change hash v.rank = hash w.rank
  rw [beq_iff.1 h]

end Version

end Polyglot
