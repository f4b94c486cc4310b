import Polyglot.Decode.Problem

/-!
# Formats

A data format tells how texts, truth values, numbers, lists, choices and records
are read from its values. What is read is described once, by fields with names, and
holds for every format.

- `Format`: the readers of a format.
- `FieldReader`: one field of a record.
-/

namespace Polyglot

/-- One field of a record `π`: its name, whether it may be left out, and how its value is put
into the record. -/
structure FieldReader (σ : Type) (m : Type → Type) (π : Type) where
  name : String
  optional : Bool
  read : π → σ → m π

/-- How the parts of a datum are read from values `σ`. -/
structure Format (σ : Type) (m : Type → Type) where
  text : σ → m String
  /-- A text or nothing. -/
  optionalText : σ → m (Option String)
  boolean : σ → m Bool
  list : {α : Type} → (σ → m α) → σ → m (List α)
  /-- One of several names. -/
  choice : {α : Type} → List (String × α) → σ → m α
  /-- A record of a given name, filled in field by field from `start`. -/
  record : {π : Type} → (name : String) → List (FieldReader σ m π) → (start : π) → σ → m π

/-- A field that must be there. -/
def FieldReader.required {σ : Type} {m : Type → Type} {π α : Type} [Monad m] (name : String)
    (read : σ → m α) (put : π → α → π) : FieldReader σ m π :=
  ⟨name, false, fun p v => do return put p (← read v)⟩

/-- A field that may be left out. -/
def FieldReader.optionally {σ : Type} {m : Type → Type} {π α : Type} [Monad m] (name : String)
    (read : σ → m α) (put : π → α → π) : FieldReader σ m π :=
  ⟨name, true, fun p v => do return put p (← read v)⟩

end Polyglot
