import Polyglot.Json.Value
import Polyglot.Decode.Format

/-!
# Reading data from JSON values

A record is an object, whose fields come in any order and of which unknown ones do
not matter, or an array, whose items are the fields in their order. The first bad
value is the problem; after that the first required field that is missing.
-/

namespace Polyglot.Json

namespace Value

/-- What a value looks like. -/
def found : Value → Found
  | .null => .null
  | .boolean b => .boolean b
  | .integer n => .integer n
  | .float x => .float (Decimal.text .mixed x)
  | .text s => .text s
  | .array _ => .sequence
  | .object _ => .map

/-- A value of the wrong form. -/
def mismatch {α : Type} (v : Value) (expected : String) : Except Problem α :=
  .error (.invalidType v.found expected)

def readText : Value → Except Problem String
  | .text s => .ok s
  | v => v.mismatch "a string"

def readOptionalText : Value → Except Problem (Option String)
  | .null => .ok none
  | v => v.readText.map some

def readBoolean : Value → Except Problem Bool
  | .boolean b => .ok b
  | v => v.mismatch "a boolean"

/-- A natural number of 64 bits. -/
def readCount : Value → Except Problem Nat
  | .integer n =>
    if n < 0 then .error (.invalidValue (.integer n) "usize") else .ok n.toNat
  | v => v.mismatch "usize"

def readList {α : Type} (read : Value → Except Problem α) : Value → Except Problem (List α)
  | .array vs => vs.mapM read
  | v => v.mismatch "a sequence"

/-- Entries in ascending order of name; of several of one name the last one counts. -/
def readMap {α : Type} (read : Value → Except Problem α) :
    Value → Except Problem { entries : List (String × α) // entries.Pairwise (·.1 < ·.1) }
  | .object fs => do
    let entries ← fs.mapM fun (name, v) => (read v).map (name, ·)
    return ⟨putFields entries, putFields_ascending entries⟩
  | v => v.mismatch "a map"

def readUnit : Value → Except Problem Unit
  | .null => .ok ()
  | v => v.mismatch "unit"

/-- The value that a name stands for. -/
def variant {α : Type} (variants : List (String × α)) (name : String) : Except Problem α :=
  match variants.lookup name with
  | some a => .ok a
  | none => .error (.unknownVariant name (variants.map Prod.fst))

/-- A name, or an object with that name as its one key and nothing as its value. -/
def readChoice {α : Type} (variants : List (String × α)) : Value → Except Problem α
  | .text s => variant variants s
  | .object [(name, v)] => do
    let a ← variant variants name
    v.readUnit
    return a
  | .object _ => .error (.invalidValue .map "map with a single key")
  | v => v.mismatch "string or map"

/-! ## Records -/

/-- Put the fields of an object into a record; unknown ones do not matter. -/
def readFields {π : Type} (readers : List (FieldReader Value (Except Problem) π)) :
    List (String × Value) → π → Except Problem π
  | [], p => .ok p
  | (name, v) :: fs, p => do
    match readers.find? (·.name == name) with
    | some r => readFields readers fs (← r.read p v)
    | none => readFields readers fs p

/-- The first required field that is not among the names. -/
def missing? {σ : Type} {m : Type → Type} {π : Type} (readers : List (FieldReader σ m π))
    (names : List String) : Option String :=
  (readers.find? fun r => !r.optional && !names.contains r.name).map FieldReader.name

/-- Put items into the fields at their positions; `read` items came before. -/
def readPositions {π : Type} (expected : String) :
    (read : Nat) → List (FieldReader Value (Except Problem) π) → List Value → π →
    Except Problem π
  | _, [], [], p => .ok p
  | read, [], rest, _ => .error (.invalidLength (read + rest.length) "fewer elements in array")
  | read, r :: rs, [], p =>
    if r.optional then readPositions expected (read + 1) rs [] p
    else .error (.invalidLength read expected)
  | read, r :: rs, v :: vs, p => do
    readPositions expected (read + 1) rs vs (← r.read p v)

/-- A record, from an object or from an array. -/
def readRecord {π : Type} (name : String)
    (readers : List (FieldReader Value (Except Problem) π)) (start : π) :
    Value → Except Problem π
  | .object fs => do
    let p ← readFields readers fs start
    match missing? readers (fs.map Prod.fst) with
    | some name => .error (.missingField name)
    | none => return p
  | .array vs =>
    let expected := "struct " ++ name ++ " with " ++ toString readers.length ++ " elements"
    readPositions expected 0 readers vs start
  | v => v.mismatch ("struct " ++ name)

end Value

/-- Data in JSON values. -/
def format : Format Value (Except Problem) where
  text := Value.readText
  optionalText := Value.readOptionalText
  boolean := Value.readBoolean
  list := Value.readList
  choice := Value.readChoice
  record := Value.readRecord

end Polyglot.Json
