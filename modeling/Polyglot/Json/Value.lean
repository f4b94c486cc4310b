import Polyglot.Entries

/-!
# JSON values

Integers and floating point numbers are told apart by how they are written: a
number with a fraction or an exponent, the number `-0`, and an integer beyond 64
bits are floating point. The fields of an object are kept in the order given.
-/

namespace Polyglot.Json

/-- A JSON value. -/
inductive Value where
  | null
  | boolean (b : Bool)
  | integer (n : Int)
  | float (x : Float)
  | text (s : String)
  | array (items : List Value)
  | object (fields : List (String × Value))
deriving Inhabited

namespace Value

/-- The value of a field of an object. -/
def field? (v : Value) (name : String) : Option Value :=
  match v with
  | .object fields => fields.lookup name
  | _ => none

/-- A text, or null. -/
def textOrNull : Option String → Value
  | some s => .text s
  | none => .null

def ofTexts (xs : List String) : Value := .array (xs.map .text)

def ofNat (n : Nat) : Value := .integer n

end Value

/-! ## Fields in ascending order -/

section Fields

variable {α : Type}

/-- Put a field into an ascending list of fields; an earlier one of its name goes. -/
def putField (name : String) (v : α) : List (String × α) → List (String × α) :=
  Entries.update (fun _ => v) name

/-- Fields in ascending order of name; of several of one name the last one counts. -/
def putFields (fs : List (String × α)) : List (String × α) :=
  fs.foldl (fun done (name, v) => putField name v done) []

theorem putFields_ascending (fs : List (String × α)) : (putFields fs).Pairwise (·.1 < ·.1) :=
  List.foldlRecOn fs _ .nil fun _ h f _ => Entries.update_ascending _ f.1 h

end Fields

end Polyglot.Json
