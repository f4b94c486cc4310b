import Polyglot.Decimal.Shortest
import Polyglot.Decode.Problem
import Polyglot.Text.Quoted

/-!
# What a plain scalar looks like

A plain scalar that is none of the words for nothing, true and false may be an
integer, in decimal or with one of the prefixes `0x`, `0o` and `0b`, or a floating
point number. Digits with a zero in front are no number.

- `Plain.found`: what a plain scalar looks like.
-/

namespace Polyglot.Yaml.Plain

def isNull (s : String) : Bool := s = "~" || s = "null" || s = "Null" || s = "NULL"

def boolean? (s : String) : Option Bool :=
  if s = "true" || s = "True" || s = "TRUE" then some true
  else if s = "false" || s = "False" || s = "FALSE" then some false
  else none

/-! ## Integers -/

/-- The base that a prefix stands for, and what follows the prefix. -/
def based : List Char → Nat × List Char
  | '0' :: 'x' :: cs => (16, cs)
  | '0' :: 'o' :: cs => (8, cs)
  | '0' :: 'b' :: cs => (2, cs)
  | cs => (10, cs)

/-- Drop a sign. -/
def unsigned : List Char → List Char
  | '+' :: cs => cs
  | '-' :: cs => cs
  | cs => cs

/-- More digits than one, with a zero in front. -/
def isPadded (cs : List Char) : Bool :=
  match unsigned cs with
  | '0' :: c :: ds => (c :: ds).all Char.isDigit
  | _ => false

/-- An integer. -/
def integer? (cs : List Char) : Option Int :=
  if isPadded cs then none
  else
    match cs with
    | '-' :: cs =>
      let (base, ds) := based cs
      (Text.natural? base ds).map fun n => -(n : Int)
    | '+' :: cs =>
      let (base, ds) := based cs
      (Text.natural? base ds).map Int.ofNat
    | cs =>
      let (base, ds) := based cs
      (Text.natural? base ds).map Int.ofNat

/-- An integer by its width: 64 bits, 128 bits, or none when it is wider. -/
def integerFound? (n : Int) : Option Found :=
  if -Int.pow 2 63 ≤ n && n < Int.pow 2 64 then some (.integer n)
  else if -Int.pow 2 127 ≤ n && n < Int.pow 2 128 then some (.wide n)
  else none

/-! ## Floating point numbers -/

/-- The exponent behind the digits, if any: nothing where it is malformed. -/
def exponent? : List Char → Option Int
  | [] => some 0
  | c :: cs =>
    if c = 'e' || c = 'E' then
      match cs with
      | '-' :: ds => (Text.natural? 10 ds).map fun n => -(n : Int)
      | '+' :: ds => (Text.natural? 10 ds).map Int.ofNat
      | ds => (Text.natural? 10 ds).map Int.ofNat
    else none

/-- A decimal number without sign: digits with at most one point among them and an exponent. -/
def decimal? (cs : List Char) : Option Float := do
  let whole := cs.takeWhile Char.isDigit
  let rest := cs.dropWhile Char.isDigit
  let (fraction, rest) := match rest with
    | '.' :: rest => (rest.takeWhile Char.isDigit, rest.dropWhile Char.isDigit)
    | rest => ([], rest)
  let digits ← Text.natural? 10 (whole ++ fraction)
  some (Decimal.toFloat digits ((← exponent? rest) - fraction.length))

/-- A floating point number; one that is too large is none. -/
def float? (cs : List Char) : Option Float :=
  let infinity : Float := 1.0 / 0.0
  let bare := match cs with
    | '+' :: cs => cs
    | cs => cs
  let isInfinity (cs : List Char) : Bool :=
    cs = ['.', 'i', 'n', 'f'] || cs = ['.', 'I', 'n', 'f'] || cs = ['.', 'I', 'N', 'F']
  if isInfinity bare then some infinity
  else if cs.head? == some '-' && isInfinity (cs.drop 1) then some (-infinity)
  else if cs = ['.', 'n', 'a', 'n'] || cs = ['.', 'N', 'a', 'N'] || cs = ['.', 'N', 'A', 'N'] then
    some (0.0 / 0.0)
  else
    let x? := match bare with
      | '-' :: ds => if bare.length = cs.length then (decimal? ds).map fun x => -x else none
      | ds => decimal? ds
    x?.filter Float.isFinite

/-- What a plain scalar looks like. -/
def found (s : String) : Found :=
  let cs := s.toList
  if s.isEmpty || isNull s then .nothing
  else
    match boolean? s with
    | some b => .boolean b
    | none =>
      match (integer? cs).bind integerFound? with
      | some n => n
      | none =>
        match if isPadded cs then none else float? cs with
        | some x => .float (Decimal.text .positional x)
        | none => .text s

end Polyglot.Yaml.Plain
