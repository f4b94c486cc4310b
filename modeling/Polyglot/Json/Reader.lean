import Polyglot.Decimal.Shortest
import Polyglot.Json.Value
import Polyglot.Text.Quoted

/-!
# Reading JSON

`Value.read?` reads a whole text. The fields of an object come out in ascending
order of name, and of several fields of one name the last one counts.
-/

namespace Polyglot.Json

/-- Drop the blanks between tokens. -/
def skipBlanks (cs : List Char) : List Char :=
  cs.dropWhile fun c => c = ' ' || c = '\n' || c = '\t' || c = '\r'

/-- Four digits to base sixteen. -/
def hex4? : List Char → Option (Nat × List Char)
  | a :: b :: c :: d :: rest => (Text.natural? 16 [a, b, c, d]).map (·, rest)
  | _ => none

/-- The character of a number escape, which takes a second one when it begins with a high
surrogate. -/
def escapedNumber? (cs : List Char) : Option (Char × List Char) := do
  let (n, rest) ← hex4? cs
  if 0xD800 ≤ n && n < 0xDC00 then
    match rest with
    | '\\' :: 'u' :: rest =>
      let (m, rest) ← hex4? rest
      if 0xDC00 ≤ m && m < 0xE000 then
        some (Char.ofNat (0x10000 + (n - 0xD800) * 0x400 + (m - 0xDC00)), rest)
      else none
    | _ => none
  else if 0xDC00 ≤ n && n < 0xE000 then none
  else some (Char.ofNat n, rest)

/-- The characters that are escaped by one letter. -/
def escapedLetter? : Char → Option Char
  | '"' => some '"'
  | '\\' => some '\\'
  | '/' => some '/'
  | 'b' => some '\x08'
  | 'f' => some '\x0C'
  | 'n' => some '\n'
  | 'r' => some '\r'
  | 't' => some '\t'
  | _ => none

/-- The rest of a string behind its opening quote; `done` is what was read, last first. -/
def readString : (fuel : Nat) → (done : List Char) → List Char → Option (String × List Char)
  | 0, _, _ => none
  | _ + 1, _, [] => none
  | _ + 1, done, '"' :: rest => some (String.ofList done.reverse, rest)
  | fuel + 1, done, '\\' :: 'u' :: rest => do
    let (c, rest) ← escapedNumber? rest
    readString fuel (c :: done) rest
  | fuel + 1, done, '\\' :: c :: rest => do
    let c ← escapedLetter? c
    readString fuel (c :: done) rest
  | fuel + 1, done, c :: rest =>
    if c.toNat < 0x20 || c = '\\' then none else readString fuel (c :: done) rest

/-! ## Numbers

Of the digits of a number as many count as make a natural number below `2 ^ 64`. That number is
rounded to a floating point number, and the result is rounded once more when it is multiplied or
divided by the power of ten. -/

/-- Go on with a number by the digits that keep it below `2 ^ 64`. Returns the digits left out. -/
def takeDigits (n : Nat) : List Char → Nat × List Char
  | [] => (n, [])
  | c :: cs =>
    let m := 10 * n + (c.toNat - '0'.toNat)
    if m < Nat.pow 2 64 then takeDigits m cs else (n, c :: cs)

/-- The number `x * 10 ^ exponent`, for negative exponents by steps of at most `10 ^ 308`. There is
none beyond the range of floating point numbers. -/
def scale : (fuel : Nat) → (x : Float) → (exponent : Int) → Option Float
  | 0, _, _ => none
  | fuel + 1, x, exponent =>
    if exponent.natAbs ≤ 308 then
      let power := Decimal.toFloat 1 exponent.natAbs
      let y := if 0 ≤ exponent then x * power else x / power
      if y.isInf then none else some y
    else if x == 0.0 then some x
    else if 0 ≤ exponent then none
    else scale fuel (x / Decimal.toFloat 1 308) (exponent + 308)

/-- The number `digits * 10 ^ exponent`. -/
def floatValue (negative : Bool) (digits : Nat) (exponent : Int) : Option Value := do
  let x ← scale (exponent.natAbs / 308 + 1) (Decimal.toFloat digits 0) exponent
  some (.float (if negative then -x else x))

/-- An integer of 64 bits, signed if negative and unsigned otherwise; beyond that, and for `-0`,
a floating point number. -/
def integerValue (negative : Bool) (n : Nat) : Value :=
  if negative then
    if n == 0 || Nat.pow 2 63 < n then .float (-(Decimal.toFloat n 0)) else .integer (-n)
  else .integer n

/-- The optional fraction: its digits. -/
def readFraction : List Char → Option (List Char × List Char)
  | '.' :: rest =>
    let ds := rest.takeWhile Char.isDigit
    if ds.isEmpty then none else some (ds, rest.dropWhile Char.isDigit)
  | cs => some ([], cs)

/-- The optional exponent. -/
def readExponent : List Char → Option (Option Int × List Char)
  | c :: rest =>
    if c = 'e' || c = 'E' then
      let (negative, rest) := match rest with
        | '+' :: rest => (false, rest)
        | '-' :: rest => (true, rest)
        | rest => (false, rest)
      (Text.natural? 10 (rest.takeWhile Char.isDigit)).map fun n =>
        (some (if negative then -n else n), rest.dropWhile Char.isDigit)
    else some (none, c :: rest)
  | [] => some (none, [])

/-- A number. -/
def readNumber (cs : List Char) : Option (Value × List Char) := do
  let (negative, cs) := match cs with
    | '-' :: rest => (true, rest)
    | cs => (false, cs)
  let whole := cs.takeWhile Char.isDigit
  if whole.isEmpty || (whole.length > 1 && whole.head? == some '0') then none
  else
    let (fraction, rest) ← readFraction (cs.dropWhile Char.isDigit)
    let (exponent?, rest) ← readExponent rest
    let (n, wholeLeft) := takeDigits 0 whole
    if wholeLeft.isEmpty && fraction.isEmpty && exponent?.isNone then
      some (integerValue negative n, rest)
    else
      let (n, fractionLeft) := takeDigits n fraction
      let places : Int := wholeLeft.length + fractionLeft.length - fraction.length
      some (← floatValue negative n (exponent?.getD 0 + places), rest)

/-! ## Values -/

/-- A word that stands for a value. -/
def readWord (word : String) (v : Value) (cs : List Char) : Option (Value × List Char) :=
  if cs.take word.length = word.toList then some (v, cs.drop word.length) else none

mutual

/-- A value, with blanks in front of it. -/
def readValue : (fuel : Nat) → List Char → Option (Value × List Char)
  | 0, _ => none
  | fuel + 1, cs =>
    match skipBlanks cs with
    | 'n' :: rest => readWord "null" .null ('n' :: rest)
    | 't' :: rest => readWord "true" (.boolean true) ('t' :: rest)
    | 'f' :: rest => readWord "false" (.boolean false) ('f' :: rest)
    | '"' :: rest => (readString (rest.length + 1) [] rest).map fun (s, rest) => (.text s, rest)
    | '[' :: rest =>
      match skipBlanks rest with
      | ']' :: rest => some (.array [], rest)
      | rest => readItems fuel [] rest
    | '\x7b' :: rest =>
      match skipBlanks rest with
      | '\x7d' :: rest => some (.object [], rest)
      | rest => readFields fuel [] rest
    | rest => readNumber rest

/-- The items of an array up to its end; `done` came before, last first. -/
def readItems : (fuel : Nat) → (done : List Value) → List Char → Option (Value × List Char)
  | 0, _, _ => none
  | fuel + 1, done, cs => do
    let (v, rest) ← readValue fuel cs
    match skipBlanks rest with
    | ',' :: rest => readItems fuel (v :: done) rest
    | ']' :: rest => some (.array (v :: done).reverse, rest)
    | _ => none

/-- The fields of an object up to its end. -/
def readFields : (fuel : Nat) → (done : List (String × Value)) → List Char →
    Option (Value × List Char)
  | 0, _, _ => none
  | fuel + 1, done, cs =>
    match skipBlanks cs with
    | '"' :: rest => do
      let (name, rest) ← readString (rest.length + 1) [] rest
      match skipBlanks rest with
      | ':' :: rest =>
        let (v, rest) ← readValue fuel rest
        let done := putField name v done
        match skipBlanks rest with
        | ',' :: rest => readFields fuel done rest
        | '\x7d' :: rest => some (.object done, rest)
        | _ => none
      | _ => none
    | _ => none

end

/-- The value that a whole text stands for. -/
def Value.read? (s : String) : Option Value := do
  let cs := s.toList
  let (v, rest) ← readValue (cs.length + 1) cs
  if (skipBlanks rest).isEmpty then some v else none

end Polyglot.Json
