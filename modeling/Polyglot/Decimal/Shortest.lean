/-!
# Shortest decimals

A binary floating point number is written with the fewest decimal digits that read
back as it; of several such decimals the nearest one is taken, and of two equally
near ones the one that the form of writing asks for. The search goes over
the grids of multiples of a power of ten, from coarse to fine, and looks on each at
the two neighbours of the number, in exact arithmetic on natural numbers.

- `shortest`: digits and exponent of a positive binary number.
- `Form.positional`, `Form.mixed`: how a tie goes and how the digits are laid out.
- `toFloat`: the way back, from a decimal to the binary number.
-/

namespace Polyglot.Decimal

/-- The number `significand * 2 ^ exponent`. `atEdge` says that the next lower number is only
half as far away as the next higher one. -/
structure Binary where
  significand : Nat
  exponent : Int
  atEdge : Bool := false
deriving DecidableEq, Repr

/-- The decimal `digits * 10 ^ exponent`. -/
structure Digits where
  digits : Nat
  exponent : Int
deriving DecidableEq, Repr

/-- Which of two equally near decimals is taken. -/
inductive Tie where
  /-- The greater one. -/
  | upper
  /-- The one with an even last digit. -/
  | even
deriving DecidableEq, Repr

/-- What a floating point number is. -/
inductive Class where
  | nan
  | infinite (negative : Bool)
  | zero (negative : Bool)
  | finite (negative : Bool) (magnitude : Binary)
deriving DecidableEq, Repr

/-- Read the fields of a 64-bit number: sign, eleven exponent bits, 52 fraction bits. -/
def classify (bits : UInt64) : Class :=
  let negative := bits.toNat / Nat.pow 2 63 == 1
  let biased : Nat := bits.toNat / Nat.pow 2 52 % Nat.pow 2 11
  let fraction : Nat := bits.toNat % Nat.pow 2 52
  if biased == 2047 then if fraction == 0 then .infinite negative else .nan
  else if biased == 0 then
    if fraction == 0 then .zero negative else .finite negative ⟨fraction, -1074, false⟩
  else .finite negative ⟨fraction + Nat.pow 2 52, biased - 1075, fraction == 0 && biased != 1⟩

/-! ## The search -/

/-- Of two neighbours on a grid, the one that is nearer by its distance, or by the rule for ties. -/
def nearer (tie : Tie) (below toBelow toAbove : Nat) : Nat :=
  match compare toBelow toAbove, tie with
  | .lt, _ => below
  | .gt, _ => below + 1
  | .eq, .upper => below + 1
  | .eq, .even => if below % 2 == 0 then below else below + 1

/-- The decimal on the grid of multiples of `10 ^ e` that reads back as `x` and is nearest to it.

With numerator and denominator of `x / 10 ^ e` over four, the numbers that read as `x` reach from
`4 * m - 2` (at an edge `4 * m - 1`) to `4 * m + 2`; the ends belong to them when `m` is even. -/
def onGrid (tie : Tie) (x : Binary) (e : Int) : Option Digits :=
  let m := x.significand
  let scale := x.exponent - 2
  let num := Nat.pow 2 scale.toNat * Nat.pow 10 (-e).toNat
  let den := Nat.pow 2 (-scale).toNat * Nat.pow 10 e.toNat
  let value := 4 * m * num
  let low := (if x.atEdge then 4 * m - 1 else 4 * m - 2) * num
  let high := (4 * m + 2) * num
  let inside (d : Nat) : Bool :=
    d != 0 && if m % 2 == 0 then low ≤ d * den && d * den ≤ high else low < d * den && d * den < high
  let below := value / den
  let above := below + 1
  match inside below, inside above with
  | true, true => some ⟨nearer tie below (value - below * den) (above * den - value), e⟩
  | true, false => some ⟨below, e⟩
  | false, true => some ⟨above, e⟩
  | false, false => none

/-- The first hit on the grids with exponents `top`, `top - 1`, …, as many as `count`. -/
def search (tie : Tie) (x : Binary) : (count : Nat) → (top : Int) → Option Digits
  | 0, _ => none
  | count + 1, top =>
    match onGrid tie x top with
    | some d => some d
    | none => search tie x count (top - 1)

/-- The fewest digits that read back as a positive number; no grid finer than the last of these
is needed for 64-bit numbers. -/
def shortest (tie : Tie) (x : Binary) : Digits :=
  (search tie x 634 309).getD ⟨x.significand, x.exponent⟩

/-! ## Layout -/

namespace Layout

/-- So many zeros. -/
def zeros (n : Nat) : String := String.ofList (List.replicate n '0')

/-- All digits in their places, with at least one behind the point. -/
def positional (d : Digits) : String :=
  let ds := toString d.digits
  let point := (ds.length : Int) + d.exponent
  if 0 ≤ d.exponent then ds ++ zeros d.exponent.toNat ++ ".0"
  else if 0 < point then
    String.ofList (ds.toList.take point.toNat) ++ "." ++ String.ofList (ds.toList.drop point.toNat)
  else "0." ++ zeros (-point).toNat ++ ds

/-- One digit before the point and an exponent, which always has a sign. -/
def scientific (d : Digits) : String :=
  let ds := toString d.digits
  let exponent := (ds.length : Int) + d.exponent - 1
  let mark := if 0 ≤ exponent then "e+" else "e-"
  match ds.toList with
  | [] => ""
  | [c] => c.toString ++ mark ++ toString exponent.natAbs
  | c :: cs => c.toString ++ "." ++ String.ofList cs ++ mark ++ toString exponent.natAbs

/-- Digits in their places while the point lies among or near the first sixteen of them. -/
def mixed (d : Digits) : String :=
  let point := ((toString d.digits).length : Int) + d.exponent
  if -5 < point && point ≤ 16 then positional d else scientific d

end Layout

/-- A form of writing numbers. -/
structure Form where
  tie : Tie
  layout : Digits → String

/-- All digits in their places; a tie goes up. -/
def Form.positional : Form := ⟨.upper, Layout.positional⟩

/-- Very large and very small numbers with an exponent; a tie goes to the even digit. -/
def Form.mixed : Form := ⟨.even, Layout.mixed⟩

/-- The text of a number. -/
def text (form : Form) (x : Float) : String :=
  match classify x.toBits with
  | .nan => "NaN"
  | .infinite negative => if negative then "-inf" else "inf"
  | .zero negative => if negative then "-0.0" else "0.0"
  | .finite negative magnitude =>
    (if negative then "-" else "") ++ form.layout (shortest form.tie magnitude)

/-! ## The value of a decimal -/

/-- The floating point number nearest to `digits * 10 ^ exponent`. A decimal far outside the range
of these numbers is known to be infinite or zero by its size alone. -/
def toFloat (digits : Nat) (exponent : Int) : Float :=
  let size := (toString digits).length + exponent
  if digits == 0 || size < -330 then 0.0
  else if 310 < size then 1.0 / 0.0
  else Float.ofScientific digits (exponent < 0) exponent.natAbs

end Polyglot.Decimal
