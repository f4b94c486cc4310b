/-!
# Styled text

Text for a terminal: padded to a width and, where colour is wanted, between the
codes that switch a style on and off. Padding counts characters and lies inside the
codes.

- `Style.paintTo`: a text in a style.
- `Screen.colored`: whether colour is wanted.
-/

namespace Polyglot

/-- How a piece of text stands out. -/
inductive Style where
  | plain
  | bold
  | dimmed
  | green
  | cyan
  | yellow
  | boldGreen
deriving DecidableEq, Repr

namespace Style

/-- The numbers of the style's code. -/
def code : Style → String
  | .plain => ""
  | .bold => "1"
  | .dimmed => "2"
  | .green => "32"
  | .cyan => "36"
  | .yellow => "33"
  | .boldGreen => "1;32"

/-- The code that switches the style on. -/
def opening (s : Style) : String := "\x1b[" ++ s.code ++ "m"

/-- The code that switches every style off. -/
def closing : String := "\x1b[0m"

/-- Repeat `again` behind every place where `mark` stands, the places found from the front
without overlap. -/
def repeatAfter (mark again : List Char) : (fuel : Nat) → List Char → List Char
  | 0, cs => cs
  | _ + 1, [] => []
  | fuel + 1, c :: cs =>
    if mark.isPrefixOf (c :: cs) then
      mark ++ again ++ repeatAfter mark again fuel ((c :: cs).drop mark.length)
    else c :: repeatAfter mark again fuel cs

end Style

/-- Fill up with blanks on the right. -/
def padRight (width : Nat) (s : String) : String :=
  s ++ String.ofList (List.replicate (width - s.length) ' ')

/-- Fill up with blanks on the left. -/
def padLeft (width : Nat) (s : String) : String :=
  String.ofList (List.replicate (width - s.length) ' ') ++ s

/-- A text in a style, padded to a width. Where the text itself switches styles off, its own
style is switched on again. -/
def Style.paintTo (s : Style) (color : Bool) (width : Nat) (text : String) : String :=
  if !color || s = .plain then padRight width text
  else
    let again := Style.repeatAfter Style.closing.toList s.opening.toList text.length text.toList
    s.opening ++ padRight width (String.ofList again) ++ Style.closing

/-- A text in a style, without padding. -/
def Style.paint (s : Style) (color : Bool) (text : String) : String := s.paintTo color 0 text

/-! ## Where colour is wanted -/

/-- What the output goes to, and what the environment says of colour. -/
structure Screen where
  isTerminal : Bool := false
  clicolor? : Option String := none
  clicolorForce? : Option String := none
  noColor? : Option String := none
deriving DecidableEq, Repr

/-- Colour is wanted where it is forced. Otherwise it is wanted on a terminal, unless one of the
other two variables forbids it. -/
def Screen.colored (s : Screen) : Bool :=
  if s.clicolorForce?.any (· != "0") then true
  else if s.noColor?.isSome then false
  else s.clicolor?.all (· != "0") && s.isTerminal

end Polyglot
