import Polyglot.Yaml.Cursor

/-!
# Line folding

Between two words of a scalar lies a gap of blanks and line breaks. A gap inside a
line stands for itself. In a gap with line breaks the blanks do not count: one line
feed stands for a space, and further line breaks stand for themselves.

- `Gap.text`: what a gap stands for.
- `Gap.scan`: the gap at a place.
-/

namespace Polyglot.Yaml

/-- Blanks and line breaks between two words. -/
structure Gap where
  /-- The blanks, last first, while there is no line break. -/
  blanks : List Char := []
  /-- What the first line break is read as; empty for one that was escaped. -/
  first? : Option (List Char) := none
  /-- What the other line breaks are read as. -/
  more : List Char := []
deriving DecidableEq, Repr, Inhabited

namespace Gap

/-- Whether there is a line break. -/
def broken (g : Gap) : Bool := g.first?.isSome

/-- What the gap stands for. -/
def text (g : Gap) : List Char :=
  match g.first? with
  | none => g.blanks.reverse
  | some ['\n'] => if g.more.isEmpty then [' '] else g.more
  | some first => first ++ g.more

/-- Take a line break into the gap. -/
def addBreak (g : Gap) (text : List Char) : Gap :=
  match g.first? with
  | none => { g with blanks := [], first? := some text }
  | some _ => { g with more := g.more ++ text }

/-- Go on with a gap up to the next word. Behind a line break a tab must not stand to the left
of `margin`, where one is given. -/
def scan (margin : Option Int) : (fuel : Nat) → Gap → Cursor → Option (Gap × Cursor)
  | 0, _, _ => none
  | fuel + 1, g, c =>
    match c.peek 0 with
    | some ch =>
      if isGap ch then
        if g.broken then
          if ch = '\t' && margin.any ((c.mark.column : Int) < ·) then none
          else scan margin fuel g (c.skip 1)
        else scan margin fuel { g with blanks := ch :: g.blanks } (c.skip 1)
      else if isBreak ch then
        let (text, c) := c.newLine
        scan margin fuel (g.addBreak text) c
      else some (g, c)
    | none => some (g, c)

end Gap

end Polyglot.Yaml
