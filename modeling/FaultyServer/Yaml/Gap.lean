import FaultyServer.Yaml.Token

/-!
# Line folding

Inside a plain or quoted scalar, blanks between words stay as they are, a line break becomes one
space, and of several line breaks all but the first stay. A `Gap` is what has been read between two
words.
-/

namespace FaultyServer.Yaml

/-- What stands between two words of a folded scalar. -/
inductive Gap
  /-- Blanks in one line. -/
  | blanks (text : List Char)
  /-- Line breaks: the first one, unless it was escaped, and the rest. -/
  | breaks (first : Option Char) (more : List Char)
  deriving DecidableEq

namespace Gap

/-- Nothing at all. -/
def none : Gap := .blanks []

/-- Adds a blank. Blanks at the start of a line are dropped. -/
def blank (c : Char) : Gap → Gap
  | .blanks text => .blanks (text ++ [c])
  | breaks first more => .breaks first more

/-- Adds a line break. Blanks at the end of a line are dropped. -/
def lineBreak (c : Char) : Gap → Gap
  | .blanks _ => .breaks (some c) []
  | breaks first more => .breaks first (more ++ [c])

/-- Whether the gap goes over the end of a line. -/
def isBroken : Gap → Bool
  | .blanks _ => false
  | breaks .. => true

/-- What the gap contributes to the scalar. -/
def text : Gap → List Char
  | .blanks text => text
  | breaks (some '\n') [] => [' ']
  | breaks (some '\n') more => more
  | breaks (some c) more => c :: more
  | breaks Option.none more => more

/-- Reads blanks and line breaks up to the next word. -/
def read (gap : Gap) : List Glyph → Gap × List Glyph
  | [] => (gap, [])
  | g :: r =>
    if isBlank g.char then read (gap.blank g.char) r
    else if isBreak g.char then read (gap.lineBreak g.char) r
    else (gap, g :: r)

end Gap

end FaultyServer.Yaml
