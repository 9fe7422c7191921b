/-!
# YAML text with positions

A YAML text is read as a list of characters that know where they stand. Line breaks are resolved
here: each of the spellings of a line feed is one character `'\n'`, and the two Unicode separators
remain themselves. After this no reader has to count lines again.
-/

namespace FaultyServer.Yaml

/-- A position in a text: characters, lines and characters in the line before it. -/
structure Mark where
  index : Nat
  line : Nat
  column : Nat
  deriving DecidableEq, Inhabited

namespace Mark

/-- The beginning of a text. -/
def start : Mark := ⟨0, 0, 0⟩

/-- The position after a character that does not end the line. -/
def next (m : Mark) : Mark := ⟨m.index + 1, m.line, m.column + 1⟩

/-- The position after a line break of `width` characters. -/
def nextLine (m : Mark) (width : Nat) : Mark := ⟨m.index + width, m.line + 1, 0⟩

end Mark

/-- A character and its position. -/
structure Glyph where
  char : Char
  mark : Mark
  deriving DecidableEq

/-- The byte order mark. -/
def byteOrderMark : Char := '\uFEFF'

/-- The characters that may stand in a YAML text. -/
def isAllowed (c : Char) : Bool :=
  let n := c.toNat
  n == 9 || n == 0xA || n == 0xD || (0x20 ≤ n && n ≤ 0x7E) || n == 0x85 ||
    (0xA0 ≤ n && n ≤ 0xD7FF) || (0xE000 ≤ n && n ≤ 0xFFFD) || (0x10000 ≤ n && n ≤ 0x10FFFF)

/-- A space or a tab. -/
def isBlank (c : Char) : Bool := c == ' ' || c == '\t'

/-- A resolved line break. -/
def isBreak (c : Char) : Bool := c == '\n' || c == '\u2028' || c == '\u2029'

/-- A character that separates words. -/
def isSpace (c : Char) : Bool := isBlank c || isBreak c

/-- The characters of a text with their positions, and the position of its end. -/
def locate (m : Mark) : List Char → List Glyph × Mark
  | [] => ([], m)
  | '\r' :: '\n' :: r =>
    let (glyphs, finish) := locate (m.nextLine 2) r
    (⟨'\n', m⟩ :: glyphs, finish)
  | c :: r =>
    if c = '\n' ∨ c = '\r' ∨ c = '\x85' then
      let (glyphs, finish) := locate (m.nextLine 1) r
      (⟨'\n', m⟩ :: glyphs, finish)
    else
      let (glyphs, finish) := locate (if isBreak c then m.nextLine 1 else m.next) r
      (⟨c, m⟩ :: glyphs, finish)

/-- The position before the characters that are left. -/
def here (finish : Mark) : List Glyph → Mark
  | [] => finish
  | g :: _ => g.mark

/-- Whether a word has ended: at the end of the text, at a blank or at a line break. -/
def atSpace : List Glyph → Bool
  | [] => true
  | g :: _ => isSpace g.char

/-- Whether a line has ended. -/
def atBreak : List Glyph → Bool
  | [] => true
  | g :: _ => isBreak g.char

/-- Whether the text goes on with these characters. -/
def goesOn (word : List Char) (gs : List Glyph) : Bool :=
  (gs.take word.length).map (·.char) == word

/-- Whether a line starts with a document marker here. -/
def atDocumentMarker (gs : List Glyph) : Bool :=
  match gs with
  | [] => false
  | g :: _ =>
    g.mark.column == 0 && (goesOn ['-', '-', '-'] gs || goesOn ['.', '.', '.'] gs) &&
      atSpace (gs.drop 3)

end FaultyServer.Yaml
