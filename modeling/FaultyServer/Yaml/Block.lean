import FaultyServer.Yaml.Token

/-!
# Block scalars

The literal and the folded style, whose lines stand below a header and are indented deeper than
what encloses them. The header may name the indentation and say what becomes of the line breaks at
the end; otherwise the first line that is not empty sets the indentation.
-/

namespace FaultyServer.Yaml

/-- What becomes of the line breaks at the end of a block scalar. -/
inductive Chomping
  /-- The last line keeps its break. -/
  | clip
  /-- No break is kept. -/
  | strip
  /-- Every break is kept. -/
  | keep
  deriving DecidableEq

/-- The header of a block scalar; an `increment` of zero leaves the indentation open. -/
structure BlockHeader where
  chomping : Chomping
  increment : Nat
  deriving DecidableEq

/-- Reads a chomping sign. -/
def chomping? : List Glyph → Option (Chomping × List Glyph)
  | g :: r =>
    if g.char = '+' then some (.keep, r) else if g.char = '-' then some (.strip, r) else none
  | [] => none

/-- Reads an indentation digit, which may not be zero. -/
def increment? : List Glyph → Except SyntaxFault (Option (Nat × List Glyph))
  | g :: r =>
    if g.char = '0' then .error .badBlockHeader
    else if '1' ≤ g.char ∧ g.char ≤ '9' then .ok (some (g.char.toNat - '0'.toNat, r))
    else .ok none
  | [] => .ok none

/-- Reads sign and digit of a header, in either order. -/
def readHeader (gs : List Glyph) : Except SyntaxFault (BlockHeader × List Glyph) := do
  match chomping? gs with
  | some (chomping, gs) =>
    match ← increment? gs with
    | some (n, gs) => pure (⟨chomping, n⟩, gs)
    | none => pure (⟨chomping, 0⟩, gs)
  | none =>
    match ← increment? gs with
    | some (n, gs) =>
      match chomping? gs with
      | some (chomping, gs) => pure (⟨chomping, n⟩, gs)
      | none => pure (⟨.clip, n⟩, gs)
    | none => pure (⟨.clip, 0⟩, gs)

/-- Reads blanks and a comment up to the end of the line, and the line break. -/
def readLineEnd (fault : SyntaxFault) (gs : List Glyph) : Except SyntaxFault (List Glyph) :=
  let gs := gs.dropWhile (isBlank ·.char)
  let gs := if goesOn ['#'] gs then gs.dropWhile (!isBreak ·.char) else gs
  match gs with
  | [] => .ok []
  | g :: r => if isBreak g.char then .ok r else .error fault

/-- The line breaks before a line, the deepest column reached on the way, and where the last of the
breaks ends. -/
structure EmptyLines where
  breaks : List Char
  deepest : Nat
  stop : Mark

/-- Reads empty lines, dropping their indentation up to column `indent`, or all of it if that is
zero. -/
def readEmptyLines (finish : Mark) (indent : Nat) (lines : EmptyLines) :
    List Glyph → Except SyntaxFault (EmptyLines × List Glyph)
  | [] => .ok (⟨lines.breaks, max lines.deepest finish.column, lines.stop⟩, [])
  | g :: r =>
    let inIndent := indent == 0 || decide (g.mark.column < indent)
    if inIndent && g.char == ' ' then readEmptyLines finish indent lines r
    else
      let deepest := max lines.deepest g.mark.column
      if inIndent && g.char == '\t' then .error .tabIndentation
      else if isBreak g.char then
        readEmptyLines finish indent ⟨lines.breaks ++ [g.char], deepest, here finish r⟩ r
      else .ok (⟨lines.breaks, deepest, lines.stop⟩, g :: r)

/-- The line break after a line, if the text goes on. -/
def readBreak : List Glyph → List Char × List Glyph
  | [] => ([], [])
  | g :: r => ([g.char], r)

/-- A block scalar that has been read: its text, where it ends, and what follows. -/
structure BlockScalar where
  text : List Char
  stop : Mark
  rest : List Glyph

/-- Reads the lines of a block scalar. `text` is what has been read, `pending` the break after its
last line, `afterBlank` says that this line started with a blank, and `lines` are the empty lines
that follow it. A line and its break take at least one character, so `fuel` characters bound the
number of lines. -/
def readLines (finish : Mark) (isFolded : Bool) (chomping : Chomping) (indent : Nat) :
    Nat → List Char → List Char → Bool → EmptyLines → List Glyph →
      Except SyntaxFault BlockScalar
  | 0, text, _, _, lines, gs => .ok ⟨text, lines.stop, gs⟩
  | fuel + 1, text, pending, afterBlank, lines, gs =>
    if gs.isEmpty || (here finish gs).column != indent then
      let kept :=
        match chomping with
        | .strip => []
        | .clip => pending
        | .keep => pending ++ lines.breaks
      .ok ⟨text ++ kept, lines.stop, gs⟩
    else do
      let startsBlank := gs.head?.any (isBlank ·.char)
      let joint :=
        if isFolded && pending == ['\n'] && !afterBlank && !startsBlank then
          if lines.breaks.isEmpty then [' '] else []
        else pending
      let line := (gs.takeWhile (!isBreak ·.char)).map (·.char)
      let (pending, rest) := readBreak (gs.dropWhile (!isBreak ·.char))
      let (next, rest) ← readEmptyLines finish indent ⟨[], 0, here finish rest⟩ rest
      readLines finish isFolded chomping indent fuel (text ++ joint ++ lines.breaks ++ line) pending
        startsBlank next rest

/-- Reads a block scalar after its indicator. `indent` is the column of what encloses it. -/
def readBlock (finish : Mark) (isFolded : Bool) (indent : Int) (gs : List Glyph) :
    Except SyntaxFault BlockScalar := do
  let (header, gs) ← readHeader gs
  let gs ← readLineEnd .badBlockHeader gs
  let given := if header.increment = 0 then 0 else (max indent 0).toNat + header.increment
  let (lines, gs) ← readEmptyLines finish given ⟨[], 0, here finish gs⟩ gs
  let column := if given = 0 then max 1 (max lines.deepest (indent + 1).toNat) else given
  readLines finish isFolded header.chomping column (gs.length + 1) [] [] false lines gs

end FaultyServer.Yaml
