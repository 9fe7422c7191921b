import FaultyServer.Yaml.Token
import FaultyServer.Text.Number

/-!
# Names, tags and directives

The parts of a YAML text that are made of words: the names of anchors, tags with their handles, and
the directives before a document. A tag may spell bytes in hexadecimal after a percent sign; the
bytes have to have the shape of UTF-8.
-/

namespace FaultyServer.Yaml

/-- A character of a name. -/
def isNameChar (c : Char) : Bool := Text.isLetter c || Text.isDigit c || c == '_' || c == '-'

/-- The name at the front of a text. -/
def readName (gs : List Glyph) : List Char × List Glyph :=
  ((gs.takeWhile (isNameChar ·.char)).map (·.char), gs.dropWhile (isNameChar ·.char))

/-- Reads the name of an anchor or alias after its indicator. -/
def readAnchorName (gs : List Glyph) : Except SyntaxFault (List Char × List Glyph) :=
  let (name, rest) := readName gs
  let ends := atSpace rest || rest.head?.any fun g =>
    ['?', ':', ',', ']', '\x7d', '%', '@', '\x60'].contains g.char
  if name.isEmpty || !ends then .error .badAnchor else .ok (name, rest)

/-- A byte written as two hexadecimal digits. -/
def escapedByte? : List Glyph → Option (Nat × List Glyph)
  | p :: a :: b :: r =>
    if p.char = '%' then
      match Text.digit? 16 a.char, Text.digit? 16 b.char with
      | some a, some b => some (a * 16 + b, r)
      | _, _ => none
    else none
  | _ => none

/-- How many bytes a character of UTF-8 has that starts with this byte. -/
def sequenceLength? (byte : Nat) : Option Nat :=
  if byte < 0x80 then some 1
  else if 0xC0 ≤ byte ∧ byte < 0xE0 then some 2
  else if 0xE0 ≤ byte ∧ byte < 0xF0 then some 3
  else if 0xF0 ≤ byte ∧ byte < 0xF8 then some 4
  else none

/-- Reads this many bytes that continue a character. -/
def readContinuation : Nat → List Glyph → Except SyntaxFault (TagBytes × List Glyph)
  | 0, gs => .ok ([], gs)
  | n + 1, gs =>
    match escapedByte? gs with
    | some (byte, gs) =>
      if 0x80 ≤ byte ∧ byte < 0xC0 then do
        let (bytes, gs) ← readContinuation n gs
        pure (UInt8.ofNat byte :: bytes, gs)
      else .error .badTag
    | none => .error .badTag

/-- Reads one character that is written byte by byte. -/
def readEscapes (gs : List Glyph) : Except SyntaxFault (TagBytes × List Glyph) :=
  match escapedByte? gs with
  | none => .error .badTag
  | some (byte, gs) =>
    match sequenceLength? byte with
    | none => .error .badTag
    | some n => do
      let (bytes, gs) ← readContinuation (n - 1) gs
      pure (UInt8.ofNat byte :: bytes, gs)

/-- A character of a tag. Commas and brackets belong only to a verbatim tag or a directive. -/
def isTagChar (verbatim : Bool) (c : Char) : Bool :=
  isNameChar c || [';', '/', '?', ':', '@', '&', '=', '+', '$', '.', '%', '!', '~', '*', '\'', '(',
    ')'].contains c || (verbatim && [',', '[', ']'].contains c)

/-- Reads the characters of a tag; `fuel` is at least their number. -/
def readTagChars (verbatim : Bool) : Nat → List Glyph → Except SyntaxFault (TagBytes × List Glyph)
  | _, [] => .ok ([], [])
  | 0, gs => .ok ([], gs)
  | fuel + 1, g :: r =>
    if g.char = '%' then do
      let (bytes, rest) ← readEscapes (g :: r)
      let (more, rest) ← readTagChars verbatim fuel rest
      pure (bytes ++ more, rest)
    else if isTagChar verbatim g.char then do
      let (more, rest) ← readTagChars verbatim fuel r
      pure (UInt8.ofNat g.char.toNat :: more, rest)
    else .ok ([], g :: r)

/-- The bytes of basic Latin text. -/
def asciiBytes (cs : List Char) : TagBytes := cs.map fun c => UInt8.ofNat c.toNat

/-- A text ends at its first NUL. -/
def untilNul (bytes : TagBytes) : TagBytes := bytes.takeWhile (· != 0)

/-- Reads the handle of a tag: an exclamation mark, a name, and possibly another mark. -/
def readHandle : List Glyph → Except SyntaxFault (List Char × List Glyph)
  | g :: r =>
    if g.char = '!' then
      let (name, rest) := readName r
      match rest with
      | h :: rest' =>
        if h.char = '!' then .ok ('!' :: name ++ ['!'], rest') else .ok ('!' :: name, rest)
      | [] => .ok ('!' :: name, [])
    else .error .badTag
  | [] => .error .badTag

/-- A handle that stands for a declared start of tags: two exclamation marks. -/
def isNamedHandle (handle : List Char) : Bool :=
  1 < handle.length && handle.getLast? == some '!'

/-- Reads a tag: a verbatim one, one with a named handle, or a local one. -/
def readTag (inFlow : Bool) (gs : List Glyph) :
    Except SyntaxFault (Token × List Glyph) := do
  let (token, rest) ←
    if goesOn ['!', '<'] gs then
      let (bytes, rest) ← readTagChars true gs.length (gs.drop 2)
      if bytes.isEmpty || !goesOn ['>'] rest then .error .badTag
      else pure (Token.tag [] (untilNul bytes), rest.drop 1)
    else
      let (handle, rest) ← readHandle gs
      if isNamedHandle handle then
        let (bytes, rest) ← readTagChars false gs.length rest
        if bytes.isEmpty then .error .badTag else pure (Token.tag handle (untilNul bytes), rest)
      else
        let (bytes, rest) ← readTagChars false gs.length rest
        let suffix := untilNul (asciiBytes (handle.drop 1) ++ bytes)
        if suffix.isEmpty then pure (Token.tag [] (asciiBytes ['!']), rest)
        else pure (Token.tag ['!'] suffix, rest)
  if atSpace rest || (inFlow && goesOn [','] rest) then pure (token, rest) else .error .badTag

/-- Reads a number of at most nine digits. -/
def readVersionNumber (gs : List Glyph) : Except SyntaxFault (Nat × List Glyph) :=
  let digits := (gs.takeWhile (Text.isDigit ·.char)).map (·.char)
  match Text.natural? 10 digits with
  | some n =>
    if digits.length ≤ 9 then .ok (n, gs.dropWhile (Text.isDigit ·.char)) else .error .badDirective
  | none => .error .badDirective

/-- Reads the value of a version directive. -/
def readVersion (gs : List Glyph) : Except SyntaxFault (Token × List Glyph) := do
  let (major, gs) ← readVersionNumber (gs.dropWhile (isBlank ·.char))
  if goesOn ['.'] gs then
    let (minor, gs) ← readVersionNumber (gs.drop 1)
    pure (.versionDirective major minor, gs)
  else .error .badDirective

/-- Reads the value of a tag directive. -/
def readTagDeclaration (gs : List Glyph) : Except SyntaxFault (Token × List Glyph) := do
  let (handle, gs) ← readHandle (gs.dropWhile (isBlank ·.char))
  if handle != ['!'] && !isNamedHandle handle then .error .badDirective
  else if !gs.head?.any (isBlank ·.char) then .error .badDirective
  else
    let (bytes, gs) ← readTagChars true gs.length (gs.dropWhile (isBlank ·.char))
    if bytes.isEmpty || !atSpace gs then .error .badDirective
    else pure (.tagDirective handle (untilNul bytes), gs)

/-- Reads a directive after its percent sign. -/
def readDirective (gs : List Glyph) : Except SyntaxFault (Token × List Glyph) :=
  let (name, rest) := readName gs
  if name.isEmpty || !atSpace rest then .error .badDirective
  else if name = ['Y', 'A', 'M', 'L'] then readVersion rest
  else if name = ['T', 'A', 'G'] then readTagDeclaration rest
  else .error .badDirective

end FaultyServer.Yaml
