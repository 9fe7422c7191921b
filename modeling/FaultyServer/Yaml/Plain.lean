import FaultyServer.Yaml.Gap

/-!
# Plain scalars

A plain scalar is words with gaps between them. It ends at a comment, at a colon before a space, at
a document marker, inside a flow collection at a delimiter, and outside of one where the indentation
ends.
-/

namespace FaultyServer.Yaml

/-- The delimiters of flow collections. -/
def isFlowDelimiter (c : Char) : Bool :=
  c == ',' || c == '[' || c == ']' || c == '\x7b' || c == '\x7d'

/-- Reads one word of a plain scalar: its characters in reverse after what `text` already holds, and
what follows. -/
def readWord (inFlow : Bool) (text : List Char) :
    List Glyph → Except SyntaxFault (List Char × List Glyph)
  | [] => .ok (text, [])
  | g :: r =>
    if isSpace g.char then .ok (text, g :: r)
    else if inFlow && g.char == ':' &&
        (match r with
          | next :: _ => isFlowDelimiter next.char || next.char == '?'
          | [] => false) then .error .unexpectedColon
    else if (g.char == ':' && atSpace r) || (inFlow && isFlowDelimiter g.char) then
      .ok (text, g :: r)
    else readWord inFlow (g.char :: text) r

/-- Reads the gap after a word. A tab may not indent a continuation line. -/
def readPlainGap (indent : Int) (gap : Gap) :
    List Glyph → Except SyntaxFault (Gap × List Glyph)
  | [] => .ok (gap, [])
  | g :: r =>
    if isBlank g.char then
      if gap.isBroken && decide (Int.ofNat g.mark.column < indent) && g.char == '\t' then
        .error .tabIndentation
      else readPlainGap indent (gap.blank g.char) r
    else if isBreak g.char then readPlainGap indent (gap.lineBreak g.char) r
    else .ok (gap, g :: r)

/-- A plain scalar that has been read: its text, where it ends, whether a line ended after it, and
what follows. -/
structure PlainScalar where
  text : List Char
  finish : Mark
  endsLine : Bool
  rest : List Glyph

/-- Reads a plain scalar word by word, given its text so far in reverse, where that ends, and the
gap after it. Every word takes at least one character, so `fuel` characters bound their number. -/
def readPlain (finish : Mark) (inFlow : Bool) (indent : Int) :
    Nat → List Char → Mark → Gap → List Glyph → Except SyntaxFault PlainScalar
  | 0, text, stop, gap, gs => .ok ⟨text.reverse, stop, gap.isBroken, gs⟩
  | fuel + 1, text, stop, gap, gs => do
    if atDocumentMarker gs || goesOn ['#'] gs then
      return ⟨text.reverse, stop, gap.isBroken, gs⟩
    let (word, rest) ← readWord inFlow [] gs
    if word.isEmpty then return ⟨text.reverse, stop, gap.isBroken, gs⟩
    let text := word ++ (gap.text.reverse ++ text)
    let stop := here finish rest
    let (gap, rest) ← readPlainGap indent Gap.none rest
    if rest.isEmpty || gap == Gap.none ||
        (!inFlow && decide (Int.ofNat (here finish rest).column < indent)) then
      return ⟨text.reverse, stop, gap.isBroken, rest⟩
    readPlain finish inFlow indent fuel text stop gap rest

end FaultyServer.Yaml
