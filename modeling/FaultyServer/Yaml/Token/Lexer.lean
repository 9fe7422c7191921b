import FaultyServer.Yaml.Block
import FaultyServer.Yaml.Plain
import FaultyServer.Yaml.Quoted
import FaultyServer.Yaml.Tag

/-!
# Reading tokens

The lexer turns a located text into tokens. Two things make it more than a loop over the text.

* *Indentation.* Outside flow collections the column of a token opens and closes block collections,
  so tokens appear that no character stands for.
* *Keys.* Whether a node is a mapping's key shows only at the colon after it. The lexer remembers
  where a key may have started, in the current line and at most 1024 characters back, one place for
  each enclosing flow collection, and inserts the key's token there once the colon comes.
-/

namespace FaultyServer.Yaml

/-- A place where a key may have started: the number of tokens before it, its position, and whether
nothing but a key may stand there. -/
structure Candidate where
  position : Nat
  mark : Mark
  isRequired : Bool
  deriving DecidableEq

/-- The lexer between two tokens. -/
structure Lexer where
  /-- What is left of the text. -/
  rest : List Glyph
  /-- Where the text ends. -/
  finish : Mark
  /-- The tokens so far, the newest first. -/
  tokens : List Located
  /-- Where a key may have started in the innermost collection. -/
  candidate : Option Candidate
  /-- The same for the collections around it; there is one for each open flow collection. -/
  outer : List (Option Candidate)
  /-- The column of the innermost block collection, `-1` outside of all. -/
  indent : Int
  /-- The columns of the block collections around it. -/
  indents : List Int
  /-- Whether a key may start here. -/
  keyAllowed : Bool

namespace Lexer

/-- The lexer before a text. -/
def start (glyphs : List Glyph) (finish : Mark) : Lexer :=
  ⟨glyphs, finish, [], none, [], -1, [], true⟩

/-- The position of the next character. -/
def mark (l : Lexer) : Mark := here l.finish l.rest

/-- Whether a flow collection is open. -/
def inFlow (l : Lexer) : Bool := !l.outer.isEmpty

/-- Appends a token. -/
def push (l : Lexer) (token : Token) (start finish : Mark) : Lexer :=
  { l with tokens := ⟨token, start, finish⟩ :: l.tokens }

/-- Puts a token of no width before the token number `position`. -/
def insert (l : Lexer) (position : Nat) (token : Token) (mark : Mark) : Lexer :=
  let newer := l.tokens.length - position
  { l with tokens := l.tokens.take newer ++ ⟨token, mark, mark⟩ :: l.tokens.drop newer }

/-- Moves over the characters up to `rest`. -/
def moveTo (l : Lexer) (rest : List Glyph) : Lexer := { l with rest := rest }

/-- Gives up a place where a key may have started; a required key is missed. -/
def giveUp : Option Candidate → Except SyntaxFault (Option Candidate)
  | some c => if c.isRequired then .error .missingColon else .ok none
  | none => .ok none

/-- Forgets the place where a key may have started. -/
def dropCandidate (l : Lexer) : Except SyntaxFault Lexer := do
  let candidate ← giveUp l.candidate
  pure { l with candidate := candidate }

/-- Notes that a key may start here. -/
def saveCandidate (l : Lexer) : Except SyntaxFault Lexer := do
  if l.keyAllowed then
    let _ ← giveUp l.candidate
    let isRequired := !l.inFlow && l.indent == Int.ofNat l.mark.column
    pure { l with candidate := some ⟨l.tokens.length, l.mark, isRequired⟩ }
  else pure l

/-- Whether a key that started there would be too long if it went on to `now`. -/
def isStale (now : Mark) (c : Candidate) : Bool :=
  decide (c.mark.line < now.line) || decide (c.mark.index + 1024 < now.index)

/-- Gives up a place if it is too far back. -/
def refresh (now : Mark) : Option Candidate → Except SyntaxFault (Option Candidate)
  | some c => if isStale now c then giveUp (some c) else .ok (some c)
  | none => .ok none

/-- Gives up every place that is too far back. -/
def dropStale (l : Lexer) : Except SyntaxFault Lexer := do
  let outer ← l.outer.mapM (refresh l.mark)
  let candidate ← refresh l.mark l.candidate
  pure { l with candidate := candidate, outer := outer }

/-- Opens a block collection at a column, unless one is open there or a flow collection is. Its
token goes before the token number `position`, or at the end. -/
def openBlock (l : Lexer) (column : Nat) (position : Option Nat) (token : Token) (mark : Mark) :
    Lexer :=
  if l.inFlow || decide (Int.ofNat column ≤ l.indent) then l
  else
    let l := { l with indent := Int.ofNat column, indents := l.indent :: l.indents }
    match position with
    | some p => l.insert p token mark
    | none => l.push token mark mark

/-- Closes block collections, given the columns around the innermost. -/
def closeBlocksFrom (column indent : Int) (mark : Mark) (tokens : List Located) :
    List Int → Int × List Int × List Located
  | [] => (indent, [], tokens)
  | outer :: indents =>
    if column < indent then
      closeBlocksFrom column outer mark (⟨.blockEnd, mark, mark⟩ :: tokens) indents
    else (indent, outer :: indents, tokens)

/-- Closes the block collections that are indented deeper than a column. -/
def closeBlocks (l : Lexer) (column : Int) : Lexer :=
  if l.inFlow then l
  else
    let (indent, indents, tokens) := closeBlocksFrom column l.indent l.mark l.tokens l.indents
    { l with indent := indent, indents := indents, tokens := tokens }

/-- Skips blanks, comments and line breaks up to the next token. Outside flow collections a line
break allows a key, and no tab may stand where a key may start. -/
def skipSpace (inFlow : Bool) (inComment keyAllowed : Bool) : List Glyph → Bool × List Glyph
  | [] => (keyAllowed, [])
  | g :: r =>
    if isBreak g.char then skipSpace inFlow false (keyAllowed || !inFlow) r
    else if inComment then skipSpace inFlow true keyAllowed r
    else if g.mark.column = 0 ∧ g.char = byteOrderMark then skipSpace inFlow false keyAllowed r
    else if g.char = ' ' || (g.char == '\t' && (inFlow || !keyAllowed)) then
      skipSpace inFlow false keyAllowed r
    else if g.char = '#' then skipSpace inFlow true keyAllowed r
    else (keyAllowed, g :: r)

/-- Moves to the next token. -/
def toToken (l : Lexer) : Lexer :=
  let (keyAllowed, rest) := skipSpace l.inFlow false l.keyAllowed l.rest
  { l with keyAllowed := keyAllowed, rest := rest }

/-- Appends a token that stands for the next `width` characters. -/
def pushWidth (l : Lexer) (token : Token) (width : Nat) : Lexer :=
  let rest := l.rest.drop width
  (l.push token l.mark (here l.finish rest)).moveTo rest

/-- Says whether a key may start next. -/
def allowKey (l : Lexer) (isAllowed : Bool) : Lexer := { l with keyAllowed := isAllowed }

/-- The end of the text. -/
def readEnd (l : Lexer) : Except SyntaxFault Lexer := do
  let finish := if l.finish.column = 0 then l.finish else l.finish.nextLine 0
  let l ← ({ l with finish := finish }.closeBlocks (-1)).dropCandidate
  pure ((l.allowKey false).push .streamEnd l.mark l.mark)

/-- A directive. -/
def readDirectiveLine (l : Lexer) : Except SyntaxFault Lexer := do
  let l ← (l.closeBlocks (-1)).dropCandidate
  let (token, rest) ← readDirective (l.rest.drop 1)
  let l' := (l.allowKey false).push token l.mark (here l.finish rest)
  pure (l'.moveTo (← readLineEnd .badDirective rest))

/-- A document marker. -/
def readDocumentMarker (l : Lexer) (token : Token) : Except SyntaxFault Lexer := do
  let l ← (l.closeBlocks (-1)).dropCandidate
  pure ((l.allowKey false).pushWidth token 3)

/-- The beginning of a flow collection. -/
def openFlow (l : Lexer) (token : Token) : Except SyntaxFault Lexer := do
  let l ← l.saveCandidate
  let l := { l with candidate := none, outer := l.candidate :: l.outer }
  pure ((l.allowKey true).pushWidth token 1)

/-- The end of a flow collection. -/
def closeFlow (l : Lexer) (token : Token) : Except SyntaxFault Lexer := do
  let l ← l.dropCandidate
  let l :=
    match l.outer with
    | candidate :: outer => { l with candidate := candidate, outer := outer }
    | [] => l
  pure ((l.allowKey false).pushWidth token 1)

/-- A comma in a flow collection. -/
def readFlowEntry (l : Lexer) : Except SyntaxFault Lexer := do
  let l ← l.dropCandidate
  pure ((l.allowKey true).pushWidth .flowEntry 1)

/-- Opens the block collection that an indicator belongs to. -/
def openForIndicator (l : Lexer) (token : Token) : Except SyntaxFault Lexer :=
  if l.inFlow then .ok l
  else if l.keyAllowed then .ok (l.openBlock l.mark.column none token l.mark)
  else .error .misplacedIndicator

/-- A dash. -/
def readBlockEntry (l : Lexer) : Except SyntaxFault Lexer := do
  let l ← l.openForIndicator .blockSequenceStart
  let l ← l.dropCandidate
  pure ((l.allowKey true).pushWidth .blockEntry 1)

/-- A question mark. -/
def readKey (l : Lexer) : Except SyntaxFault Lexer := do
  let l ← l.openForIndicator .blockMappingStart
  let l ← l.dropCandidate
  pure ((l.allowKey !l.inFlow).pushWidth .key 1)

/-- A colon. -/
def readValue (l : Lexer) : Except SyntaxFault Lexer :=
  match l.candidate with
  | some c =>
    let l := l.insert c.position .key c.mark
    let l := l.openBlock c.mark.column (some c.position) .blockMappingStart c.mark
    .ok (({ l with candidate := none }.allowKey false).pushWidth .value 1)
  | none => do
    let l ← l.openForIndicator .blockMappingStart
    pure ((l.allowKey !l.inFlow).pushWidth .value 1)

/-- Appends the token of a node that may be a key, given what follows it. -/
def pushNode (l : Lexer) (token : Token) (rest : List Glyph) : Lexer :=
  ((l.push token l.mark (here l.finish rest)).moveTo rest).allowKey false

/-- An anchor or an alias. -/
def readAnchor (l : Lexer) (token : List Char → Token) : Except SyntaxFault Lexer := do
  let l ← l.saveCandidate
  let (name, rest) ← readAnchorName (l.rest.drop 1)
  pure (l.pushNode (token name) rest)

/-- A tag. -/
def readNodeTag (l : Lexer) : Except SyntaxFault Lexer := do
  let l ← l.saveCandidate
  let (token, rest) ← readTag l.inFlow l.rest
  pure (l.pushNode token rest)

/-- A block scalar. -/
def readBlockScalar (l : Lexer) (isFolded : Bool) : Except SyntaxFault Lexer := do
  let l ← l.dropCandidate
  let scalar ← readBlock l.finish isFolded l.indent (l.rest.drop 1)
  let style := if isFolded then ScalarStyle.folded else .literal
  let l := (l.push (.scalar scalar.text style) l.mark scalar.stop).moveTo scalar.rest
  pure (l.allowKey true)

/-- A quoted scalar. -/
def readQuoted (l : Lexer) (isSingle : Bool) : Except SyntaxFault Lexer := do
  let l ← l.saveCandidate
  if isSingle then
    let (text, rest) ← readSingle [] .word (l.rest.drop 1)
    pure (l.pushNode (.scalar text .singleQuoted) rest)
  else
    let (text, rest) ← readDouble [] .word (l.rest.drop 1)
    pure (l.pushNode (.scalar text .doubleQuoted) rest)

/-- A plain scalar. -/
def readPlainScalar (l : Lexer) : Except SyntaxFault Lexer := do
  let l ← l.saveCandidate
  let fuel := l.rest.length + 1
  let scalar ← readPlain l.finish l.inFlow (l.indent + 1) fuel [] l.mark Gap.none l.rest
  let l := (l.push (.scalar scalar.text .plain) l.mark scalar.finish).moveTo scalar.rest
  pure (l.allowKey scalar.endsLine)

/-- The characters that start no plain scalar. -/
def isIndicator (c : Char) : Bool :=
  ['-', '?', ':', ',', '[', ']', '\x7b', '\x7d', '#', '&', '*', '!', '|', '>', '\'', '"', '%', '@',
    '\x60'].contains c

/-- The token that starts with a character. -/
def readToken (l : Lexer) (c : Char) (after : List Glyph) : Except SyntaxFault Lexer :=
  if l.mark.column = 0 ∧ c = '%' then l.readDirectiveLine
  else if atDocumentMarker l.rest then
    l.readDocumentMarker (if c = '-' then .documentStart else .documentEnd)
  else if c = '[' then l.openFlow .flowSequenceStart
  else if c = '\x7b' then l.openFlow .flowMappingStart
  else if c = ']' then l.closeFlow .flowSequenceEnd
  else if c = '\x7d' then l.closeFlow .flowMappingEnd
  else if c = ',' then l.readFlowEntry
  else if c = '-' ∧ atSpace after then l.readBlockEntry
  else if c = '?' ∧ (l.inFlow ∨ atSpace after) then l.readKey
  else if c = ':' ∧ (l.inFlow ∨ atSpace after) then l.readValue
  else if c = '*' then l.readAnchor .reference
  else if c = '&' then l.readAnchor .anchor
  else if c = '!' then l.readNodeTag
  else if c = '|' ∧ !l.inFlow then l.readBlockScalar false
  else if c = '>' ∧ !l.inFlow then l.readBlockScalar true
  else if c = '\'' then l.readQuoted true
  else if c = '"' then l.readQuoted false
  else if !isIndicator c && !isSpace c || c == '-' || (!l.inFlow && (c == '?' || c == ':')) then
    l.readPlainScalar
  else .error .unexpectedCharacter

/-- Reads the next token, and says whether it was the last. -/
def step (l : Lexer) : Except SyntaxFault (Lexer × Bool) := do
  let l ← l.toToken.dropStale
  let l := l.closeBlocks (Int.ofNat l.mark.column)
  match l.rest with
  | [] => pure (← l.readEnd, true)
  | g :: after => pure (← l.readToken g.char after, false)

/-- Reads every token. Each but the last takes at least one character, so `fuel` characters bound
their number. -/
def readAll : Nat → Lexer → Except SyntaxFault (List Located)
  | 0, l => .ok l.tokens.reverse
  | fuel + 1, l => do
    let (l, isLast) ← l.step
    if isLast then pure l.tokens.reverse else readAll fuel l

end Lexer

/-- The tokens of a text. A byte order mark at its beginning is no part of it. -/
def Token.ofText (text : List Char) : Except SyntaxFault (List Located) :=
  let text := if text.head? = some byteOrderMark then text.drop 1 else text
  if text.all isAllowed then
    let (glyphs, finish) := locate .start text
    (Lexer.start glyphs finish).readAll (glyphs.length + 1)
  else .error .forbiddenCharacter

end FaultyServer.Yaml
