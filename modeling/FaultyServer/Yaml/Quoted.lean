import FaultyServer.Yaml.Gap
import FaultyServer.Text.Number

/-!
# Quoted scalars

The two quoted styles. Between single quotes a doubled quote is the only escape. Between double
quotes a backslash starts an escape, and a backslash at the end of a line joins the lines. Both read
one character at a time, and a line that starts with a document marker ends neither.
-/

namespace FaultyServer.Yaml

/-- The character of a one-letter escape. -/
def simpleEscape? : Char → Option Char
  | '0' => some '\x00'
  | 'a' => some '\x07'
  | 'b' => some '\x08'
  | 't' | '\t' => some '\t'
  | 'n' => some '\n'
  | 'v' => some '\x0b'
  | 'f' => some '\x0c'
  | 'r' => some '\r'
  | 'e' => some '\x1b'
  | ' ' => some ' '
  | '"' => some '"'
  | '/' => some '/'
  | '\\' => some '\\'
  | 'N' => some '\x85'
  | '_' => some '\xa0'
  | 'L' => some '\u2028'
  | 'P' => some '\u2029'
  | _ => none

/-- How many hexadecimal digits follow an escape letter. -/
def escapeDigits? : Char → Option Nat
  | 'x' => some 2
  | 'u' => some 4
  | 'U' => some 8
  | _ => none

/-- The character of a code point, unless it is a surrogate or too large. -/
def codePoint? (n : Nat) : Option Char := if n.isValidChar then some (Char.ofNat n) else none

/-- What a reader of a quoted scalar is in the middle of. -/
inductive QuoteState
  /-- In a word. -/
  | word
  /-- Between two words. -/
  | gap (gap : Gap)
  /-- After the first of possibly two single quotes. -/
  | quote
  /-- After a backslash. -/
  | escape
  /-- In the digits of an escape: how many are missing, and the value so far. -/
  | digits (missing value : Nat)
  deriving DecidableEq

/-- Whether a gap may end before these characters. -/
def mayResume (gs : List Glyph) : Except SyntaxFault Unit :=
  if atDocumentMarker gs then .error .badQuoted else .ok ()

/-- Reads a single-quoted scalar after its first quote: the text, in reverse after what `text`
already holds, and what follows the last quote. -/
def readSingle (text : List Char) :
    QuoteState → List Glyph → Except SyntaxFault (List Char × List Glyph)
  | .quote, [] => .ok (text.reverse, [])
  | .quote, g :: r =>
    if g.char = '\'' then readSingle ('\'' :: text) .word r
    else .ok (text.reverse, g :: r)
  | .gap gap, g :: r => do
    if isBlank g.char then readSingle text (.gap (gap.blank g.char)) r
    else if isBreak g.char then readSingle text (.gap (gap.lineBreak g.char)) r
    else
      mayResume (g :: r)
      let text := gap.text.reverse ++ text
      if g.char = '\'' then readSingle text .quote r
      else readSingle (g.char :: text) .word r
  | .word, g :: r =>
    if isBlank g.char then readSingle text (.gap (Gap.none.blank g.char)) r
    else if isBreak g.char then readSingle text (.gap (Gap.none.lineBreak g.char)) r
    else if g.char = '\'' then readSingle text .quote r
    else readSingle (g.char :: text) .word r
  | _, _ => .error .badQuoted

/-- Reads a double-quoted scalar after its first quote: the text, in reverse after what `text`
already holds, and what follows the last quote. -/
def readDouble (text : List Char) :
    QuoteState → List Glyph → Except SyntaxFault (List Char × List Glyph)
  | .word, g :: r =>
    if isBlank g.char then readDouble text (.gap (Gap.none.blank g.char)) r
    else if isBreak g.char then readDouble text (.gap (Gap.none.lineBreak g.char)) r
    else if g.char = '"' then .ok (text.reverse, r)
    else if g.char = '\\' then readDouble text .escape r
    else readDouble (g.char :: text) .word r
  | .gap gap, g :: r => do
    if isBlank g.char then readDouble text (.gap (gap.blank g.char)) r
    else if isBreak g.char then readDouble text (.gap (gap.lineBreak g.char)) r
    else
      mayResume (g :: r)
      let text := gap.text.reverse ++ text
      if g.char = '"' then .ok (text.reverse, r)
      else if g.char = '\\' then readDouble text .escape r
      else readDouble (g.char :: text) .word r
  | .escape, g :: r =>
    if isBreak g.char then readDouble text (.gap (.breaks Option.none [])) r
    else
      match simpleEscape? g.char, escapeDigits? g.char with
      | some c, _ => readDouble (c :: text) .word r
      | none, some n => readDouble text (.digits n 0) r
      | none, none => .error .badQuoted
  | .digits missing value, g :: r =>
    match Text.digit? 16 g.char with
    | none => .error .badQuoted
    | some d =>
      if 1 < missing then readDouble text (.digits (missing - 1) (value * 16 + d)) r
      else
        match codePoint? (value * 16 + d) with
        | some c => readDouble (c :: text) .word r
        | none => .error .badQuoted
  | _, _ => .error .badQuoted

end FaultyServer.Yaml
