import FaultyServer.Log.Event
import FaultyServer.Text.Blank
import FaultyServer.Text.Number
import FaultyServer.Text.Pieces

/-!
# Log filters

A filter says which records are written. It is a list of directives between commas: a level, or a
target and a span with or without a level. A level alone holds for everything, a target for the
parts of the program whose name starts with it, and of several directives that hold for a record the
narrowest decides. A span asks for fields or for a place; a record outside of every span can only
have the fields. Without any directive only errors are written.
-/

namespace FaultyServer.Log

/-- The records that a directive lets through: none, or those up to a level. -/
abbrev Limit := Option Level

/-- The limit of a word. -/
def limitOfWord? (word : String) : Option Limit :=
  [("off", none), ("error", some Level.error), ("warn", some .warn), ("info", some .info),
    ("debug", some .debug), ("trace", some .trace)].lookup word.toLower

/-- The limit of a number. -/
def limitOfNumber? (n : Nat) : Option Limit :=
  [none, some Level.error, some .warn, some .info, some .debug, some .trace][n]?

/-- The limit of a text: a number, which may have a plus sign, or a word in any case. -/
def limit? (text : List Char) : Option Limit :=
  let digits := match text with
    | '+' :: r => r
    | r => r
  match Text.natural? 10 digits with
  | some n => limitOfNumber? n
  | none => limitOfWord? (String.ofList text)

/-- A condition on a field: that there is one of the name or, with a value, that it has the
value. -/
structure FieldCondition where
  name : String
  hasValue : Bool
  deriving DecidableEq

/-- A directive: the start of the targets that it is about, the span and the field that it asks for,
and what it lets through. -/
structure Directive where
  target : List Char
  span : Option (List Char)
  field : Option FieldCondition
  limit : Limit
  deriving DecidableEq

/-- Why a text is no directive. -/
inductive DirectiveFault
  | malformed
  | unknownLevel
  deriving DecidableEq

/-- The message for a fault. -/
def DirectiveFault.message : DirectiveFault → String
  | malformed => "invalid filter directive"
  | unknownLevel =>
    "error parsing level filter: expected one of \"off\", \"error\", \"warn\", \"info\", " ++
      "\"debug\", \"trace\", or a number 0-5"

namespace Directive

/-- Whether a directive may start with a character. -/
def mayStart (c : Char) : Bool :=
  Text.isLetter c || Text.isDigit c || ['-', ':', '_', '['].contains c || 0x80 ≤ c.toNat

/-- The limit after the equals sign. Nothing lets everything through. -/
def limitAfter (text : List Char) : Except DirectiveFault Limit :=
  if text.isEmpty then .ok (some .trace)
  else
    match limit? text with
    | some limit => .ok limit
    | none => .error .unknownLevel

/-- The condition of a text: a name, which may have an equals sign and a value after it. -/
def FieldCondition.ofChars? (text : List Char) : Option FieldCondition :=
  if text.isEmpty then none
  else some ⟨String.ofList (text.takeWhile (· != '=')), text.contains '='⟩

/-- Reads a span after its opening bracket: its name, a condition in braces, and the closing
bracket. It gives the span, the condition, and what follows. -/
def readSpan (text : List Char) :
    Option (Option (List Char) × Option FieldCondition × List Char) :=
  let name := text.takeWhile fun c => c != ']' && c != '\x7b'
  match text.dropWhile fun c => c != ']' && c != '\x7b' with
  | ']' :: rest => some (some name, none, rest)
  | _ :: inner =>
    let condition := inner.takeWhile (· != '\x7d')
    match inner.dropWhile (· != '\x7d'), FieldCondition.ofChars? condition with
    | '\x7d' :: ']' :: rest, some field =>
      some (if name.isEmpty then none else some name, some field, rest)
    | _, _ => none
  | [] => none

/-- The directive of a text. The blanks around it do not count where it is divided, but its parts
are cut from the text with them, so a blank at the start moves every cut. -/
def ofChars (text : List Char) : Except DirectiveFault Directive :=
  let inner := (text.dropWhile Text.isBlank).reverse.dropWhile Text.isBlank |>.reverse
  match inner with
  | [] => .error .malformed
  | c :: _ =>
    if !mayStart c then .error .malformed
    else
      let size := (inner.takeWhile fun c => c != '=' && c != '[').length
      let name := text.take size
      match inner.drop size with
      | [] =>
        match limit? text with
        | some limit => .ok ⟨[], none, none, limit⟩
        | none => .ok ⟨text, none, none, some .trace⟩
      | '=' :: _ => (⟨name, none, none, ·⟩) <$> limitAfter (text.drop (size + 1))
      | _ :: afterBracket =>
        match readSpan afterBracket with
        | some (span, field, []) => .ok ⟨name, span, field, some .trace⟩
        | some (span, field, '=' :: rest) =>
          (⟨name, span, field, ·⟩) <$> limitAfter (text.drop (inner.length - rest.length))
        | _ => .error .malformed

/-- Whether a directive holds for a record. Outside of every span none does that asks for a span or
for the value of a field. -/
def holdsFor (d : Directive) (record : Record) : Bool :=
  d.span.isNone && d.target.isPrefixOf record.target.toList &&
    d.field.all fun f =>
      !f.hasValue && (f.name == "message" || (record.fields.lookup f.name).isSome)

/-- Whether a directive is at least as narrow as another one: the longer target counts, then whether
it asks for a field, then the order of the names of the fields. -/
def isNarrower (a b : Directive) : Bool :=
  if a.target.length != b.target.length then decide (b.target.length < a.target.length)
  else
    match a.field, b.field with
    | some f, some g => decide (g.name ≤ f.name)
    | none, some _ => false
    | _, none => true

end Directive

/-- A filter: its directives in their order. -/
abbrev Filter := List Directive

namespace Filter

/-- The texts of the directives of a filter. -/
def parts (text : String) : List String := (Text.split ',' text).filter (!·.isEmpty)

/-- The filter of a text, if every directive is one. -/
def ofText? (text : String) : Option Filter :=
  (parts text).mapM fun p => (Directive.ofChars p.toList).toOption

/-- The filter of the directives in a text, and a warning for each part that is none. -/
def ofTextWithWarnings (text : String) : Filter × List String :=
  (parts text).foldl (fun (filter, warnings) p =>
    match Directive.ofChars p.toList with
    | .ok d => (filter ++ [d], warnings)
    | .error fault =>
      (filter, warnings ++ ["ignoring \x60" ++ p ++ "\x60: " ++ fault.message])) ([], [])

/-- The limit for a record: that of the narrowest directive that holds for it, the last one of
equals. -/
def limitFor (filter : Filter) (record : Record) : Limit :=
  if filter.isEmpty then some .error
  else
    let narrowest := filter.foldl (fun (best : Option Directive) d =>
      if !d.holdsFor record then best
      else
        match best with
        | none => some d
        | some b => if d.isNarrower b then some d else best) none
    narrowest.bind (·.limit)

/-- Whether a record is written. -/
def allows (filter : Filter) (record : Record) : Bool :=
  match filter.limitFor record with
  | some limit => record.level.detail ≤ limit.detail
  | none => false

end Filter

end FaultyServer.Log
