import FaultyServer.Settings.Basic
import FaultyServer.Yaml.Node
import FaultyServer.Yaml.Scalar

/-!
# What is wrong with a configuration

A configuration can fail to be YAML, fail to describe settings, or describe settings with a host
that is refused. A fault in the data names the entry and the place in the text; the cause says what
was found and what was expected.
-/

namespace FaultyServer

namespace Yaml

/-- What was found where something else was expected. -/
inductive Found
  | unit
  | boolean (value : Bool)
  | integer (value : Int)
  | wideInteger (value : Int)
  | float (value : FloatValue)
  | text (value : List Char)
  | sequence
  | map
  deriving DecidableEq

namespace Found

/-- The text of a number that is no fraction. -/
def integerText (n : Int) : String :=
  String.ofList (if n < 0 then '-' :: Text.decimal n.natAbs else Text.decimal n.natAbs)

/-- The text of a number of double precision. -/
def floatText : FloatValue → String
  | .finite x => x.positional
  | .infinite isNegative => if isNegative then "-inf" else "inf"
  | .notANumber => "NaN"

/-- A text between grave accents. -/
def accented (s : String) : String := "\x60" ++ s ++ "\x60"

/-- How a message names what was found. -/
def describe : Found → String
  | unit => "unit value"
  | boolean b => "boolean " ++ accented (if b then "true" else "false")
  | integer n => "integer " ++ accented (integerText n)
  | wideInteger n =>
    "integer " ++ accented (integerText n) ++ (if n < 0 then " as i128" else " as u128")
  | float x => "floating point " ++ accented (floatText x)
  | text cs => "string " ++ Text.quoted (String.ofList cs)
  | sequence => "sequence"
  | map => "map"

/-- What a plain scalar is found to be. -/
def ofValue : ScalarValue → Found
  | .null => unit
  | .boolean b => boolean b
  | .integer n => integer n
  | .wideInteger n => wideInteger n
  | .float x => float x
  | .text cs => text cs

end Found

end Yaml

open Yaml (Found Mark)

/-- What is wrong with an entry of a configuration. -/
inductive DataCause
  | invalidType (found : Found) (expected : String)
  | invalidValue (found : Found) (expected : String)
  | unknownMode (text : String)
  | duplicateField (name : String)
  deriving DecidableEq

namespace DataCause

/-- The message for a cause. -/
def message : DataCause → String
  | invalidType found expected => "invalid type: " ++ found.describe ++ ", expected " ++ expected
  | invalidValue found expected =>
    "invalid value: " ++ found.describe ++ ", expected " ++ expected
  | unknownMode text =>
    "unknown variant " ++ Found.accented text ++ ", expected " ++
      " or ".intercalate (Mode.all.map fun m => Found.accented m.keyword)
  | duplicateField name => "duplicate field " ++ Found.accented name

end DataCause

/-- The names of the entries that lead to a place, the outermost first. -/
abbrev FieldPath := List String

/-- A fault in the data: its cause and, once it is known, its entry and its place in the text. -/
structure DataFault where
  cause : DataCause
  place : Option (FieldPath × Mark)
  deriving DecidableEq

namespace DataFault

/-- The text of a place, counted from one. The very beginning of a text goes without saying. -/
def locationText (mark : Mark) : String :=
  if mark.line = 0 ∧ mark.column = 0 then ""
  else
    " at line " ++ String.ofList (Text.decimal (mark.line + 1)) ++ " column " ++
      String.ofList (Text.decimal (mark.column + 1))

/-- The message for a fault. -/
def message (f : DataFault) : String :=
  match f.place with
  | none => f.cause.message
  | some (path, mark) =>
    let entry := if path.isEmpty then "" else ".".intercalate path ++ ": "
    entry ++ f.cause.message ++ locationText mark

end DataFault

/-- Why a text gives no settings. -/
inductive SettingsFault
  /-- The text is not one YAML document. -/
  | syntaxFault (fault : Yaml.SyntaxFault)
  /-- The document describes no settings. -/
  | dataFault (fault : DataFault)
  /-- The host of the settings is refused. -/
  | host (fault : HostFault)
  /-- The sum of a duration's parts cannot be carried. This one is not reported but ends the
  program. -/
  | carry
  deriving DecidableEq

namespace SettingsFault

/-- The stage at which YAML is read and decoded. -/
def decodingStage : String := "unmarshal config yaml"

/-- The messages for a fault, the most general first. What exactly breaks the syntax is left to the
reader of the text. -/
def messages : SettingsFault → List String
  | syntaxFault _ => [decodingStage]
  | dataFault f => [decodingStage, f.message]
  | host f => [f.message]
  | carry => ["overflow in Duration::new"]

end SettingsFault

end FaultyServer
