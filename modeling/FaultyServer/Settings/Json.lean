import FaultyServer.Duration.Human
import FaultyServer.Settings.Basic

/-!
# Settings as JSON

One line of JSON with every field of the settings, in the names of a configuration file. JSON of
this kind is YAML, so the line is a configuration itself.
-/

namespace FaultyServer.Json

/-- A control character by four hexadecimal digits. -/
def escapedControl (c : Char) : List Char :=
  let digits := Nat.toDigits 16 c.toNat
  ['\\', 'u'] ++ List.replicate (4 - digits.length) '0' ++ digits

/-- How a character is written inside quotes. -/
def escape (c : Char) : List Char :=
  match c with
  | '"' => ['\\', '"']
  | '\\' => ['\\', '\\']
  | '\n' => ['\\', 'n']
  | '\r' => ['\\', 'r']
  | '\t' => ['\\', 't']
  | '\x08' => ['\\', 'b']
  | '\x0c' => ['\\', 'f']
  | c => if c.toNat < 0x20 then escapedControl c else [c]

/-- A string. -/
def string (s : String) : List Char := '"' :: s.toList.flatMap escape ++ ['"']

/-- A number. -/
def number (n : Nat) : List Char := Text.decimal n

/-- A missing value. -/
def null : List Char := ['n', 'u', 'l', 'l']

/-- An object with these members. -/
def object (members : List (String × List Char)) : List Char :=
  '\x7b' :: [','].intercalate (members.map fun (name, value) => string name ++ ':' :: value) ++
    ['\x7d']

end FaultyServer.Json

namespace FaultyServer.Settings

open Json (string number null object)

/-- The log settings as JSON. -/
def logsJson : Option LogSettings → List Char
  | none => null
  | some logs =>
    object [("level", match logs.level with
      | none => null
      | some level => string level)]

/-- The settings as JSON. -/
def jsonChars (s : Settings) : List Char :=
  object [("server", object [
    ("env", string s.environment),
    ("mode", string s.mode.keyword),
    ("logs", logsJson s.logs),
    ("api", object [
      ("name", string s.listen.name),
      ("host", string s.listen.host),
      ("port", number s.listen.port.toNat)]),
    ("hang", object [("duration", string s.hang.human)]),
    ("counter", object [
      ("error_step", number s.steps.error.toNat),
      ("hang_step", number s.steps.hang.toNat)])])]

/-- The settings as JSON. -/
def json (s : Settings) : String := String.ofList s.jsonChars

end FaultyServer.Settings
