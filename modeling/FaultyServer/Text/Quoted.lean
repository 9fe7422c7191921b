import FaultyServer.Text.Invisible

/-!
# Quoted text

The form in which messages and log lines quote a text: between double quotes, with a backslash
before a quote or a backslash, the short escapes for tab, line feed, carriage return and NUL, and
the code point in braces for every other character that would not be visible.
-/

namespace FaultyServer.Text

/-- The digits of a code point, in lower-case hexadecimal and without leading zeros. -/
def hexadecimal (n : Nat) : List Char := Nat.toDigits 16 n

/-- How a character is written inside quotes. -/
def escape (c : Char) : List Char :=
  match c with
  | '"' => ['\\', '"']
  | '\\' => ['\\', '\\']
  | '\n' => ['\\', 'n']
  | '\t' => ['\\', 't']
  | '\r' => ['\\', 'r']
  | '\x00' => ['\\', '0']
  | c => if isInvisible c then ['\\', 'u', '\x7b'] ++ hexadecimal c.toNat ++ ['\x7d'] else [c]

/-- A text between double quotes. -/
def quoted (s : String) : String :=
  String.ofList (['"'] ++ s.toList.flatMap escape ++ ['"'])

end FaultyServer.Text
