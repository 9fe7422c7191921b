import FaultyServer.Text.Number

/-!
# Methods and header fields

The words of a request: its method and the names of its header fields are tokens, and the value of a
field is visible text.
-/

namespace FaultyServer.Http

/-- A character of a token. -/
def isTokenChar (c : Char) : Bool :=
  Text.isLetter c || Text.isDigit c ||
    ['!', '#', '$', '%', '&', '\'', '*', '+', '-', '.', '^', '_', '\x60', '|', '~'].contains c

/-- A word of at least one token character. -/
def isToken (s : String) : Bool := !s.toList.isEmpty && s.toList.all isTokenChar

/-- A request method: any token, with letters of different case different. -/
structure Method where
  name : String
  isToken_name : isToken name = true
  deriving DecidableEq

namespace Method

/-- The method of a name. -/
def of? (name : String) : Option Method :=
  if h : isToken name = true then some ⟨name, h⟩ else none

/-- The methods that servers answer. -/
def isServed (m : Method) : Bool := m.name == "GET" || m.name == "POST"

end Method

/-- The longest name of a header field, in bytes. -/
def maxHeaderNameBytes : Nat := 65535

/-- Whether a text is the name of a header field. -/
def isHeaderName (s : String) : Bool := isToken s && decide (s.utf8ByteSize ≤ maxHeaderNameBytes)

/-- Whether a text is the value of a header field: visible ASCII, spaces and tabs. -/
def isHeaderValue (s : String) : Bool :=
  s.toList.all fun c => c == '\t' || (decide (0x20 ≤ c.toNat) && decide (c.toNat < 0x7F))

/-- Header fields in the order in which they were added. -/
abbrev Headers := List (String × String)

namespace Headers

/-- The values of the fields of a name. -/
def values (headers : Headers) (name : String) : List String :=
  (headers.filter (·.1 == name)).map (·.2)

/-- Gives a name exactly one value. -/
def put (headers : Headers) (name value : String) : Headers :=
  headers.filter (·.1 != name) ++ [(name, value)]

end Headers

end FaultyServer.Http
