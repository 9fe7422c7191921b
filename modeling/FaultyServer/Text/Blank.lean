/-!
# Blank characters

The white space of running text, which a duration may hold between its parts. The set is the one
that Unicode gives the property `White_Space`; it is wider than the blanks of core's
`Char.isWhitespace`.
-/

namespace FaultyServer.Text

/-- The characters with the property `White_Space`. -/
def isBlank (c : Char) : Bool :=
  let n := c.toNat
  (9 ≤ n && n ≤ 13) || n == 0x20 || n == 0x85 || n == 0xA0 || n == 0x1680 ||
    (0x2000 ≤ n && n ≤ 0x200A) || n == 0x2028 || n == 0x2029 || n == 0x202F || n == 0x205F ||
    n == 0x3000

end FaultyServer.Text
