/-!
# Natural numbers as text

Reading a digit string in a base of at most sixteen, letters of either case standing for ten and
more, and writing a number with a fixed count of places. No sign, no separator and no blank belongs
to a digit string, and the empty text is none.
-/

namespace FaultyServer.Text

/-- The value of a digit below `base`. -/
def digit? (base : Nat) (c : Char) : Option Nat :=
  let value :=
    if '0' ≤ c ∧ c ≤ '9' then some (c.toNat - '0'.toNat)
    else if 'a' ≤ c ∧ c ≤ 'f' then some (c.toNat - 'a'.toNat + 10)
    else if 'A' ≤ c ∧ c ≤ 'F' then some (c.toNat - 'A'.toNat + 10)
    else none
  value.filter (· < base)

/-- A decimal digit. -/
def isDigit (c : Char) : Bool := decide ('0' ≤ c ∧ c ≤ '9')

/-- A letter of the basic Latin alphabet. -/
def isLetter (c : Char) : Bool :=
  decide (('a' ≤ c ∧ c ≤ 'z') ∨ ('A' ≤ c ∧ c ≤ 'Z'))

/-- Continues a digit string whose first part has the value `acc`. -/
def naturalFrom? (base acc : Nat) : List Char → Option Nat
  | [] => some acc
  | c :: r => (digit? base c).bind fun d => naturalFrom? base (acc * base + d) r

/-- The value of a digit string. -/
def natural? (base : Nat) (cs : List Char) : Option Nat :=
  if cs.isEmpty then none else naturalFrom? base 0 cs

/-- The decimal digits of a number. -/
def decimal (n : Nat) : List Char := Nat.toDigits 10 n

/-- The decimal digits of a number, with leading zeros up to `width` places. -/
def padded (width n : Nat) : List Char :=
  let ds := decimal n
  List.replicate (width - ds.length) '0' ++ ds

/-- A text without the zeros at its end. -/
def dropTrailingZeros (cs : List Char) : List Char :=
  (cs.reverse.dropWhile (· == '0')).reverse

end FaultyServer.Text
