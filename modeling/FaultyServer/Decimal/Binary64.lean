import FaultyServer.Text.Number

/-!
# Numbers of double precision

The finite binary numbers with 53 bits of precision, `mantissa * 2 ^ exponent`, as exact data: the
nearest one to a decimal, and the fewest decimal digits that read back as the same number. Messages
show a number by those digits, in positional notation and with at least one decimal.
-/

namespace FaultyServer.Decimal

/-- A finite number of double precision. The mantissa is below `2 ^ 53`, the exponent between
`-1074` and `971`, and the mantissa fills all 53 bits unless the exponent is the least. -/
structure Binary64 where
  negative : Bool
  mantissa : Nat
  exponent : Int
  deriving DecidableEq

/-- A quotient rounded to the nearest whole number, a half to the even neighbour. -/
def roundQuotient (numerator denominator : Nat) : Nat :=
  let q := numerator / denominator
  let twice := 2 * (numerator % denominator)
  if twice < denominator then q
  else if denominator < twice then q + 1
  else q + q % 2

/-- A positive fraction divided by a power of two. -/
def scaleDown (numerator denominator : Nat) (exponent : Int) : Nat × Nat :=
  if 0 ≤ exponent then (numerator, denominator * Nat.pow 2 exponent.toNat)
  else (numerator * Nat.pow 2 (-exponent).toNat, denominator)

/-- The nearest number to a fraction, unless it is past the largest. -/
def Binary64.ofFraction? (negative : Bool) (numerator denominator : Nat) : Option Binary64 :=
  if numerator = 0 then some ⟨negative, 0, -1074⟩
  else
    let guess : Int := Int.ofNat (Nat.log2 numerator) - Int.ofNat (Nat.log2 denominator) - 53
    let low := max (-1074) guess
    let (n, d) := scaleDown numerator denominator low
    let exponent := if Nat.pow 2 53 ≤ n / d then low + 1 else low
    let (n, d) := scaleDown numerator denominator exponent
    let m := roundQuotient n d
    let (m, exponent) := if m = Nat.pow 2 53 then (Nat.pow 2 52, exponent + 1) else (m, exponent)
    if 971 < exponent then none else some ⟨negative, m, exponent⟩

/-- The nearest number to `digits * 10 ^ scale`, unless it is past the largest. -/
def Binary64.ofDecimal? (negative : Bool) (digits : Nat) (scale : Int) : Option Binary64 :=
  let places : Int := scale + Int.ofNat (Text.decimal digits).length
  if digits = 0 ∨ places < -400 then some ⟨negative, 0, -1074⟩
  else if 400 < places then none
  else if 0 ≤ scale then ofFraction? negative (digits * Nat.pow 10 scale.toNat) 1
  else ofFraction? negative digits (Nat.pow 10 (-scale).toNat)

/-- A decimal `digits * 10 ^ scale`. -/
structure Digits where
  digits : Nat
  scale : Int
  deriving DecidableEq

/-- The fraction `m * 2 ^ e`. -/
def binaryFraction (m : Nat) (e : Int) : Nat × Nat :=
  if 0 ≤ e then (m * Nat.pow 2 e.toNat, 1) else (m, Nat.pow 2 (-e).toNat)

/-- The decimal with this scale that reads back as the number and is nearest to it, if there is one.
Of the grid of this scale only the two neighbours of the number can be. -/
def Binary64.digitsAt? (x : Binary64) (scale : Int) : Option Digits :=
  let (n, d) := binaryFraction x.mantissa x.exponent
  let (n, d) :=
    if 0 ≤ scale then (n, d * Nat.pow 10 scale.toNat) else (n * Nat.pow 10 (-scale).toNat, d)
  let below := n / d
  let readsBack (k : Nat) : Bool :=
    let value :=
      if 0 ≤ scale then ofFraction? x.negative (k * Nat.pow 10 scale.toNat) 1
      else ofFraction? x.negative k (Nat.pow 10 (-scale).toNat)
    value == some x
  let nearer := roundQuotient n d
  let farther := if nearer = below then below + 1 else below
  if nearer ≠ 0 ∧ readsBack nearer then some ⟨nearer, scale⟩
  else if farther ≠ 0 ∧ readsBack farther then some ⟨farther, scale⟩
  else none

/-- The number of digits before the decimal point of a positive fraction, negative for zeros after
it. -/
def magnitude (numerator denominator : Nat) : Int :=
  if denominator ≤ numerator then Int.ofNat (Text.decimal (numerator / denominator)).length
  else
    let shift := (Text.decimal denominator).length
    Int.ofNat (Text.decimal (numerator * Nat.pow 10 shift / denominator)).length - Int.ofNat shift

/-- The fewest decimal digits that read back as the number. Seventeen always do. -/
def Binary64.shortest (x : Binary64) : Digits :=
  if x.mantissa = 0 then ⟨0, 0⟩
  else
    let (n, d) := binaryFraction x.mantissa x.exponent
    let top := magnitude n d
    let first := (List.range' 1 17).findSome? fun (places : Nat) =>
      x.digitsAt? (top - Int.ofNat places)
    first.getD ⟨0, 0⟩

/-- The digits in positional notation, with at least one decimal. -/
def Binary64.positional (x : Binary64) : String :=
  let s := x.shortest
  let ds := Text.decimal s.digits
  let body :=
    if 0 ≤ s.scale then ds ++ List.replicate s.scale.toNat '0' ++ ['.', '0']
    else
      let places := (-s.scale).toNat
      if places < ds.length then
        ds.take (ds.length - places) ++ '.' :: ds.drop (ds.length - places)
      else '0' :: '.' :: List.replicate (places - ds.length) '0' ++ ds
  String.ofList (if x.negative then '-' :: body else body)

end FaultyServer.Decimal
