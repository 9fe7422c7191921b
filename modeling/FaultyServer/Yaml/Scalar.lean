import FaultyServer.Decimal.Binary64
import FaultyServer.Text.Quoted

/-!
# What a scalar means

A plain scalar that nothing else is known about is a null, a truth value, a whole number, a number
of double precision or a text, whichever of these its text spells first. Whole numbers may be given
in base 16, 8 or 2 with a mark in front; a number with a needless leading zero is a text.
-/

namespace FaultyServer.Yaml

open Text (natural? isDigit)

/-- Whether a text spells a null. -/
def isNull (text : List Char) : Bool :=
  ["null", "Null", "NULL", "~"].any (·.toList == text)

/-- The truth value that a text spells. -/
def boolean? (text : List Char) : Option Bool :=
  if ["true", "True", "TRUE"].any (·.toList == text) then some true
  else if ["false", "False", "FALSE"].any (·.toList == text) then some false
  else none

/-- A text without this sign in front. -/
def dropSign (sign : Char) : List Char → List Char
  | c :: r => if c = sign then r else c :: r
  | [] => []

/-- Whether a text starts with a sign. -/
def isSigned : List Char → Bool
  | c :: _ => c == '+' || c == '-'
  | [] => false

/-- Whether a text is digits with a needless zero in front, after at most one sign. -/
def hasLeadingZero (text : List Char) : Bool :=
  let digits := if isSigned text then text.drop 1 else text
  decide (1 < digits.length) && digits.head? == some '0' && digits.all isDigit

/-- The number after the mark of a base. -/
def marked? (mark : Char) (base : Nat) : List Char → Option Nat
  | '0' :: c :: r => if c = mark then natural? base r else none
  | _ => none

/-- The number that is marked with the base 16, 8 or 2. -/
def inMarkedBase? (text : List Char) : Option Nat :=
  marked? 'x' 16 text <|> marked? 'o' 8 text <|> marked? 'b' 2 text

/-- The natural number below `bound` that a text spells: it may have a plus sign, and the mark of a
base or else no needless zero in front. -/
def unsigned? (bound : Nat) (text : List Char) : Option Nat :=
  let digits := dropSign '+' text
  let value :=
    inMarkedBase? digits <|> if hasLeadingZero text then none else natural? 10 digits
  value.filter (· < bound)

/-- The absolute value, at most `bound`, of the number with a minus sign that a text spells. -/
def negative? (bound : Nat) (text : List Char) : Option Nat :=
  match text with
  | '-' :: digits =>
    let value :=
      inMarkedBase? digits <|> if hasLeadingZero text then none else natural? 10 digits
    value.filter (· ≤ bound)
  | _ => none

/-- The exponent after a decimal, zero if there is none. -/
def exponent? : List Char → Option Int
  | [] => some 0
  | c :: r =>
    if c = 'e' ∨ c = 'E' then
      match r with
      | '-' :: digits => (natural? 10 digits).map fun n => -Int.ofNat n
      | '+' :: digits => (natural? 10 digits).map Int.ofNat
      | digits => (natural? 10 digits).map Int.ofNat
    else none

/-- The number of double precision that a decimal without a sign spells. -/
def decimal? (isNegative : Bool) (text : List Char) : Option Decimal.Binary64 :=
  let whole := text.takeWhile isDigit
  let rest := text.dropWhile isDigit
  let (places, rest) :=
    match rest with
    | '.' :: r => (r.takeWhile isDigit, r.dropWhile isDigit)
    | r => ([], r)
  match natural? 10 (whole ++ places), exponent? rest with
  | some digits, some exponent =>
    Decimal.Binary64.ofDecimal? isNegative digits (exponent - Int.ofNat places.length)
  | _, _ => none

/-- A number of double precision as a text can spell it. -/
inductive FloatValue
  | finite (value : Decimal.Binary64)
  | infinite (isNegative : Bool)
  | notANumber
  deriving DecidableEq

/-- The number of double precision that a text spells. -/
def float? (text : List Char) : Option FloatValue :=
  if [".inf", ".Inf", ".INF"].any (·.toList == dropSign '+' text) then some (.infinite false)
  else if ["-.inf", "-.Inf", "-.INF"].any (·.toList == text) then some (.infinite true)
  else if [".nan", ".NaN", ".NAN"].any (·.toList == text) then some .notANumber
  else
    match text with
    | '-' :: r => (decimal? true r).map .finite
    | text => (decimal? false (dropSign '+' text)).map .finite

/-- What a scalar without further knowledge means. -/
inductive ScalarValue
  | null
  | boolean (value : Bool)
  | integer (value : Int)
  /-- An integer that needs more than 64 bits. -/
  | wideInteger (value : Int)
  | float (value : FloatValue)
  | text (value : List Char)
  deriving DecidableEq

/-- The integer of at most 128 bits that a text spells. -/
def integer? (text : List Char) : Option ScalarValue :=
  ((unsigned? (Nat.pow 2 64) text).map fun n => .integer (Int.ofNat n)) <|>
  ((negative? (Nat.pow 2 63) text).map fun n => .integer (-Int.ofNat n)) <|>
  ((unsigned? (Nat.pow 2 128) text).map fun n => .wideInteger (Int.ofNat n)) <|>
  ((negative? (Nat.pow 2 127) text).map fun n => .wideInteger (-Int.ofNat n))

/-- What a plain scalar means. -/
def ScalarValue.ofPlain (text : List Char) : ScalarValue :=
  if text.isEmpty || isNull text then .null
  else
    match boolean? text with
    | some b => .boolean b
    | none =>
      match integer? text with
      | some n => n
      | none =>
        match if hasLeadingZero text then none else float? text with
        | some x => .float x
        | none => .text text

end FaultyServer.Yaml
