import FaultyServer.Text.Number

/-!
# IP addresses

IPv4 and IPv6 addresses with their texts. The reader takes every spelling of an address and nothing
beside it: four decimal octets without leading zeros, or groups of up to four hexadecimal digits in
which one `::` stands for at least one group of zeros and the last two groups may be written as a
dotted quad. The printer has one spelling for each address: lower case, the longest run of at least
two zero groups (the first of equals) as `::`, and the quad for an IPv4-mapped address.
-/

namespace FaultyServer.Address

/-- An IPv4 address by its four octets. -/
structure IPv4 where
  first : UInt8
  second : UInt8
  third : UInt8
  fourth : UInt8
  deriving DecidableEq

/-- An IPv6 address by its eight groups. -/
structure IPv6 where
  groups : List UInt16
  length_eq : groups.length = 8
  deriving DecidableEq

/-- An address of either family. -/
inductive Ip
  | v4 (address : IPv4)
  | v6 (address : IPv6)
  deriving DecidableEq

/-! ### Reading -/

/-- Reads a number of at most `places` digits below `bound` off the front of a text. -/
def readNumber (base places bound : Nat) (leadingZeros : Bool) (cs : List Char) :
    Option (Nat × List Char) :=
  let isDigit c := (Text.digit? base c).isSome
  let digits := cs.takeWhile isDigit
  if digits.length ≤ places ∧ (leadingZeros ∨ digits.length ≤ 1 ∨ digits.head? ≠ some '0') then
    match Text.natural? base digits with
    | some n => if n < bound then some (n, cs.dropWhile isDigit) else none
    | none => none
  else none

/-- Reads one octet of a dotted quad. -/
def readOctet (cs : List Char) : Option (UInt8 × List Char) :=
  (readNumber 10 3 256 false cs).map fun (n, r) => (UInt8.ofNat n, r)

/-- Reads a point and an octet. -/
def readNextOctet : List Char → Option (UInt8 × List Char)
  | '.' :: r => readOctet r
  | _ => none

/-- Reads a dotted quad off the front of a text. -/
def IPv4.read (cs : List Char) : Option (IPv4 × List Char) := do
  let (a, cs) ← readOctet cs
  let (b, cs) ← readNextOctet cs
  let (c, cs) ← readNextOctet cs
  let (d, cs) ← readNextOctet cs
  pure (⟨a, b, c, d⟩, cs)

/-- Reads one group of an IPv6 address. -/
def readGroup (cs : List Char) : Option (UInt16 × List Char) :=
  (readNumber 16 4 65536 true cs).map fun (n, r) => (UInt16.ofNat n, r)

/-- The two groups that a dotted quad stands for. -/
def IPv4.groups (q : IPv4) : List UInt16 :=
  [q.first.toUInt16 * 256 + q.second.toUInt16, q.third.toUInt16 * 256 + q.fourth.toUInt16]

/-- The text after the separator that every group but the first of a part has before it. -/
def afterSeparator (isFirst : Bool) (cs : List Char) : Option (List Char) :=
  if isFirst then some cs
  else match cs with
    | ':' :: r => some r
    | _ => none

/-- The groups at the front of a text, at most `room` of them, with the text that is left. A dotted
quad ends them, needs room for two, and is reported. -/
def readGroups (room : Nat) (isFirst : Bool) (cs : List Char) :
    List UInt16 × Bool × List Char :=
  match room with
  | 0 => ([], false, cs)
  | room + 1 =>
    match afterSeparator isFirst cs with
    | none => ([], false, cs)
    | some body =>
      match if 0 < room then IPv4.read body else none with
      | some (quad, rest) => (quad.groups, true, rest)
      | none =>
        match readGroup body with
        | none => ([], false, cs)
        | some (group, rest) =>
          let (groups, hasQuad, rest) := readGroups room false rest
          (group :: groups, hasQuad, rest)

/-- An address of exactly eight groups. -/
def IPv6.ofGroups? (groups : List UInt16) : Option IPv6 :=
  if h : groups.length = 8 then some ⟨groups, h⟩ else none

/-- Reads an IPv6 address off the front of a text. -/
def IPv6.read (cs : List Char) : Option (IPv6 × List Char) :=
  match readGroups 8 true cs with
  | (before, hasQuad, rest) =>
    if before.length = 8 then (ofGroups? before).map (·, rest)
    else if hasQuad then none
    else match rest with
      | ':' :: ':' :: rest =>
        match readGroups (7 - before.length) true rest with
        | (after, _, rest) =>
          let zeros := List.replicate (8 - before.length - after.length) 0
          (ofGroups? (before ++ zeros ++ after)).map (·, rest)
      | _ => none

/-- The address that a whole text spells. -/
def Ip.ofChars? (cs : List Char) : Option Ip :=
  match IPv4.read cs with
  | some (a, []) => some (.v4 a)
  | some _ => none
  | none =>
    match IPv6.read cs with
    | some (a, []) => some (.v6 a)
    | _ => none

/-- The address that a whole text spells. -/
def Ip.ofString? (s : String) : Option Ip := ofChars? s.toList

/-! ### Printing -/

/-- The text of an IPv4 address. -/
def IPv4.chars (q : IPv4) : List Char :=
  Text.decimal q.first.toNat ++ '.' :: Text.decimal q.second.toNat ++
    '.' :: Text.decimal q.third.toNat ++ '.' :: Text.decimal q.fourth.toNat

/-- Where a run of zero groups begins and how long it is. -/
structure Run where
  start : Nat
  length : Nat
  deriving DecidableEq

/-- The longest run of zeros in the groups from position `at` on, the first of equals, given the
best one so far and the one that is still open. -/
def longestZeros (position : Nat) (best current : Run) : List UInt16 → Run
  | [] => best
  | g :: r =>
    if g = 0 then
      let current :=
        if current.length = 0 then ⟨position, 1⟩ else ⟨current.start, current.length + 1⟩
      longestZeros (position + 1) (if best.length < current.length then current else best) current r
    else longestZeros (position + 1) best ⟨0, 0⟩ r

/-- Groups joined by colons. -/
def joinGroups (groups : List UInt16) : List Char :=
  [':'].intercalate (groups.map fun g => Nat.toDigits 16 g.toNat)

/-- The IPv4 address inside an IPv4-mapped one. -/
def IPv6.mapped? (a : IPv6) : Option IPv4 :=
  match a.groups with
  | [0, 0, 0, 0, 0, 0xffff, high, low] =>
    some ⟨(high / 256).toUInt8, (high % 256).toUInt8, (low / 256).toUInt8, (low % 256).toUInt8⟩
  | _ => none

/-- The text of an IPv6 address. -/
def IPv6.chars (a : IPv6) : List Char :=
  match a.mapped? with
  | some q => "::ffff:".toList ++ q.chars
  | none =>
    let run := longestZeros 0 ⟨0, 0⟩ ⟨0, 0⟩ a.groups
    if 1 < run.length then
      joinGroups (a.groups.take run.start) ++ ':' :: ':' ::
        joinGroups (a.groups.drop (run.start + run.length))
    else joinGroups a.groups

/-- The text of an address. -/
def Ip.chars : Ip → List Char
  | .v4 a => a.chars
  | .v6 a => a.chars

instance : ToString Ip := ⟨fun ip => String.ofList ip.chars⟩

/-! ### Loopback -/

/-- The IPv4 address of the machine itself by its usual name. -/
def Ip.localhost : Ip := .v4 ⟨127, 0, 0, 1⟩

/-- The one IPv6 loopback address. -/
def IPv6.loopback : IPv6 := ⟨[0, 0, 0, 0, 0, 0, 0, 1], rfl⟩

/-- An address that never leaves the machine: `127.0.0.0/8` or `::1`. -/
def Ip.isLoopback : Ip → Bool
  | .v4 a => a.first == 127
  | .v6 a => a.groups == [0, 0, 0, 0, 0, 0, 0, 1]

end FaultyServer.Address
