import FaultyServer.Duration.Basic
import FaultyServer.Text.Blank

/-!
# Durations for people

The text of a duration in a configuration: numbers with units, as in `1h 30m` or `2.5s`, whose sum
is the duration. The printer writes each unit at most once, the largest first. The reader is wider:
units have several names and come in any order, blanks stand anywhere between the parts, and a
number may have decimals if they come out even in the unit's own resolution.

All arithmetic is on 64-bit words and reports an overflow as an unreadable text, with one exception:
`HumanFault.carry`, where the sum of the nanoseconds makes exactly one more second than the seconds
can hold.
-/

namespace FaultyServer.Duration

/-- The units of time. A month is a twelfth and a year the whole of 365.25 days. -/
inductive TimeUnit
  | nanosecond
  | microsecond
  | millisecond
  | second
  | minute
  | hour
  | day
  | week
  | month
  | year
  deriving DecidableEq

namespace TimeUnit

/-- Every unit. -/
def all : List TimeUnit :=
  [nanosecond, microsecond, millisecond, second, minute, hour, day, week, month, year]

/-- The names by which the reader knows a unit. -/
def names : TimeUnit → List String
  | nanosecond => ["nanos", "nsec", "ns"]
  | microsecond => ["usec", "us", "µs"]
  | millisecond => ["millis", "msec", "ms"]
  | second => ["seconds", "second", "secs", "sec", "s"]
  | minute => ["minutes", "minute", "min", "mins", "m"]
  | hour => ["hours", "hour", "hrs", "hr", "h"]
  | day => ["days", "day", "d"]
  | week => ["weeks", "week", "wks", "wk", "w"]
  | month => ["months", "month", "M"]
  | year => ["years", "year", "yrs", "yr", "y"]

/-- The unit of this name. Names are exact: `m` is a minute and `M` a month. -/
def ofName? (name : List Char) : Option TimeUnit :=
  all.find? fun u => u.names.any fun n => n.toList == name

/-- A unit measures in whole seconds or in whole nanoseconds: how many of either make one. -/
inductive Measure
  | seconds (count : Nat)
  | nanos (count : Nat)

/-- The measure of a whole number of units. -/
def measure : TimeUnit → Measure
  | nanosecond => .nanos 1
  | microsecond => .nanos 1000
  | millisecond => .nanos 1000000
  | second => .seconds 1
  | minute => .seconds 60
  | hour => .seconds 3600
  | day => .seconds 86400
  | week => .seconds 604800
  | month => .seconds 2630016
  | year => .seconds 31557600

/-- The measure of the decimals of a number of units. Below an hour they count nanoseconds, from an
hour on whole seconds; a nanosecond has no parts. -/
def fractionMeasure? : TimeUnit → Option Measure
  | nanosecond => none
  | second => some (.nanos 1000000000)
  | minute => some (.nanos (60 * 1000000000))
  | u => some u.measure

end TimeUnit

/-- Why a text is no duration. -/
inductive HumanFault
  /-- The text breaks the grammar, names an unknown unit, or leaves the 64-bit range. -/
  | unreadable
  /-- The nanoseconds add up to exactly one second and the seconds are already the largest. -/
  | carry
  deriving DecidableEq

/-- A sum or product that must fit 64 bits. -/
def checked (n : Nat) : Except HumanFault Nat :=
  if n < UInt64.size then .ok n else .error .unreadable

/-- Adds seconds and nanoseconds to a duration. More than a second's worth of nanoseconds moves to
the seconds first; exactly one second's worth is carried last. -/
def add (d : Duration) (seconds nanos : Nat) : Except HumanFault Duration := do
  let nanos ← checked (d.nanos + nanos)
  let seconds ← if 1000000000 < nanos then checked (seconds + nanos / 1000000000) else pure seconds
  let nanos := if 1000000000 < nanos then nanos % 1000000000 else nanos
  let seconds ← checked (d.seconds + seconds)
  match of? (seconds + nanos / 1000000000) (nanos % 1000000000) with
  | some sum => pure sum
  | none => .error .carry

/-- The decimals of a number: `numerator / denominator`, the denominator a power of ten. -/
structure Fraction where
  numerator : Nat
  denominator : Nat

/-- A number of units, with or without decimals, that is to be added. -/
structure Amount where
  whole : Nat
  fraction : Option Fraction

/-- Adds `count` times a measure, divided by a denominator that must divide it. -/
def addMeasure (d : Duration) (count denominator : Nat) :
    TimeUnit.Measure → Except HumanFault Duration
  | .seconds m => do
    let n ← checked (count * m)
    if n % denominator = 0 then d.add (n / denominator) 0 else .error .unreadable
  | .nanos m => do
    let n ← checked (count * m)
    if n % denominator = 0 then d.add 0 (n / denominator) else .error .unreadable

/-- Adds an amount of the unit of a name. -/
def addAmount (d : Duration) (amount : Amount) (name : List Char) : Except HumanFault Duration :=
  match TimeUnit.ofName? name with
  | none => .error .unreadable
  | some unit => do
    let d ← d.addMeasure amount.whole 1 unit.measure
    match amount.fraction with
    | none => pure d
    | some f =>
      match unit.fractionMeasure? with
      | none => .error .unreadable
      | some m => d.addMeasure f.numerator f.denominator m

/-- A character of a unit's name. -/
def isUnitChar (c : Char) : Bool := Text.isLetter c || c == 'µ'

/-- What the reader is in the middle of. -/
inductive Reading
  /-- Before the first digit of a number. -/
  | start
  /-- In the whole part of a number. -/
  | whole (value : Nat)
  /-- In the decimals of a number. -/
  | decimals (value : Nat) (fraction : Fraction)
  /-- In a unit's name, whose characters so far are given in reverse. -/
  | unit (amount : Amount) (name : List Char)

/-- Reads on from a state. A number ends only at a letter; a name ends at a digit, which starts the
next number, or at a blank. -/
def readFrom (sum : Duration) : Reading → List Char → Except HumanFault Duration
  | .start, [] => pure sum
  | .start, c :: r =>
    match Text.digit? 10 c with
    | some d => readFrom sum (.whole d) r
    | none => if Text.isBlank c then readFrom sum .start r else .error .unreadable
  | .whole _, [] => .error .unreadable
  | .whole n, c :: r =>
    match Text.digit? 10 c with
    | some d => do readFrom sum (.whole (← checked (n * 10 + d))) r
    | none =>
      if Text.isBlank c then readFrom sum (.whole n) r
      else if isUnitChar c then readFrom sum (.unit ⟨n, none⟩ [c]) r
      else if c = '.' then readFrom sum (.decimals n ⟨0, 1⟩) r
      else .error .unreadable
  | .decimals _ _, [] => .error .unreadable
  | .decimals n f, c :: r =>
    match Text.digit? 10 c with
    | some d => do
      let denominator ← checked (f.denominator * 10)
      let numerator ← checked (f.numerator * 10 + d)
      readFrom sum (.decimals n ⟨numerator, denominator⟩) r
    | none =>
      if Text.isBlank c then readFrom sum (.decimals n f) r
      else if isUnitChar c then
        if f.denominator = 1 then .error .unreadable
        else readFrom sum (.unit ⟨n, some f⟩ [c]) r
      else .error .unreadable
  | .unit amount name, [] => sum.addAmount amount name.reverse
  | .unit amount name, c :: r =>
    match Text.digit? 10 c with
    | some d => do readFrom (← sum.addAmount amount name.reverse) (.whole d) r
    | none =>
      if Text.isBlank c then do readFrom (← sum.addAmount amount name.reverse) .start r
      else if isUnitChar c then readFrom sum (.unit amount (c :: name)) r
      else .error .unreadable

/-- Whether a text has nothing but blanks. -/
def isBlankText (cs : List Char) : Bool := cs.all Text.isBlank

/-- The duration of a text. The digit `0` alone needs no unit. -/
def ofHuman (s : String) : Except HumanFault Duration :=
  if s = "0" then .ok zero
  else if isBlankText s.toList then .error .unreadable
  else readFrom zero .start s.toList

/-- One part of the printed text, left out if its count is zero. -/
def part (count : Nat) (name : String) : List String :=
  if count = 0 then [] else [String.ofList (Text.decimal count) ++ name]

/-- One part of the printed text whose unit is spelled out, with a plural. -/
def longPart (count : Nat) (name : String) : List String :=
  part count (if 1 < count then name ++ "s" else name)

/-- The text of a duration: years, months and days spelled out, the rest in short units. -/
def human (d : Duration) : String :=
  let inYear := d.seconds % 31557600
  let inMonth := inYear % 2630016
  let inDay := inMonth % 86400
  let parts :=
    longPart (d.seconds / 31557600) "year" ++ longPart (inYear / 2630016) "month" ++
      longPart (inMonth / 86400) "day" ++ part (inDay / 3600) "h" ++
      part (inDay % 3600 / 60) "m" ++ part (inDay % 60) "s" ++ part (d.nanos / 1000000) "ms" ++
      part (d.nanos / 1000 % 1000) "us" ++ part (d.nanos % 1000) "ns"
  if parts.isEmpty then "0s" else " ".intercalate parts

end FaultyServer.Duration
