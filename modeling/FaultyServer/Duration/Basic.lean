import FaultyServer.Text.Number

/-!
# Durations

A span of time is a whole number of seconds that fits 64 bits and a fraction in nanoseconds. This
module holds the type, its length in other units, and the compact text that log lines and messages
use; `FaultyServer.Duration.Human` has the text of configuration files.
-/

namespace FaultyServer

/-- A span of time: whole seconds that fit 64 bits, and nanoseconds below one second. -/
structure Duration where
  seconds : Nat
  nanos : Nat
  seconds_lt : seconds < UInt64.size
  nanos_lt : nanos < 1000000000
  deriving DecidableEq

namespace Duration

/-- The duration of these seconds and nanoseconds, if there is one. -/
def of? (seconds nanos : Nat) : Option Duration :=
  if h : seconds < UInt64.size ∧ nanos < 1000000000 then some ⟨seconds, nanos, h.1, h.2⟩ else none

/-- No time at all. -/
def zero : Duration := ⟨0, 0, by decide, by decide⟩

/-- A number of whole seconds. -/
def ofSeconds (n : Nat) (h : n < UInt64.size) : Duration := ⟨n, 0, h, by decide⟩

/-- A number of milliseconds below one second. -/
def ofMillis (n : Nat) (h : n < 1000) : Duration :=
  ⟨0, n * 1000000, by decide, by omega⟩

instance : Inhabited Duration := ⟨zero⟩

/-- The length in nanoseconds. -/
def totalNanos (d : Duration) : Nat := d.seconds * 1000000000 + d.nanos

/-- A whole part with a fraction of `places` digits, without zeros at its end. -/
def fixedPoint (whole fraction places : Nat) : List Char :=
  let digits := Text.dropTrailingZeros (Text.padded places fraction)
  Text.decimal whole ++ (if digits.isEmpty then [] else '.' :: digits)

/-- The compact text: one number in the largest of the units `s`, `ms`, `µs` and `ns` in which it
is at least one, with as many decimals as it needs. -/
def compact (d : Duration) : String :=
  String.ofList <|
    if 0 < d.seconds then fixedPoint d.seconds d.nanos 9 ++ ['s']
    else if 1000000 ≤ d.nanos then
      fixedPoint (d.nanos / 1000000) (d.nanos % 1000000) 6 ++ ['m', 's']
    else if 1000 ≤ d.nanos then
      fixedPoint (d.nanos / 1000) (d.nanos % 1000) 3 ++ ['µ', 's']
    else Text.decimal d.nanos ++ ['n', 's']

end Duration

end FaultyServer
