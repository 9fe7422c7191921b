/-!
# The alternating counter

The counter that decides whose turn it is on an alternating route. It is a 64-bit word: an advance
past the largest word wraps around. A turn is a success if its value is a multiple of three.
-/

namespace FaultyServer

/-- The counter of the alternating routes. -/
structure Counter where
  value : UInt64
  deriving DecidableEq

namespace Counter

/-- Every how many turns of an unwrapped counter with step one a success comes. -/
def period : UInt64 := 3

/-- A fresh counter. -/
def fresh : Counter := ⟨0⟩

/-- Adds a step; the new value is the value of the turn. -/
def advance (c : Counter) (step : UInt64) : Counter := ⟨c.value + step⟩

/-- Whether the turn with this value succeeds. -/
def isSuccessTurn (value : UInt64) : Bool := value % period == 0

end Counter

end FaultyServer
