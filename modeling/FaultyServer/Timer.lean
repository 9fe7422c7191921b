import FaultyServer.Duration.Basic

/-!
# Timers

Time is counted in whole milliseconds. A timer never fires early, so the delay of a duration is
rounded up, and no timer runs for longer than thirty years of 365 days.
-/

namespace FaultyServer

namespace Timer

/-- The longest delay of a timer, in milliseconds. -/
def longest : Nat := 946080000000

end Timer

/-- How many milliseconds a timer of this duration runs. -/
def Duration.delay (d : Duration) : Nat := min ((d.totalNanos + 999999) / 1000000) Timer.longest

end FaultyServer
