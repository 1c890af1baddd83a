/-!
# Clocks

Times are milliseconds since the Unix epoch, as machine integers. The directory reads a clock once
per write and asks nothing else of it, so a clock is whatever gives a reading and goes on. A manual
clock gives a known sequence of readings.
-/

namespace DeviceCatalog

/-- A source of times: each reading gives a time and the source after it. -/
class Clock (source : Type) where
  read : source → Int64 × source

/-- A clock whose readings are known in advance: each reading moves it on by a fixed step, and the
sum wraps around at the ends of the machine range. -/
structure ManualClock where
  next : Int64
  step : Int64
deriving DecidableEq, Repr

namespace ManualClock

/-- The reading, and the clock after it. -/
def read (clock : ManualClock) : Int64 × ManualClock :=
  (clock.next, { clock with next := clock.next + clock.step })

/-- The clock moved to a time. -/
def moveTo (clock : ManualClock) (time : Int64) : ManualClock := { clock with next := time }

instance : Clock ManualClock := ⟨read⟩

end ManualClock

end DeviceCatalog
