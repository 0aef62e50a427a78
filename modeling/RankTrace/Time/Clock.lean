import RankTrace.Time.Duration

/-!
# Clocks

A wall clock, which may be set, and a monotonic clock, which only runs forward. Reading either
takes no time. A timestamp is the wall clock in nanoseconds since the epoch as a 64-bit word.
-/

namespace RankTrace

structure Clock where
  /-- Nanoseconds since the epoch, negative before it. -/
  wall : Int
  monotonic : Nat
  deriving DecidableEq, Inhabited, Repr

namespace Clock

def advance (c : Clock) (d : Duration) : Clock :=
  ⟨c.wall + d.ns, c.monotonic + d.ns⟩

def setWall (c : Clock) (ns : Int) : Clock := { c with wall := ns }

/-- The timestamp of this moment: zero before the epoch, wrapped where a word ends. -/
def timestamp (c : Clock) : Int64 :=
  if c.wall < 0 then 0 else Int64.ofInt c.wall

end Clock

end RankTrace
