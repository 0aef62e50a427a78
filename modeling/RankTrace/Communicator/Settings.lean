import RankTrace.Time.Duration

/-!
# Communicator settings

Whether communicators are created without blocking, and how long to poll for them. The deadline is
kept in whole seconds and is at least one when it comes from a span.
-/

namespace RankTrace

structure CommSettings where
  nonblocking : Bool := false
  timeoutSecs : Option UInt64 := none
  deriving DecidableEq, Inhabited, Repr

namespace CommSettings

def defaultTimeout : Duration := .ofSeconds 1800

def blocking : CommSettings := {}

/-- Settings without blocking; a deadline is cut to whole seconds but not below one. -/
def withoutBlocking (timeout : Option Duration) : CommSettings where
  nonblocking := true
  timeoutSecs := timeout.map fun t => UInt64.ofNat (max t.seconds 1)

def initTimeout (s : CommSettings) : Duration :=
  match s.timeoutSecs with
  | some secs => .ofSeconds secs.toNat
  | none => defaultTimeout

end CommSettings

end RankTrace
