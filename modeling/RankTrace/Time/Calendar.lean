import RankTrace.Time.Duration

/-!
# Calendar time

The wall clock as a date and a time of day of universal time, after the Gregorian calendar. Years
are counted from March, so that a leap day ends its year, and in cycles of 400 years.
-/

namespace RankTrace

structure CalendarTime where
  year : Int
  month : Nat
  day : Nat
  hour : Nat
  minute : Nat
  second : Nat
  nanosecond : Nat
  deriving DecidableEq, Repr

namespace CalendarTime

def daysPerCycle : Nat := 146097

/-- Days from the first of March of the year 0 to the epoch. -/
def epochDay : Int := 719468

def secondsPerDay : Nat := 86400

def ofWall (ns : Int) : CalendarTime :=
  let seconds := ns.fdiv Duration.nsPerSecond
  let shifted := seconds.fdiv secondsPerDay + epochDay
  let cycle := shifted.fdiv daysPerCycle
  let inCycle := (shifted.fmod daysPerCycle).toNat
  let yearInCycle := (inCycle - inCycle / 1460 + inCycle / 36524 - inCycle / 146096) / 365
  let inYear := inCycle - (365 * yearInCycle + yearInCycle / 4 - yearInCycle / 100)
  let fromMarch := (5 * inYear + 2) / 153
  let month := if fromMarch < 10 then fromMarch + 3 else fromMarch - 9
  let inDay := (seconds.fmod secondsPerDay).toNat
  { year := yearInCycle + cycle * 400 + (if month ≤ 2 then 1 else 0)
    month
    day := inYear - (153 * fromMarch + 2) / 5 + 1
    hour := inDay / 3600
    minute := inDay / 60 % 60
    second := inDay % 60
    nanosecond := (ns.fmod Duration.nsPerSecond).toNat }

def padded (width n : Nat) : String :=
  let digits := Nat.toDigits 10 n
  String.ofList (List.replicate (width - digits.length) '0' ++ digits)

def upToSecond (t : CalendarTime) : String :=
  let year := if t.year < 0 then "-" ++ padded 4 t.year.natAbs else padded 4 t.year.toNat
  s!"{year}-{padded 2 t.month}-{padded 2 t.day}T" ++
    s!"{padded 2 t.hour}:{padded 2 t.minute}:{padded 2 t.second}"

def microsecondText (t : CalendarTime) : String :=
  s!"{t.upToSecond}.{padded 6 (t.nanosecond / 1000)}Z"

def shortText (t : CalendarTime) : String :=
  if t.nanosecond = 0 then s!"{t.upToSecond}Z"
  else s!"{t.upToSecond}.{String.ofList (Duration.decimals 9 t.nanosecond)}Z"

end CalendarTime

end RankTrace
