import RankTrace.Decimal.Power

/-!
# Spans of time

A span is a whole number of nanoseconds. Its text has the largest of the units `s`, `ms`, `µs` and
`ns` that it reaches, and as many decimals as it needs.
-/

namespace RankTrace

structure Duration where
  ns : Nat
  deriving DecidableEq, Inhabited, Repr

namespace Duration

def nsPerSecond : Nat := 1000000000

def zero : Duration := ⟨0⟩

def ofSeconds (s : Nat) : Duration := ⟨s * nsPerSecond⟩

def ofMillis (ms : Nat) : Duration := ⟨ms * 1000000⟩

def seconds (d : Duration) : Nat := d.ns / nsPerSecond

def subsecond (d : Duration) : Nat := d.ns % nsPerSecond

def millis (d : Duration) : Nat := d.ns / 1000000

def decimals (places part : Nat) : List Char :=
  let digits := Nat.toDigits 10 part
  let padded := List.replicate (places - digits.length) '0' ++ digits
  (padded.reverse.dropWhile (· == '0')).reverse

def inUnit (d : Duration) (places : Nat) (unit : String) : String :=
  let whole := toString (d.ns / tenTo places)
  let part := d.ns % tenTo places
  if part = 0 then whole ++ unit
  else whole ++ "." ++ String.ofList (decimals places part) ++ unit

/-- Text in the largest unit that the span reaches. -/
def text (d : Duration) : String :=
  if tenTo 9 ≤ d.ns then d.inUnit 9 "s"
  else if tenTo 6 ≤ d.ns then d.inUnit 6 "ms"
  else if tenTo 3 ≤ d.ns then d.inUnit 3 "µs"
  else d.inUnit 0 "ns"

end Duration

end RankTrace
