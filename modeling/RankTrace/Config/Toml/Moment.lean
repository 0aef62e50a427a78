import RankTrace.Config.Toml.Fault
import RankTrace.Time.Calendar

/-!
# Moments in configuration files

A date, a time of day, or both; both together may have an offset from universal time. There are
several ways to write a moment, and one way in which it is written back.
-/

namespace RankTrace.Toml

structure Date where
  year : Nat
  month : Nat
  day : Nat
  deriving DecidableEq, Repr

structure TimeOfDay where
  hour : Nat
  minute : Nat
  second : Nat
  parts : List Char := []
  deriving DecidableEq, Repr

inductive Offset
  | universal
  | minutes (n : Int)
  deriving DecidableEq, Repr

structure Moment where
  date : Option Date := none
  time : Option TimeOfDay := none
  offset : Option Offset := none
  deriving DecidableEq, Repr

open CalendarTime (padded)

def Date.text (d : Date) : String := s!"{padded 4 d.year}-{padded 2 d.month}-{padded 2 d.day}"

def TimeOfDay.text (t : TimeOfDay) : String :=
  let parts := if t.parts.isEmpty then "" else "." ++ String.ofList t.parts
  s!"{padded 2 t.hour}:{padded 2 t.minute}:{padded 2 t.second}{parts}"

def Offset.text : Offset → String
  | universal => "Z"
  | minutes n =>
    let sign := if n < 0 then "-" else "+"
    s!"{sign}{padded 2 (n.natAbs / 60)}:{padded 2 (n.natAbs % 60)}"

def Moment.text (m : Moment) : String :=
  let date := (m.date.map Date.text).getD ""
  let time := (m.time.map TimeOfDay.text).getD ""
  let offset := (m.offset.map Offset.text).getD ""
  (if m.date.isSome && m.time.isSome then date ++ "T" ++ time else date ++ time) ++ offset

def field (count low high : Nat) (cs : List Char) : Read Nat :=
  match Scan.natural? (cs.take count) with
  | some n =>
    if cs.length < count then .error (Fault.before cs)
    else
      (checking cs (if low ≤ n ∧ n ≤ high then .ok n else .error "value is out of range")).map
        (·, cs.drop count)
  | none => .error (Fault.before cs)

def daysIn (year month : Nat) : Nat :=
  if month = 2 then
    if (year % 4 = 0 ∧ year % 100 ≠ 0) ∨ year % 400 = 0 then 29 else 28
  else if month = 4 ∨ month = 6 ∨ month = 9 ∨ month = 11 then 30
  else 31

def date (cs : List Char) : Except Fault (Date × List Char) := do
  let (year, rest) ← field 4 0 9999 cs
  let rest ← expect ['-'] rest
  firmly do
    let (month, rest) ← field 2 1 12 rest
    let rest ← expect ['-'] rest
    let (day, rest) ← field 2 1 (daysIn year month) rest
    return (⟨year, month, day⟩, rest)

/-- Digits that count, of those behind the point: nine at most. -/
def partsOfSecond (digits : List Char) : List Char :=
  ((digits.take 9).reverse.dropWhile (· == '0')).reverse

def secondParts : List Char → List Char × List Char
  | '.' :: c :: rest =>
    if c.isDigit then
      (partsOfSecond (c :: rest.takeWhile Char.isDigit), rest.dropWhile Char.isDigit)
    else ([], '.' :: c :: rest)
  | cs => ([], cs)

def timeOfDay (cs : List Char) : Except Fault (TimeOfDay × List Char) := do
  let (hour, rest) ← field 2 0 23 cs
  let rest ← expect [':'] rest
  firmly do
    let (minute, rest) ← field 2 0 59 rest
    let rest ← expect [':'] rest
    let (second, rest) ← field 2 0 60 rest
    let (parts, rest) := secondParts rest
    return (⟨hour, minute, second, parts⟩, rest)

def offset (cs : List Char) : Read (Option Offset) :=
  match cs with
  | c :: rest =>
    if c = 'Z' ∨ c = 'z' then .ok (some .universal, rest)
    else if c = '+' ∨ c = '-' then
      firmly <| reading "time offset" do
        let (hour, rest) ← field 2 0 23 rest
        let rest ← expect [':'] rest
        let (minute, rest) ← field 2 0 59 rest
        let n : Int := hour * 60 + minute
        return (some (.minutes (if c = '-' then -n else n)), rest)
    else .ok (none, cs)
  | [] => .ok (none, [])

def timeWithOffset (cs : List Char) : Except Fault ((TimeOfDay × Option Offset) × List Char) := do
  let (time, rest) ← timeOfDay cs
  let (offset, rest) ← offset rest
  return ((time, offset), rest)

def timeOfDate (cs : List Char) : Read (Option (TimeOfDay × Option Offset)) :=
  match cs with
  | c :: rest =>
    if c = 'T' ∨ c = 't' ∨ c = ' ' then perhaps cs (timeWithOffset rest) else .ok (none, cs)
  | [] => .ok (none, [])

def moment (cs : List Char) : Read Moment :=
  orElse
    (reading "date-time" do
      let (date, rest) ← date cs
      let (time, rest) ← timeOfDate rest
      return ({ date := some date, time := time.map (·.1), offset := time.bind (·.2) }, rest))
    fun _ => reading "time" do
      let (time, rest) ← timeOfDay cs
      return ({ time := some time }, rest)

end RankTrace.Toml
