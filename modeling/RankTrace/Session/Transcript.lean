import RankTrace.Logging.Event
import RankTrace.Native.Library

/-!
# Transcripts

The calls and log events of a session as text. Equal calls that follow each other are counted.
Segments are released in no particular order, so lines about them are sorted where they stand
together.
-/

namespace RankTrace.Transcript

def addLine (runs : List (String × Nat)) (line : String) : List (String × Nat) :=
  match runs with
  | (first, n) :: rest => if line = first then (first, n + 1) :: rest else (line, 1) :: runs
  | [] => [(line, 1)]

def runs (newestFirst : List String) : List (String × Nat) := newestFirst.foldl addLine []

def runText (run : String × Nat) : String :=
  if run.2 = 1 then run.1 else s!"{run.1} x{run.2}"

def sortRuns {α : Type} (loose : α → Bool) (le : α → α → Bool) (items : List α) : List α :=
  let insertLoose := fun (item : α) (done : List α × List α) =>
    if loose item then (item :: done.1, done.2) else ([], item :: (done.1.mergeSort le ++ done.2))
  let (pending, done) := items.foldr insertLoose ([], [])
  pending.mergeSort le ++ done

def isDeregister (line : String) : Bool := line.startsWith "deregister "

def leText (a b : String) : Bool := !(b < a)

def calls (newestFirst : List NativeCall) : List String :=
  sortRuns isDeregister leText ((runs (newestFirst.map (·.text))).map runText)

structure Line where
  head : String
  message : String
  fields : List (String × String)

def Line.ofEvent (e : LogEvent) : Line := ⟨s!"{e.level.label} {e.target}", e.message, e.fields⟩

def isReleaseFailure (e : LogEvent) : Bool :=
  e.message = "failed to deregister segment during abort"

def leEvent (a b : LogEvent) : Bool :=
  leText (String.intercalate "\n" (a.fields.map (·.2)))
    (String.intercalate "\n" (b.fields.map (·.2)))

def log (newestFirst : List LogEvent) : List Line :=
  (sortRuns isReleaseFailure leEvent newestFirst.reverse).map Line.ofEvent

end RankTrace.Transcript
