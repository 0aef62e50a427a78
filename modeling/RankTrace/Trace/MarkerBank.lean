import RankTrace.Trace.Marker

/-!
# Markers inside the process

Host markers fire when their owner says so and keep the first time. Scripted markers answer what
was laid down for them, and may record operations while the time up to another marker is asked
for. The two kinds cannot be paired with a host marker at the start.
-/

namespace RankTrace

structure MarkerScript where
  /-- Answers to queries in turn, the last one for good; without any, the marker never fires. -/
  queries : List Bool := []
  elapsed : Except ProbeError Single := .ok ⟨0⟩
  unwinds : Bool := false
  meanwhile : List Issued := []

inductive Marker
  | host (firedAt : Option Nat)
  | scripted (script : MarkerScript)

namespace MarkerScript

/-- The next answer to a query; the last one is kept. -/
def next (s : MarkerScript) : Bool × MarkerScript :=
  match s.queries with
  | [] => (false, s)
  | [last] => (last, s)
  | fired :: rest => (fired, { s with queries := rest })

end MarkerScript

/-- Milliseconds as a binary32 number. The seconds and the rest are rounded to binary64, then their
sum, then a thousand times that, and this to binary32. -/
def Duration.millisSingle (d : Duration) : Single :=
  let wide := FloatFormat.binary64
  let (secs, secsDen) := wide.ratio (wide.round d.seconds 1)
  let (rest, restDen) := wide.ratio (wide.round d.subsecond Duration.nsPerSecond)
  let (sum, sumDen) := wide.ratio (wide.round (secs * restDen + rest * secsDen) (secsDen * restDen))
  let (millis, millisDen) := wide.ratio (wide.round (sum * 1000) sumDen)
  ⟨UInt32.ofNat (FloatFormat.binary32.round millis millisDen)⟩

structure MarkerBank where
  markers : List Marker := []

namespace MarkerBank

def get? (b : MarkerBank) (id : MarkerId) : Option Marker := b.markers[id.val]?

def set (b : MarkerBank) (id : MarkerId) (m : Marker) : MarkerBank :=
  { b with markers := b.markers.set id.val m }

def add (b : MarkerBank) (m : Marker) : MarkerId × MarkerBank :=
  (⟨b.markers.length⟩, { b with markers := b.markers ++ [m] })

/-- Fire a host marker; the first time counts. -/
def fire (b : MarkerBank) (id : MarkerId) (now : Nat) : MarkerBank :=
  match b.get? id with
  | some (.host none) => b.set id (.host (some now))
  | _ => b

def hasFired (b : MarkerBank) (id : MarkerId) : Bool :=
  match b.get? id with
  | some (.host (some _)) => true
  | _ => false

def query (id : MarkerId) (b : MarkerBank) : Reply Bool × MarkerBank :=
  match b.get? id with
  | some (.host firedAt) => (.answered firedAt.isSome, b)
  | some (.scripted script) =>
    if script.unwinds then (.unwound, b)
    else
      let (fired, script) := script.next
      (.answered fired, b.set id (.scripted script))
  | none => (.answered false, b)

def hostElapsed (start : Option Nat) (stop : Option Marker) : Except ProbeError Single :=
  match start, stop with
  | some start, some (.host (some stop)) => .ok (Duration.millisSingle ⟨stop - start⟩)
  | _, some (.host _) => .error .notCompleted
  | _, _ => .error (.incompatible "host marker paired with a device marker")

def elapsed (start stop : MarkerId) (b : MarkerBank) :
    Reply (Except ProbeError Single) × List Issued × MarkerBank :=
  match b.get? start with
  | some (.host firedAt) => (.answered (hostElapsed firedAt (b.get? stop)), [], b)
  | some (.scripted script) => (.answered script.elapsed, script.meanwhile, b)
  | none => (.answered (.error .notCompleted), [], b)

def device : Device MarkerBank where
  query := query
  elapsed := elapsed

def dropRecordings (b : MarkerBank) : MarkerBank where
  markers := b.markers.map fun
    | .scripted script => .scripted { script with meanwhile := [] }
    | marker => marker

end MarkerBank

end RankTrace
