import RankTrace.Dump.Tree
import RankTrace.Logging.Event
import RankTrace.Trace.MarkerBank

/-!
# Tracers

A recorder together with everything that its dumps depend on: the markers, the progress of the
groups, the call stack of the recording thread, and the symbols. What happens to an operation that
is retired is logged.
-/

namespace RankTrace

structure Tracer where
  recorder : Recorder := {}
  markers : MarkerBank := {}
  progress : List GroupProgress := []
  stack : List UInt64 := []
  symbols : List (UInt64 × List Symbol) := []

namespace Tracer

def target : String := "dynamo_flight_recorder::recorder"

def board (t : Tracer) (id : StatusId) : GroupProgress := t.progress.getD id.val {}

def resolver (t : Tracer) : Resolver := fun address => (t.symbols.lookup address).getD []

def moment (t : Tracer) (now : Int64) : Recorder.Moment := ⟨now, t.stack⟩

def addProgress (t : Tracer) : StatusId × Tracer :=
  (⟨t.progress.length⟩, { t with progress := t.progress ++ [{}] })

def setProgress (t : Tracer) (id : StatusId) (p : GroupProgress) : Tracer :=
  { t with progress := t.progress.set id.val p }

def replaceRecorder (t : Tracer) (capacity : Nat) (captureStacks : Bool) : Tracer :=
  { t with
    recorder := .new capacity captureStacks
    markers := t.markers.dropRecordings }

def enabledEvent? (r : Recorder) : Option LogEvent :=
  if r.isEnabled then
    some ⟨.debug, target, "flight recorder enabled",
      [("capacity", toString r.capacity), ("capture_native_stack", toString r.captureStacks)]⟩
  else none

def record (now : Int64) (op : Issued) (t : Tracer) : Option Nat × Tracer :=
  let (id, recorder) := t.recorder.record (t.moment now) op
  (id, { t with recorder })

def recordMany (now : Int64) (op : Issued) :
    (count : Nat) → Option Nat → Tracer → Option Nat × Tracer
  | 0, last, t => (last, t)
  | count + 1, _, t =>
    let (id, t) := t.record now op
    recordMany now op count id t

def retiredEvent? (id : Option Nat) (outcome : Recorder.Retired) : Option LogEvent :=
  let idField := ("id", toString (id.getD 0))
  match outcome with
  | .skipped => some ⟨.info, target, "retire skipped; entry was overwritten", [idField]⟩
  | .failed error =>
    some ⟨.debug, target, "could not compute duration", [idField, ("error", error.message)]⟩
  | .abandoned =>
    some ⟨.info, target, "retire abandoned; entry was overwritten while computing duration",
      [idField]⟩
  | .ignored | .unmeasured | .measured => none

def retire (now : Int64) (id : Option Nat) (withDuration : Bool) (t : Tracer) :
    Reply Recorder.Retired × Tracer :=
  let (reply, recorder, markers) :=
    t.recorder.retire MarkerBank.device (t.moment now) id withDuration t.markers
  (reply, { t with recorder, markers })

def snapshot (now : Int64) (t : Tracer) : Reply (List Entry) × Tracer :=
  let (reply, recorder, markers) := t.recorder.snapshot MarkerBank.device now t.markers
  (reply, { t with recorder, markers })

def setRanks (group : GroupName) (ranks : List UInt64) (t : Tracer) : Tracer :=
  { t with recorder := t.recorder.setRanks group ranks }

def dumpTree (now : Int64) (options : DumpOptions) (flavor : Flavor) (native : Option NativeDumps)
    (t : Tracer) : Reply Value × Tracer :=
  let (reply, recorder, markers) :=
    t.recorder.read MarkerBank.device now t.board options t.markers
  let t := { t with recorder, markers }
  match reply with
  | .unwound => (.unwound, t)
  | .answered reading => (.answered (Dump.tree t.resolver options flavor native reading), t)

def recordIssued (now : Int64) (ops : List Issued) (t : Tracer) : Tracer :=
  { t with recorder := t.recorder.recordAll (t.moment now) ops }

def query (id : MarkerId) (t : Tracer) : Reply Bool × Tracer :=
  let (reply, markers) := MarkerBank.device.query id t.markers
  (reply, { t with markers })

def elapsed (now : Int64) (start stop : MarkerId) (t : Tracer) :
    Reply (Except ProbeError Single) × Tracer :=
  let (reply, issued, markers) := MarkerBank.device.elapsed start stop t.markers
  (reply, { t with markers }.recordIssued now issued)

def probe (now : Int64) (start stop : MarkerId) (t : Tracer) :
    Reply (Except ProbeError Single) × Tracer :=
  let (reply, issued, markers) := MarkerBank.device.probe start stop t.markers
  (reply, { t with markers }.recordIssued now issued)

/-- One of several threads: record, retire without a duration if asked to, and look at the
entries, `count` times. -/
def work (now : Int64) (op : Issued) (retiring : Bool) : (count : Nat) → Tracer → Tracer
  | 0, t => t
  | count + 1, t =>
    let (id, t) := t.record now op
    let t := if retiring then (t.retire now id false).2 else t
    work now op retiring count (t.snapshot now).2

/-- Every thread has a progress of its own. The threads run one after the other, which leaves the
same entries as any other order. -/
def workAll (now : Int64) (op : StatusId → Issued) (retiring : Bool) (count : Nat) :
    (threads : Nat) → Tracer → Tracer
  | 0, t => t
  | threads + 1, t =>
    let (status, t) := t.addProgress
    workAll now op retiring count threads (t.work now (op status) retiring count)

end Tracer

namespace Dump

def encode (flavor : Flavor) (v : Value) : List UInt8 :=
  match flavor with
  | .binary => MessagePack.encode v
  | .text => (Json.text v).toUTF8.toList

end Dump

end RankTrace
