import RankTrace.Session.State

/-!
# Tracing in a session

The recorder, its markers and its groups, by the names that the session gave them.
-/

namespace RankTrace.Session

def withTracer {α : Type} (op : Int64 → Tracer → α × Tracer) (s : Session) : α × Session :=
  let (result, tracer) := op s.now s.tracer
  (result, { s with tracer })

def replaceRecorder (capacity : Nat) (captureStacks : Bool) (s : Session) : Session :=
  let tracer := s.tracer.replaceRecorder capacity captureStacks
  { s with tracer }.emitOption (Tracer.enabledEvent? tracer.recorder)

def newStatus (s : Session) : StatusId × Session :=
  let (id, tracer) := s.tracer.addProgress
  (id, { s with tracer })

def status (name : String) (s : Session) : StatusId × Session :=
  match s.statusNames.lookup name with
  | some id => (id, s)
  | none =>
    let (id, s) := s.newStatus
    (id, { s with statusNames := s.statusNames.set name id })

def changeStatus (name : String) (change : GroupProgress → GroupProgress) (s : Session) :
    GroupProgress × Session :=
  let (id, s) := s.status name
  let progress := change (s.tracer.board id)
  (progress, { s with tracer := s.tracer.setProgress id progress })

def addMarker (name : String) (marker : Marker) (s : Session) : Session :=
  let (id, markers) := s.tracer.markers.add marker
  { s with
    tracer := { s.tracer with markers }
    markerNames := s.markerNames.set name id }

def marker? (name : String) (s : Session) : Option MarkerId := s.markerNames.lookup name

def fire (id : MarkerId) (s : Session) : Session :=
  { s with tracer := { s.tracer with
    markers := s.tracer.markers.fire id s.host.clock.monotonic } }

def record (op : Issued) (count : Nat) (s : Session) : Option Nat × Session :=
  s.withTracer fun now t => t.recordMany now op count none

def retire (id : Option Nat) (withDuration : Bool) (s : Session) : Reply Unit × Session :=
  match s.withTracer fun now t => t.retire now id withDuration with
  | (.unwound, s) => (.unwound, s)
  | (.answered outcome, s) => (.answered (), s.emitOption (Tracer.retiredEvent? id outcome))

/-- Where native diagnostics of a dump come from. -/
inductive NativeSource
  | absent
  | silent
  | fixed (dumps : NativeDumps)
  | registry

def collectNative (source : NativeSource) (s : Session) : Option NativeDumps × Session :=
  match source with
  | .absent | .silent => (none, s)
  | .fixed dumps => (some dumps, s)
  | .registry => s.withFleet Fleet.nativeDumps

/-- The tree of a dump. Native diagnostics are collected before the recorder is read. -/
def dumpTree (flavor : Flavor) (options : DumpOptions) (source : NativeSource) (s : Session) :
    Reply Value × Session :=
  let (native, s) := s.collectNative source
  s.withTracer fun now t => t.dumpTree now options flavor native

def dump (source : NativeSource) (flavor : Flavor) (options : DumpOptions) (s : Session) :
    Reply (List UInt8) × Session :=
  match s.dumpTree flavor options source with
  | (.answered tree, s) => (.answered (Dump.encode flavor tree), s)
  | (.unwound, s) => (.unwound, s)

end RankTrace.Session
