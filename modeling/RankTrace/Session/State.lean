import RankTrace.Communicator.Fleet
import RankTrace.Dump.Writer
import RankTrace.Native.Scripted
import RankTrace.Trace.Tracer

/-!
# Sessions

One process for experiments: communicators over a scripted library, a recorder, and a writer, all
on one clock. Its library may be out of reach of the controls of the script; it then has no dump
facility, and its calls are not shown.
-/

namespace RankTrace

structure Session where
  fleet : Fleet Scripted
  /-- The script that the controls act on, when the library is out of their reach. -/
  detached : Option Scripted := none
  ids : Table String UniqueId := []
  boots : Table String Bootstrap := []
  tracer : Tracer := {}
  markerNames : Table String MarkerId := []
  statusNames : Table String StatusId := []
  outlet : Outlet
  tasks : Nat := 0

namespace Session

def epoch : Clock := ⟨1700000000000000000, 0⟩

/-- A new session; `attached` says whether the controls reach the library. -/
def start (script : Scripted) (attached : Bool) (directory : String) : Session where
  fleet := { host := { library := script, clock := epoch } }
  detached := if attached then none else some script
  outlet := { directory := { path := directory } }

def library (s : Session) : Library Scripted :=
  if s.detached.isNone then Scripted.library else Scripted.libraryWithoutDump

def host (s : Session) : Host Scripted := s.fleet.host

def setHost (s : Session) (host : Host Scripted) : Session :=
  { s with fleet := { s.fleet with host } }

def emit (event : LogEvent) (s : Session) : Session := s.setHost (s.host.emit event)

def emitOption (event : Option LogEvent) (s : Session) : Session :=
  match event with
  | some event => s.emit event
  | none => s

def now (s : Session) : Int64 := s.host.clock.timestamp

def advance (d : Duration) (s : Session) : Session := s.setHost (s.host.sleep d)

def setWall (ns : Int) (s : Session) : Session :=
  s.setHost { s.host with clock := s.host.clock.setWall ns }

def script (s : Session) : Scripted := s.detached.getD s.host.library

def controlScript (change : Scripted → Scripted) (s : Session) : Session :=
  match s.detached with
  | some script => { s with detached := some (change script) }
  | none => s.setHost { s.host with library := change s.host.library }

def withFleet {α : Type} (op : Library Scripted → Fleet Scripted → α × Fleet Scripted)
    (s : Session) : α × Session :=
  let (result, fleet) := op s.library s.fleet
  (result, { s with fleet })

def drawId (name : String) (s : Session) : Except Status UniqueId × Session :=
  let (answer, host) := s.host.call s.library .uniqueId
  let s := s.setHost host
  match answer with
  | .error status => (.error status, s)
  | .ok id => (.ok id, { s with ids := s.ids.set name id })

def generateBootstrap (name : String) (worldSize : UInt64) (s : Session) :
    Except CommError Bootstrap × Session :=
  let (result, host) := Bootstrap.generate s.library worldSize s.host
  let s := s.setHost host
  match result with
  | .error e => (.error e, s)
  | .ok boot => (.ok boot, { s with boots := s.boots.set name boot })

def finish (s : Session) : Session := { s with fleet := s.fleet.dropAll s.library }

end Session

end RankTrace
