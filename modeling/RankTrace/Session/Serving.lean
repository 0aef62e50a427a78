import RankTrace.Control.Endpoint
import RankTrace.Session.Tracing

/-!
# Dumps that leave a session

Through the control endpoint, on request, and through the writer, unasked.
-/

namespace RankTrace.Session

def dumpService (source : NativeSource) : DumpService Session where
  dump := dump source
  emit := emit

def runHandler (name : String) (params : List (String × String)) (source : NativeSource)
    (s : Session) : Reply Response × Session :=
  Control.dispatch (dumpService source) name params s

def request (method target : String) (source : NativeSource) (s : Session) :
    Except RequestLineFault Response × Session :=
  match Method.ofName method, RequestTarget.parse target with
  | .error fault, _ => (.error fault, s)
  | .ok _, .error fault => (.error fault, s)
  | .ok method, .ok target =>
    let s := { s with tasks := s.tasks + 1 }
    let (response, s) := Control.answer (dumpService source) s.tasks method target s
    (.ok response, s)

/-- A session has no network, so a server of its own cannot be reached. -/
def networkFault : String := "Network is unreachable (os error 101)"

def registerWriter (w : Writer) (s : Session) : Bool × Session :=
  match s.outlet.register w with
  | some (event, outlet) => (true, { s with outlet }.emit event)
  | none => (false, s)

def writer (start : String) (rank : Int32) (s : Session) : Writer × Session :=
  let (w, outlet) := s.outlet.getOrRegister (.ofRank start rank)
  (w, { s with outlet })

def write (w : Writer) (payload : List UInt8) (s : Session) : Session :=
  let (event, outlet) := s.outlet.write w payload
  { s with outlet }.emitOption event

def dumpDebugInfo (w : Writer) (source : NativeSource) (s : Session) : Reply Unit × Session :=
  match s.dump source .binary {} with
  | (.unwound, s) => (.unwound, s)
  | (.answered payload, s) =>
    (.answered (), (s.emit ⟨.info, "dynamo_flight_recorder::registry",
      "dumping flight recorder debug info",
      [("target_path", w.target s.outlet.directory), ("bytes", toString payload.length)]⟩).write
        w payload)

end RankTrace.Session
