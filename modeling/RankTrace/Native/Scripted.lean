import RankTrace.Native.Library

/-!
# A scripted library

A library that lives inside the process. It counts every call it receives, draws handles from one
counter, and its answers can be set: how many polls an initialization or an abort stays in
progress, which calls fail, which asynchronous errors show. A forced failure is answered before
the call reaches the counters.
-/

namespace RankTrace

inductive PollBudget
  | finite (polls : Nat)
  | never
  deriving DecidableEq, Inhabited, Repr

structure ScriptedComm where
  pending : PollBudget := .finite 0
  error : Option Status := none
  aborted : Bool := false
  segments : List (UInt64 × UInt64) := []
  deriving DecidableEq, Inhabited

structure CallCounts where
  init : Nat := 0
  split : Nat := 0
  abort : Nat := 0
  asyncError : Nat := 0
  register : Nat := 0
  deregister : Nat := 0
  deriving DecidableEq, Inhabited

structure ForcedFailures where
  uniqueId : Option Status := none
  asyncError : Option Status := none
  register : Option Status := none
  deregister : Option Status := none
  dump : Option Status := none
  deriving DecidableEq, Inhabited

structure Scripted where
  version : Option Int32 := some 21803
  registration : Bool := true
  initPolls : PollBudget := .finite 0
  abortPolls : PollBudget := .finite 0
  initFailure : Option Status := none
  abortResult : Status := .success
  diagnostics : Diagnostics := []
  lastError : Option String := none
  forced : ForcedFailures := {}
  counts : CallCounts := {}
  comms : List (UInt64 × ScriptedComm) := []
  nextHandle : UInt64 := 0x1000
  deriving Inhabited

namespace Scripted

/-- Segment handles are pointers with these bits flipped. -/
def segmentMask : UInt64 := 0xfeed

def comm? (s : Scripted) (raw : RawHandle) : Option ScriptedComm := s.comms.lookup raw.val

def setComm (s : Scripted) (raw : RawHandle) (c : ScriptedComm) : Scripted :=
  { s with comms := (raw.val, c) :: s.comms.filter (·.1 != raw.val) }

def allocate (s : Scripted) (config : InitConfig) : Except Status RawHandle × Scripted :=
  match s.initFailure with
  | some failure => (.error failure, s)
  | none =>
    let raw : RawHandle := ⟨s.nextHandle⟩
    let pending := if config.blocking then .finite 0 else s.initPolls
    (.ok raw, { s with nextHandle := s.nextHandle + 0x10 }.setComm raw { pending })

def poll (c : ScriptedComm) : Status × ScriptedComm :=
  match c.pending with
  | .never => (.inProgress, c)
  | .finite (n + 1) => (.inProgress, { c with pending := .finite n })
  | .finite 0 => (c.error.getD .success, c)

def setSegment (c : ScriptedComm) (ptr size : UInt64) : ScriptedComm :=
  { c with segments := (ptr, size) :: c.segments.filter (·.1 != ptr) }

def eraseSegment (c : ScriptedComm) (ptr : UInt64) : ScriptedComm :=
  { c with segments := c.segments.filter (·.1 != ptr) }

/-- A fresh id; ids and handles come from the same counter. -/
def drawUniqueId (s : Scripted) : Except Status UniqueId × Scripted :=
  match s.forced.uniqueId with
  | some failure => (.error failure, s)
  | none =>
    (.ok (UniqueId.ofNat s.nextHandle.toNat), { s with nextHandle := s.nextHandle + 1 })

def initRank (s : Scripted) (config : InitConfig) : Except Status RawHandle × Scripted :=
  { s with counts.init := s.counts.init + 1 }.allocate config

def split (s : Scripted) (parent : RawHandle) (config : InitConfig) :
    Except Status RawHandle × Scripted :=
  let s := { s with counts.split := s.counts.split + 1 }
  if (s.comm? parent).isSome then s.allocate config else (.error .invalidArgument, s)

def queryError (s : Scripted) (raw : RawHandle) : Except Status Status × Scripted :=
  match s.forced.asyncError with
  | some failure => (.error failure, s)
  | none =>
    let s := { s with counts.asyncError := s.counts.asyncError + 1 }
    match s.comm? raw with
    | none => (.error .invalidArgument, s)
    | some c =>
      let (status, c) := poll c
      (.ok status, s.setComm raw c)

def abort (s : Scripted) (raw : RawHandle) : Status × Scripted :=
  let s := { s with counts.abort := s.counts.abort + 1 }
  match s.comm? raw with
  | none => (.invalidArgument, s)
  | some c =>
    (s.abortResult,
      s.setComm raw { c with aborted := true, pending := s.abortPolls, segments := [] })

def register (s : Scripted) (raw : RawHandle) (ptr size : UInt64) :
    Except Status SegmentHandle × Scripted :=
  match s.forced.register with
  | some failure => (.error failure, s)
  | none =>
    let s := { s with counts.register := s.counts.register + 1 }
    match s.comm? raw with
    | none => (.error .invalidArgument, s)
    | some c => (.ok ⟨ptr ^^^ segmentMask⟩, s.setComm raw (setSegment c ptr size))

def deregister (s : Scripted) (raw : RawHandle) (segment : SegmentHandle) : Status × Scripted :=
  match s.forced.deregister with
  | some failure => (failure, s)
  | none =>
    let s := { s with counts.deregister := s.counts.deregister + 1 }
    match s.comm? raw with
    | none => (.invalidArgument, s)
    | some c => (.success, s.setComm raw (eraseSegment c (segment.val ^^^ segmentMask)))

def dump (s : Scripted) (raw : RawHandle) : Except Status Diagnostics × Scripted :=
  match s.forced.dump with
  | some failure => (.error failure, s)
  | none =>
    match s.comm? raw with
    | none => (.error .invalidArgument, s)
    | some _ => (.ok s.diagnostics, s)

def answer : (call : NativeCall) → Scripted → call.Answer × Scripted
  | .uniqueId, s => s.drawUniqueId
  | .initRank _ _ _ config, s => s.initRank config
  | .split parent _ _ config, s => s.split parent config
  | .asyncError raw, s => s.queryError raw
  | .abort raw, s => s.abort raw
  | .registerSegment raw ptr size, s => s.register raw ptr size
  | .deregisterSegment raw segment, s => s.deregister raw segment
  | .dump raw, s => s.dump raw

def library : Library Scripted where
  answer := answer
  versionCode s := s.version
  lastError s _ := s.lastError
  supportsRegistration s := s.registration

/-- The same library without a dump facility: every communicator reports an empty map. -/
def libraryWithoutDump : Library Scripted :=
  { library with
    answer := fun call s =>
      match call with
      | .dump _ => (.ok [], s)
      | call => answer call s }

def inject (s : Scripted) (raw : RawHandle) (status : Status) : Scripted :=
  match s.comm? raw with
  | some c => s.setComm raw { c with error := some status }
  | none => s

def segmentCount (s : Scripted) (raw : RawHandle) : Nat :=
  ((s.comm? raw).map (·.segments.length)).getD 0

def isAborted (s : Scripted) (raw : RawHandle) : Bool :=
  ((s.comm? raw).map (·.aborted)).getD false

end Scripted

end RankTrace
