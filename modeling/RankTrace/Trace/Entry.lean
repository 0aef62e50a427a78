import RankTrace.Trace.Marker

/-!
# Traced operations

One entry for one recorded operation: what was issued, what has been observed of its completion,
and the sizes of its tensors in one flat list, from which the shapes are rebuilt.
-/

namespace RankTrace

inductive EntryState
  | scheduled
  | started
  | completed
  deriving DecidableEq, Repr

def EntryState.name : EntryState → String
  | scheduled => "scheduled"
  | started => "started"
  | completed => "completed"

structure Entry where
  id : Nat
  groupId : UInt64
  group : GroupName
  collectiveSeq : UInt64
  p2pSeq : UInt64
  opId : UInt64
  name : String
  stack : Option (List UInt64) := none
  start : Option MarkerId := none
  stop : Option MarkerId := none
  created : Int64
  timeoutMs : Int64 := 0
  pointToPoint : Bool := false
  duration : Option Single := none
  started : Option Int64 := none
  completed : Option Int64 := none
  inputDims : List UInt64 := []
  inputTypes : List String := []
  outputDims : List UInt64 := []
  outputTypes : List String := []
  /-- Input sizes followed by output sizes. -/
  sizes : List Int64 := []
  retired : Bool := false
  deriving DecidableEq, Inhabited

namespace Entry

variable {δ : Type}

def ofIssued (id : Nat) (now : Int64) (stack : Option (List UInt64)) (op : Issued) : Entry where
  id := id
  groupId := op.groupId
  group := op.group
  collectiveSeq := op.collectiveSeq
  p2pSeq := op.p2pSeq
  opId := op.opId
  name := op.name
  stack := stack
  start := op.start
  stop := op.stop
  created := now
  timeoutMs := Int64.ofNat op.timeout.millis
  pointToPoint := op.pointToPoint
  inputDims := op.inputs.map (UInt64.ofNat ·.sizes.length)
  inputTypes := op.inputs.map (·.dtype)
  outputDims := op.outputs.map (UInt64.ofNat ·.sizes.length)
  outputTypes := op.outputs.map (·.dtype)
  sizes := op.inputs.flatMap (·.sizes) ++ op.outputs.flatMap (·.sizes)

def state (e : Entry) : EntryState :=
  if e.completed.isSome then .completed
  else if e.started.isSome then .started
  else .scheduled

def stamp (dev : Device δ) (now : Int64) (known : Option Int64) (marker : Option MarkerId) (d : δ) :
    Reply (Option Int64) × δ :=
  match known, marker with
  | none, some m =>
    match dev.query m d with
    | (.answered fired, d) => (.answered (if fired then some now else none), d)
    | (.unwound, d) => (.unwound, d)
  | known, _ => (.answered known, d)

/-- Poll the markers, the one at the start first. What was stamped before a call unwinds stays. -/
def observe (dev : Device δ) (now : Int64) (e : Entry) (d : δ) : Reply Unit × Entry × δ :=
  match stamp dev now e.started e.start d with
  | (.unwound, d) => (.unwound, e, d)
  | (.answered started, d) =>
    let e := { e with started }
    match stamp dev now e.completed e.stop d with
    | (.unwound, d) => (.unwound, e, d)
    | (.answered completed, d) => (.answered (), { e with completed }, d)

def clearMarkers (e : Entry) : Entry := { e with start := none, stop := none }

/-- One list of sizes for every tensor. Where the sizes run out, the lists stay short. -/
def chunk : List Int64 → List UInt64 → List (List Int64)
  | _, [] => []
  | sizes, dim :: dims => sizes.take dim.toNat :: chunk (sizes.drop dim.toNat) dims

def total : List UInt64 → Nat
  | [] => 0
  | dim :: dims => dim.toNat + total dims

/-- All dimensions together, as a word. An addition that overflows unwinds. -/
def checkedTotal (sum : UInt64) : List UInt64 → Reply UInt64
  | [] => .answered sum
  | dim :: dims =>
    if sum.toNat + dim.toNat < UInt64.size then checkedTotal (sum + dim) dims else .unwound

def overflowMessage : String := "attempt to add with overflow"

def inputSizes (e : Entry) : List (List Int64) := chunk e.sizes e.inputDims

def outputSizes (e : Entry) : Reply (List (List Int64)) :=
  match checkedTotal 0 e.inputDims with
  | .answered start => .answered (chunk (e.sizes.drop start.toNat) e.outputDims)
  | .unwound => .unwound

/-- The output sizes where no addition overflows. The input dimensions of a recorded operation are
lengths of parts of one list, so their sum does not. -/
def recordedOutputSizes (e : Entry) : List (List Int64) :=
  chunk (e.sizes.drop (total e.inputDims)) e.outputDims

end Entry

end RankTrace
