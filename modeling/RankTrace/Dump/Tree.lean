import RankTrace.Communicator.Registry
import RankTrace.Dump.Json
import RankTrace.Dump.MessagePack
import RankTrace.Trace.Recorder
import RankTrace.Trace.Symbols

/-!
# Building dump trees

A dump reads the ranks of the groups, their progress, and the entries, in this order and each as
one step under the recorder's lock. The tree is then built from what was read. There are two
flavors of one tree: text dumps have the progress as strings and refer to a shared table of
frames, binary dumps have the progress as numbers and the frames inside every entry.
-/

namespace RankTrace

structure DumpOptions where
  collectives : Bool := true
  stackTraces : Bool := true
  onlyActive : Bool := false
  deriving DecidableEq, Inhabited, Repr

inductive Flavor
  | text
  | binary
  deriving DecidableEq, Repr

/-- What a dump has read of a recorder. The entries are not looked at without collectives. -/
structure Reading where
  ranks : Table GroupName (List UInt64)
  progress : Table UInt64 GroupProgress
  entries : Option (List Entry)

namespace Dump

def version : String := "2.4"

def ranksText (ranks : List UInt64) : String :=
  "[" ++ String.intercalate ", " (ranks.map toString) ++ "]"

def groupConfig (ranks : Table GroupName (List UInt64)) : Value :=
  .dict (ranks.map fun (group, ranks) =>
    (group.name, .dict [("name", .str group.name), ("desc", .str group.desc),
      ("ranks", .str (ranksText ranks))]))

def sequenceNumber (flavor : Flavor) (n : Int64) : Value :=
  match flavor with
  | .text => .str (toString n.toInt)
  | .binary => .int n

def groupStatus (flavor : Flavor) (progress : Table UInt64 GroupProgress) : Value :=
  .dict (progress.map fun (id, p) =>
    (toString id, .dict [("last_enqueued_collective", sequenceNumber flavor p.enqueued),
      ("last_started_collective", sequenceNumber flavor p.started),
      ("last_completed_collective", sequenceNumber flavor p.completed)]))

def frameValue (f : Frame) : Value :=
  .dict [("name", .str f.name), ("filename", .str f.file),
    ("line", .int (Int64.ofNat f.line.toNat))]

def sizesValue (sizes : List (List Int64)) : Value :=
  .list (sizes.map fun s => .list (s.map .int))

def durationField (e : Entry) : List (String × Value) :=
  match e.duration with
  | some d => [("duration_ms", .float d.toDouble)]
  | none => []

def entryFields (e : Entry) : List (String × Value) :=
  [("record_id", Value.ofNat e.id),
    ("pg_id", Value.ofUInt64 e.groupId),
    ("process_group", Value.ofStrings [e.group.name, e.group.desc]),
    ("collective_seq_id", Value.ofUInt64 e.collectiveSeq),
    ("p2p_seq_id", Value.ofUInt64 e.p2pSeq),
    ("op_id", Value.ofUInt64 e.opId),
    ("profiling_name", .str e.name),
    ("time_created_ns", .int e.created)] ++
  durationField e ++
  [("input_sizes", sizesValue e.inputSizes),
    ("input_dtypes", Value.ofStrings e.inputTypes),
    ("output_sizes", sizesValue e.recordedOutputSizes),
    ("output_dtypes", Value.ofStrings e.outputTypes),
    ("state", .str e.state.name),
    ("time_discovered_started_ns", Value.ofOption e.started),
    ("time_discovered_completed_ns", Value.ofOption e.completed),
    ("retired", .bool e.retired),
    ("timeout_ms", .int e.timeoutMs),
    ("is_p2p", .bool e.pointToPoint)]

def framesValue (flavor : Flavor) (table : List Value) (indices : List Nat) : Value :=
  match flavor with
  | .text => .list (indices.map Value.ofNat)
  | .binary => .list (indices.filterMap (table[·]?))

def entryValue (flavor : Flavor) (table : List Value) (indices : Option (List Nat)) (e : Entry) :
    Value :=
  match indices with
  | some indices => .dict (("frames", framesValue flavor table indices) :: entryFields e)
  | none => .dict (entryFields e)

/-- Whether an entry is listed. -/
def isListed (options : DumpOptions) (e : Entry) : Bool :=
  !(options.onlyActive && e.completed.isSome)

/-- The rows about entries. Frames are resolved for all entries, also for those not listed. -/
def collectiveFields (resolver : Resolver) (options : DumpOptions) (flavor : Flavor)
    (entries : List Entry) : List (String × Value) :=
  if options.stackTraces then
    let symbolized := symbolize resolver (entries.map (·.stack))
    let table := symbolized.frames.map frameValue
    let rows := (entries.zip symbolized.traces).filter fun row => isListed options row.1
    let listed := Value.list (rows.map fun (e, indices) => entryValue flavor table (some indices) e)
    match flavor with
    | .text => [("all_frames", .list table), ("entries", listed)]
    | .binary => [("entries", listed)]
  else
    [("entries", .list ((entries.filter (isListed options)).map (entryValue flavor [] none)))]

def nativeValue (native : NativeDumps) : Value :=
  .dict ((Table.ofRows native).map fun (commId, state) =>
    (commId, .dict ((Table.ofRows state).map fun (key, value) => (key, .str value))))

/-- The row about native diagnostics; there is none when nothing was collected. -/
def nativeFields (native : Option NativeDumps) : List (String × Value) :=
  match native with
  | some (row :: rows) => [("nccl_comm_state", nativeValue (row :: rows))]
  | _ => []

def tree (resolver : Resolver) (options : DumpOptions) (flavor : Flavor)
    (native : Option NativeDumps) (reading : Reading) : Value :=
  .dict ([("version", .str version),
      ("pg_config", groupConfig reading.ranks),
      ("pg_status", groupStatus flavor reading.progress)] ++
    (match reading.entries with
      | some entries => collectiveFields resolver options flavor entries
      | none => []) ++
    nativeFields native)

end Dump

namespace Recorder

variable {δ : Type}

/-- Read a recorder for a dump. Without collectives no marker is polled. -/
def read (dev : Device δ) (now : Int64) (board : StatusId → GroupProgress) (options : DumpOptions)
    (r : Recorder) (d : δ) : Reply Reading × Recorder × δ :=
  let ranks := r.ranks
  let progress := r.progress board
  if options.collectives then
    match r.snapshot dev now d with
    | (.answered entries, r, d) => (.answered ⟨ranks, progress, some entries⟩, r, d)
    | (.unwound, r, d) => (.unwound, r, d)
  else (.answered ⟨ranks, progress, none⟩, r, d)

end Recorder

end RankTrace
