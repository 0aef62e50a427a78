import RankTrace.Native.Status
import RankTrace.Native.UniqueId

/-!
# The native library

What communicators ask of the collective-communication library, and what it may answer. A library
is any state with an answer to every call, so a statement about all libraries covers every
behaviour of the real one. Its version, its last error text and whether it can register memory are
read without a call.
-/

namespace RankTrace

structure RawHandle where
  val : UInt64
  deriving DecidableEq, Inhabited, Repr

structure SegmentHandle where
  val : UInt64
  deriving DecidableEq, Inhabited, Repr

/-- Creation options. What is `none` stays at the library's default. -/
structure InitConfig where
  blocking : Bool := true
  clusterSize : Option Int32 := none
  minBlocks : Option Int32 := none
  maxBlocks : Option Int32 := none
  network : Option String := none
  shareOnSplit : Bool := false
  deriving DecidableEq, Inhabited

abbrev Diagnostics := List (String × String)

inductive NativeCall
  | uniqueId
  | initRank (worldSize rank : Int32) (id : UniqueId) (config : InitConfig)
  | split (parent : RawHandle) (color key : Int32) (config : InitConfig)
  | asyncError (comm : RawHandle)
  | abort (comm : RawHandle)
  | registerSegment (comm : RawHandle) (ptr size : UInt64)
  | deregisterSegment (comm : RawHandle) (segment : SegmentHandle)
  | dump (comm : RawHandle)
  deriving DecidableEq

/-- What a call gives back. The query of the asynchronous error may itself fail, so it has a status
inside and one outside. -/
abbrev NativeCall.Answer : NativeCall → Type
  | uniqueId => Except Status UniqueId
  | initRank .. => Except Status RawHandle
  | split .. => Except Status RawHandle
  | asyncError _ => Except Status Status
  | abort _ => Status
  | registerSegment .. => Except Status SegmentHandle
  | deregisterSegment .. => Status
  | dump _ => Except Status Diagnostics

structure Library (σ : Type) where
  answer : (call : NativeCall) → σ → call.Answer × σ
  versionCode : σ → Option Int32
  lastError : σ → Option RawHandle → Option String
  supportsRegistration : σ → Bool

namespace InitConfig

def optionText {α : Type} (show1 : α → String) : Option α → String
  | some a => show1 a
  | none => "-"

def text (c : InitConfig) : String :=
  let number := optionText fun n : Int32 => toString n.toInt
  s!"blocking={c.blocking} cga={number c.clusterSize} min={number c.minBlocks} " ++
    s!"max={number c.maxBlocks} net={optionText id c.network} share={c.shareOnSplit}"

end InitConfig

namespace NativeCall

def text : NativeCall → String
  | uniqueId => "unique_id"
  | initRank worldSize rank id config =>
    s!"init_rank world={worldSize.toInt} rank={rank.toInt} id={id.text} {config.text}"
  | split parent color key config =>
    s!"split {parent.val} color={color.toInt} key={key.toInt} {config.text}"
  | asyncError comm => s!"async_error {comm.val}"
  | abort comm => s!"abort {comm.val}"
  | registerSegment comm ptr size => s!"register {comm.val} ptr={ptr} size={size}"
  | deregisterSegment comm segment => s!"deregister {comm.val} handle={segment.val}"
  | dump comm => s!"dump {comm.val}"

end NativeCall

end RankTrace
