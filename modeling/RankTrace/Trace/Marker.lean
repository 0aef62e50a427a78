import RankTrace.Decimal.Binary
import RankTrace.Time.Duration
import RankTrace.Trace.Group

/-!
# Completion markers

A marker fires when the work before it on a device has finished. What a marker answers is up to
the device: it may change its mind, and a call may unwind instead of answering. Asking for the
time between two markers can be slow, so operations may be recorded while it runs.
-/

namespace RankTrace

structure MarkerId where
  val : Nat
  deriving DecidableEq, Inhabited, Repr

inductive ProbeError
  | notCompleted
  | incompatible (why : String)
  | device (why : String)
  deriving DecidableEq, Inhabited, Repr

namespace ProbeError

def message : ProbeError → String
  | notCompleted => "duration can only be computed after the operation completed"
  | incompatible why => s!"completion markers are incompatible: {why}"
  | device why => s!"device timing query failed: {why}"

end ProbeError

/-- A call answers or unwinds. -/
inductive Reply (α : Type)
  | answered (a : α)
  | unwound
  deriving DecidableEq, Repr

def Reply.unwindMessage : String := "marker panicked"

structure Tensor where
  sizes : List Int64
  dtype : String
  deriving DecidableEq, Inhabited, Repr

structure Issued where
  groupId : UInt64 := 0
  group : GroupName
  status : StatusId
  collectiveSeq : UInt64 := 0
  p2pSeq : UInt64 := 0
  opId : UInt64 := 0
  name : String
  inputs : List Tensor := []
  outputs : List Tensor := []
  start : Option MarkerId := none
  stop : Option MarkerId := none
  timeout : Duration := .zero
  pointToPoint : Bool := false
  deriving DecidableEq, Inhabited

/-- A device that answers about its markers. `elapsed` gives the milliseconds between two markers
and what was recorded while it ran. -/
structure Device (δ : Type) where
  query : MarkerId → δ → Reply Bool × δ
  elapsed : MarkerId → MarkerId → δ → Reply (Except ProbeError Single) × List Issued × δ

namespace Device

variable {δ : Type}

def probe (dev : Device δ) (start stop : MarkerId) (d : δ) :
    Reply (Except ProbeError Single) × List Issued × δ :=
  match dev.query stop d with
  | (.answered true, d) => dev.elapsed start stop d
  | (.answered false, d) => (.answered (.error .notCompleted), [], d)
  | (.unwound, d) => (.unwound, [], d)

end Device

end RankTrace
