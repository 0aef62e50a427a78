import RankTrace.Trace.Entry

/-!
# The recorder

A bounded ring of entries and two tables about groups. While there is room, entries are appended;
then a cursor runs around the slots and each new entry replaces the oldest one. An entry with id
`i` sits in slot `i` modulo the capacity. A recorder of capacity zero is disabled and does nothing.
Ids are natural numbers, which agree with words of 64 bits while fewer than `2 ^ 64` operations are
recorded.

Recording, taking a snapshot and both halves of retiring are one step each under the lock. Between
the two halves of retiring, the time between the markers is asked for with the lock released, so
anything may happen meanwhile.
-/

namespace RankTrace

structure Recorder where
  capacity : Nat := 0
  captureStacks : Bool := false
  slots : List Entry := []
  /-- The slot that is replaced next, once all are taken. -/
  nextSlot : Nat := 0
  nextId : Nat := 0
  statuses : Table UInt64 StatusId := []
  ranks : Table GroupName (List UInt64) := []
  deriving Inhabited

namespace Recorder

variable {δ : Type}

def new (capacity : Nat) (captureStacks : Bool) : Recorder := { capacity, captureStacks }

def isEnabled (r : Recorder) : Bool := 0 < r.capacity

def push (r : Recorder) (e : Entry) : Recorder :=
  if r.slots.length < r.capacity then { r with slots := r.slots ++ [e] }
  else
    { r with
      slots := r.slots.set r.nextSlot e
      nextSlot := (r.nextSlot + 1) % r.capacity }

structure Moment where
  now : Int64
  stack : List UInt64
  deriving DecidableEq, Inhabited, Repr

/-- Record an operation and give its id. A group keeps the progress it was first recorded with. -/
def record (m : Moment) (op : Issued) (r : Recorder) : Option Nat × Recorder :=
  if !r.isEnabled then (none, r)
  else
    let stack := if r.captureStacks then some m.stack else none
    let r := { r with statuses := r.statuses.setNew op.groupId op.status }
    let r := r.push (Entry.ofIssued r.nextId m.now stack op)
    (some r.nextId, { r with nextId := r.nextId + 1 })

def recordAll (m : Moment) (ops : List Issued) (r : Recorder) : Recorder :=
  ops.foldl (fun r op => (r.record m op).2) r

/-- The slot of an id, if it still holds the entry with that id. -/
def slot? (r : Recorder) (id : Nat) : Option Entry :=
  match r.slots[id % r.capacity]? with
  | some e => if e.id = id then some e else none
  | none => none

def setSlot (r : Recorder) (id : Nat) (e : Entry) : Recorder :=
  { r with slots := r.slots.set (id % r.capacity) e }

/-- What a retiring thread takes along when it releases the lock. -/
inductive Claim
  | skipped
  /-- A marker call unwound; the entry is not retired. -/
  | unwound
  | done
  | markers (start stop : MarkerId)
  deriving DecidableEq, Repr

/-- First half of retiring, under the lock: poll the markers, take them, and mark the entry. -/
def claim (dev : Device δ) (now : Int64) (id : Nat) (withDuration : Bool) (r : Recorder) (d : δ) :
    Claim × Recorder × δ :=
  match r.slot? id with
  | none => (.skipped, r, d)
  | some e =>
    match e.observe dev now d with
    | (.unwound, e, d) => (.unwound, r.setSlot id e, d)
    | (.answered (), e, d) =>
      let claim :=
        match e.start, e.stop with
        | some start, some stop =>
          if withDuration && e.completed.isSome then Claim.markers start stop else .done
        | _, _ => .done
      (claim, r.setSlot id { e.clearMarkers with retired := true }, d)

/-- Second half of retiring, under the lock: keep the duration unless the slot holds another entry
by now. Says whether it was kept. -/
def commit (id : Nat) (duration : Single) (r : Recorder) : Bool × Recorder :=
  match r.slot? id with
  | some e => (true, r.setSlot id { e with duration := some duration })
  | none => (false, r)

inductive Retired
  | ignored
  | skipped
  | unmeasured
  | failed (error : ProbeError)
  | measured
  | abandoned
  deriving DecidableEq, Repr

/-- Retire an entry, with its duration if asked for and if it can be had. Operations that the
device records while it is asked come between the two halves. -/
def retire (dev : Device δ) (m : Moment) (id : Option Nat) (withDuration : Bool) (r : Recorder)
    (d : δ) : Reply Retired × Recorder × δ :=
  match id with
  | none => (.answered .ignored, r, d)
  | some id =>
    if !r.isEnabled then (.answered .ignored, r, d)
    else
      match r.claim dev m.now id withDuration d with
      | (.skipped, r, d) => (.answered .skipped, r, d)
      | (.unwound, r, d) => (.unwound, r, d)
      | (.done, r, d) => (.answered .unmeasured, r, d)
      | (.markers start stop, r, d) =>
        let (reply, issued, d) := dev.probe start stop d
        let r := r.recordAll m issued
        match reply with
        | .unwound => (.unwound, r, d)
        | .answered (.error e) => (.answered (.failed e), r, d)
        | .answered (.ok duration) =>
          match r.commit id duration with
          | (true, r) => (.answered .measured, r, d)
          | (false, r) => (.answered .abandoned, r, d)

def observeAll (dev : Device δ) (now : Int64) : List Entry → δ → Reply Unit × List Entry × δ
  | [], d => (.answered (), [], d)
  | e :: rest, d =>
    match e.observe dev now d with
    | (.unwound, e, d) => (.unwound, e :: rest, d)
    | (.answered (), e, d) =>
      let (reply, rest, d) := observeAll dev now rest d
      (reply, e :: rest, d)

def entries (r : Recorder) : List Entry := r.slots.drop r.nextSlot ++ r.slots.take r.nextSlot

/-- All entries as of now, the oldest first and without their markers. -/
def snapshot (dev : Device δ) (now : Int64) (r : Recorder) (d : δ) :
    Reply (List Entry) × Recorder × δ :=
  if !r.isEnabled then (.answered [], r, d)
  else
    match observeAll dev now r.slots d with
    | (.unwound, slots, d) => (.unwound, { r with slots }, d)
    | (.answered (), slots, d) =>
      let r := { r with slots }
      (.answered (r.entries.map Entry.clearMarkers), r, d)

def setRanks (group : GroupName) (ranks : List UInt64) (r : Recorder) : Recorder :=
  if r.isEnabled then { r with ranks := r.ranks.set group ranks } else r

def progress (board : StatusId → GroupProgress) (r : Recorder) : Table UInt64 GroupProgress :=
  r.statuses.map fun row => (row.1, board row.2)

end Recorder

end RankTrace
