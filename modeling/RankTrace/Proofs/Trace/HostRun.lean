import RankTrace.Proofs.Trace.Steps
import RankTrace.Trace.Tracer

/-!
# Runs with host markers

A tracer on a clock, and what one thread after another may do with it. All markers are host
markers: asking them changes nothing and never unwinds, so a poll, a retirement and a snapshot are
functions of the entries, of what has fired and of the time.
-/

namespace RankTrace

namespace MarkerBank

def HostOnly (b : MarkerBank) : Prop := ∀ m ∈ b.markers, ∃ firedAt, m = .host firedAt

def measured? (b : MarkerBank) (start stop : MarkerId) : Option Single :=
  match (device.probe start stop b).1 with
  | .answered (.ok duration) => some duration
  | _ => none

variable {b : MarkerBank}

theorem HostOnly.get (h : b.HostOnly) {id : MarkerId} {m : Marker} (hm : b.get? id = some m) :
    ∃ firedAt, m = .host firedAt := h m (List.mem_of_getElem? hm)

theorem HostOnly.query (h : b.HostOnly) (id : MarkerId) :
    device.query id b = (.answered (b.hasFired id), b) := by
  simp only [device, MarkerBank.query, hasFired]
  cases hm : b.get? id with
  | none => rfl
  | some m =>
    obtain ⟨firedAt, rfl⟩ := h.get hm
    cases firedAt <;> rfl

theorem HostOnly.elapsed (h : b.HostOnly) (start stop : MarkerId) :
    ∃ result, device.elapsed start stop b = (.answered result, [], b) := by
  simp only [device, MarkerBank.elapsed]
  cases hm : b.get? start with
  | none => exact ⟨_, rfl⟩
  | some m =>
    obtain ⟨firedAt, rfl⟩ := h.get hm
    exact ⟨_, rfl⟩

theorem HostOnly.probe (h : b.HostOnly) (start stop : MarkerId) :
    ∃ result, device.probe start stop b = (.answered result, [], b) := by
  unfold Device.probe
  rw [h.query]
  cases b.hasFired stop with
  | true => exact h.elapsed start stop
  | false => exact ⟨_, rfl⟩

theorem HostOnly.add (h : b.HostOnly) : (b.add (.host none)).2.HostOnly := by
  intro m hm
  rcases List.mem_append.mp hm with hm | hm
  · exact h m hm
  · exact ⟨none, List.mem_singleton.mp hm⟩

theorem HostOnly.fire (h : b.HostOnly) (id : MarkerId) (now : Nat) : (b.fire id now).HostOnly := by
  unfold MarkerBank.fire
  split
  · intro m hm
    rcases List.mem_or_eq_of_mem_set hm with hm | rfl
    · exact h m hm
    · exact ⟨_, rfl⟩
  · exact h

end MarkerBank

namespace Entry

/-- A timestamp after a poll: what is known stays, what has fired is stamped now. -/
def stampBy (b : MarkerBank) (now : Int64) (known : Option Int64) (marker : Option MarkerId) :
    Option Int64 :=
  known <|> marker.bind fun m => if b.hasFired m then some now else none

def polledBy (b : MarkerBank) (now : Int64) (e : Entry) : Entry :=
  { e with
    started := stampBy b now e.started e.start
    completed := stampBy b now e.completed e.stop }

/-- The duration after a retirement of a polled entry: measured between the markers that are taken
from it, if it is retired so that there are any. -/
def durationBy (b : MarkerBank) (withDuration : Bool) (e : Entry) : Option Single :=
  match e.claimed withDuration with
  | .markers start stop => b.measured? start stop <|> e.duration
  | _ => e.duration

def retiredBy (b : MarkerBank) (now : Int64) (withDuration : Bool) (e : Entry) : Entry :=
  let polled := e.polledBy b now
  { polled.close with duration := polled.durationBy b withDuration }

variable {b : MarkerBank}

theorem stamp_host (h : b.HostOnly) (now : Int64) (known : Option Int64)
    (marker : Option MarkerId) :
    stamp MarkerBank.device now known marker b = (.answered (stampBy b now known marker), b) := by
  cases known with
  | some t => cases marker <;> rfl
  | none =>
    cases marker with
    | none => rfl
    | some m => simp [stamp, stampBy, h.query]

theorem observe_host (h : b.HostOnly) (now : Int64) (e : Entry) :
    e.observe MarkerBank.device now b = (.answered (), e.polledBy b now, b) := by
  simp [observe, stamp_host h, polledBy]

@[simp] theorem polledBy_id (b : MarkerBank) (now : Int64) (e : Entry) :
    (e.polledBy b now).id = e.id := rfl

@[simp] theorem retiredBy_id (b : MarkerBank) (now : Int64) (w : Bool) (e : Entry) :
    (e.retiredBy b now w).id = e.id := rfl

end Entry

namespace Recorder

variable {b : MarkerBank} {r : Recorder}

theorem observeAll_host (h : b.HostOnly) (now : Int64) (es : List Entry) :
    observeAll MarkerBank.device now es b = (.answered (), es.map (·.polledBy b now), b) := by
  induction es with
  | nil => rfl
  | cons e rest ih => simp [observeAll, Entry.observe_host h, ih]

theorem entries_map (r : Recorder) (f : Entry → Entry) :
    { r with slots := r.slots.map f }.entries = r.entries.map f := by
  simp [entries, List.map_append, List.map_drop, List.map_take]

theorem Layout.slots_of_disabled (h : Layout r) (hzero : r.capacity = 0) : r.slots = [] := by
  apply List.eq_nil_of_length_eq_zero
  rw [h.length_slots, hzero, Nat.min_zero]

theorem snapshot_host (h : Layout r) (hb : b.HostOnly) (now : Int64) :
    r.snapshot MarkerBank.device now b =
      (.answered ((r.entries.map (·.polledBy b now)).map Entry.clearMarkers),
        { r with slots := r.slots.map (·.polledBy b now) }, b) := by
  by_cases hpos : 0 < r.capacity
  · simp only [snapshot, isEnabled, hpos, decide_true, Bool.not_true, Bool.false_eq_true,
      ↓reduceIte, observeAll_host hb, entries_map]
  · have hnil := h.slots_of_disabled (by omega)
    cases r
    simp_all [snapshot, isEnabled, entries]

theorem claim_host {e : Entry} {id : Nat} (hs : r.slot? id = some e) (hb : b.HostOnly) (now : Int64)
    (w : Bool) :
    r.claim MarkerBank.device now id w b =
      ((e.polledBy b now).claimed w, r.setSlot id (e.polledBy b now).close, b) := by
  simp only [claim, hs, Entry.observe_host hb]
  rfl

/-- Retiring changes at most the entry with the id. -/
theorem retire_host (h : Layout r) (hb : b.HostOnly) (m : Moment) (id : Nat) (w : Bool) :
    ∃ outcome, r.retire MarkerBank.device m (some id) w b = (.answered outcome,
      { r with slots := r.slots.map fun e => if e.id = id then e.retiredBy b m.now w else e },
      b) := by
  by_cases hpos : 0 < r.capacity
  case neg =>
    have hnil := h.slots_of_disabled (by omega)
    refine ⟨.ignored, ?_⟩
    cases r
    simp_all [retire, isEnabled]
  simp only [retire, isEnabled, hpos, decide_true, Bool.not_true, Bool.false_eq_true, ↓reduceIte]
  cases hs : r.slot? id with
  | none =>
    refine ⟨.skipped, ?_⟩
    rw [h.map_eq_self hs]
    simp [claim, hs]
  | some e =>
    rw [← h.setSlot_eq_map hs (·.retiredBy b m.now w), claim_host hs hb]
    -- without a measured duration the retired entry is the closed one
    have unmeasured : (e.polledBy b m.now).durationBy b w = (e.polledBy b m.now).duration →
        (e.polledBy b m.now).close = e.retiredBy b m.now w := by
      intro hd
      rw [Entry.retiredBy, hd]
      rfl
    rcases (e.polledBy b m.now).claimed_cases w with hc | ⟨start, stop, hc, _⟩
    · refine ⟨.unmeasured, ?_⟩
      rw [hc, ← unmeasured (by simp [Entry.durationBy, hc])]
    · rw [hc]
      obtain ⟨result, hp⟩ := hb.probe start stop
      cases result with
      | error error =>
        refine ⟨.failed error, ?_⟩
        rw [← unmeasured (by simp [Entry.durationBy, hc, MarkerBank.measured?, hp])]
        simp [hp, recordAll]
      | ok duration =>
        refine ⟨.measured, ?_⟩
        have hback : (r.setSlot id (e.polledBy b m.now).close).slot? id =
            some (e.polledBy b m.now).close := slot_setSlot hs (mem_of_slot hs).2
        have hd : (e.polledBy b m.now).durationBy b w = some duration := by
          simp [Entry.durationBy, hc, MarkerBank.measured?, hp]
        simp [hp, recordAll, commit, hback, setSlot_setSlot, Entry.retiredBy, hd]

end Recorder

structure TimedTracer where
  tracer : Tracer
  clock : Clock

inductive TracerEvent
  | record (op : Issued)
  | retire (id : Option Nat) (withDuration : Bool)
  | dump
  | setRanks (group : GroupName) (ranks : List UInt64)
  | addProgress
  | setProgress (id : StatusId) (progress : GroupProgress)
  | addMarker
  | fire (id : MarkerId)
  | setStack (addresses : List UInt64)
  | advance (d : Duration)
  | setWall (ns : Int)

inductive TracerAnswer
  | nothing
  | recorded (id : Option Nat)
  | retired (reply : Reply Unit)
  | dumped (reply : Reply (List Entry))

def TracerAnswer.recordedId? : TracerAnswer → Option (Option Nat)
  | recorded id => some id
  | _ => none

def TracerEvent.isRecord : TracerEvent → Bool
  | record _ => true
  | _ => false

namespace TimedTracer

def start (capacity : Nat) (captureStacks : Bool) (clock : Clock) : TimedTracer where
  tracer := { recorder := .new capacity captureStacks }
  clock := clock

def now (s : TimedTracer) : Int64 := s.clock.timestamp

def step (s : TimedTracer) : TracerEvent → TracerAnswer × TimedTracer
  | .record op =>
    let (id, tracer) := s.tracer.record s.now op
    (.recorded id, { s with tracer })
  | .retire id withDuration =>
    match s.tracer.retire s.now id withDuration with
    | (.answered _, tracer) => (.retired (.answered ()), { s with tracer })
    | (.unwound, tracer) => (.retired .unwound, { s with tracer })
  | .dump =>
    let (reply, tracer) := s.tracer.snapshot s.now
    (.dumped reply, { s with tracer })
  | .setRanks group ranks => (.nothing, { s with tracer := s.tracer.setRanks group ranks })
  | .addProgress => (.nothing, { s with tracer := s.tracer.addProgress.2 })
  | .setProgress id progress => (.nothing, { s with tracer := s.tracer.setProgress id progress })
  | .addMarker =>
    (.nothing, { s with tracer := { s.tracer with
      markers := (s.tracer.markers.add (.host none)).2 } })
  | .fire id =>
    (.nothing, { s with tracer := { s.tracer with
      markers := s.tracer.markers.fire id s.clock.monotonic } })
  | .setStack addresses => (.nothing, { s with tracer := { s.tracer with stack := addresses } })
  | .advance d => (.nothing, { s with clock := s.clock.advance d })
  | .setWall ns => (.nothing, { s with clock := s.clock.setWall ns })

def answers (s : TimedTracer) : List TracerEvent → List TracerAnswer
  | [] => []
  | event :: rest => (s.step event).1 :: answers (s.step event).2 rest

end TimedTracer

end RankTrace
