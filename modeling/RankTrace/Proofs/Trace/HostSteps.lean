import RankTrace.Proofs.Trace.Shown

/-!
# What an event does to a tracer with host markers

An event either leaves the entries alone, or adds one to them, or changes each of them for itself.
Nothing takes back that a marker has fired.
-/

namespace RankTrace

def TracerEvent.applyTo (b : MarkerBank) (now : Int64) : TracerEvent → Entry → Entry
  | retire (some id) withDuration, e => if e.id = id then e.retiredBy b now withDuration else e
  | dump, e => e.polledBy b now
  | _, e => e

theorem TracerEvent.applyTo_id (b : MarkerBank) (now : Int64) (event : TracerEvent) (e : Entry) :
    (event.applyTo b now e).id = e.id := by
  unfold applyTo
  split
  · split <;> rfl
  · rfl
  · rfl

namespace TimedTracer

def run (s : TimedTracer) (events : List TracerEvent) : TimedTracer :=
  events.foldl (fun s event => (s.step event).2) s

variable {s s' : TimedTracer} {event : TracerEvent}

theorem run_append (s : TimedTracer) (events more : List TracerEvent) :
    s.run (events ++ more) = (s.run events).run more := List.foldl_append

theorem run_snoc (s : TimedTracer) (events : List TracerEvent) (event : TracerEvent) :
    s.run (events ++ [event]) = ((s.run events).step event).2 := s.run_append events [event]

theorem getElem?_answers (s : TimedTracer) (events : List TracerEvent) (k : Nat) :
    (s.answers events)[k]? =
      events[k]?.map fun event => ((s.run (events.take k)).step event).1 := by
  induction events generalizing s k with
  | nil => rfl
  | cons event rest ih =>
    cases k with
    | zero => rfl
    | succ k => exact ih (s.step event).2 k

structure Stepped (s s' : TimedTracer) (event : TracerEvent) : Prop where
  layout : s'.tracer.recorder.Layout
  host : s'.tracer.markers.HostOnly
  fires : s.tracer.markers.FiresIn s'.tracer.markers
  capacity : s'.tracer.recorder.capacity = s.tracer.recorder.capacity
  count : 0 < s.tracer.recorder.capacity →
    s'.tracer.recorder.nextId = s.tracer.recorder.nextId + if event.isRecord then 1 else 0
  entries : ∀ e' ∈ s'.tracer.recorder.slots,
    (∃ op, event = .record op ∧ 0 < s.tracer.recorder.capacity ∧
      e' = s.tracer.recorder.nextEntry (s.tracer.moment s.now) op) ∨
    ∃ e ∈ s.tracer.recorder.slots, e' = event.applyTo s.tracer.markers s.now e

theorem step_retire (hl : s.tracer.recorder.Layout) (hb : s.tracer.markers.HostOnly) (id : Nat)
    (w : Bool) :
    (s.step (.retire (some id) w)).2 = { s with tracer := { s.tracer with
      recorder := { s.tracer.recorder with
        slots := s.tracer.recorder.slots.map
          (TracerEvent.applyTo s.tracer.markers s.now (.retire (some id) w)) } } } := by
  obtain ⟨outcome, hr⟩ := Recorder.retire_host hl hb (s.tracer.moment s.now) id w
  simp only [step, Tracer.retire, hr]
  rfl

theorem step_dump (hl : s.tracer.recorder.Layout) (hb : s.tracer.markers.HostOnly) :
    s.step .dump =
      (.dumped (.answered ((s.tracer.recorder.entries.map
        (·.polledBy s.tracer.markers s.now)).map Entry.clearMarkers)),
      { s with tracer := { s.tracer with recorder := { s.tracer.recorder with
        slots := s.tracer.recorder.slots.map
          (TracerEvent.applyTo s.tracer.markers s.now .dump) } } }) := by
  simp only [step, Tracer.snapshot, Recorder.snapshot_host hl hb]
  rfl

theorem stepped_map (hl : s.tracer.recorder.Layout) (hb : s.tracer.markers.HostOnly)
    (hevent : event.isRecord = false) :
    Stepped s { s with tracer := { s.tracer with recorder := { s.tracer.recorder with
      slots := s.tracer.recorder.slots.map (event.applyTo s.tracer.markers s.now) } } } event where
  layout := hl.map (event.applyTo_id _ _)
  host := hb
  fires := s.tracer.markers.firesIn_refl
  capacity := rfl
  count := fun _ => by rw [hevent]; rfl
  entries := fun e' he' => by
    obtain ⟨e, he, rfl⟩ := List.mem_map.mp he'
    exact .inr ⟨e, he, rfl⟩

theorem stepped_still (hl : s'.tracer.recorder.Layout) (hb : s'.tracer.markers.HostOnly)
    (hfires : s.tracer.markers.FiresIn s'.tracer.markers)
    (hsame : s'.tracer.recorder.capacity = s.tracer.recorder.capacity ∧
      s'.tracer.recorder.nextId = s.tracer.recorder.nextId ∧
      s'.tracer.recorder.slots = s.tracer.recorder.slots)
    (hevent : event.isRecord = false ∧ ∀ e, event.applyTo s.tracer.markers s.now e = e) :
    Stepped s s' event where
  layout := hl
  host := hb
  fires := hfires
  capacity := hsame.1
  count := fun _ => by
    rw [hevent.1]
    exact hsame.2.1
  entries := fun e he => .inr ⟨e, hsame.2.2 ▸ he, (hevent.2 e).symm⟩

theorem stepped_record (hl : s.tracer.recorder.Layout) (hb : s.tracer.markers.HostOnly)
    (op : Issued) : Stepped s (s.step (.record op)).2 (.record op) where
  layout := hl.record _ op
  host := hb
  fires := s.tracer.markers.firesIn_refl
  capacity := Recorder.record_capacity _ _ _
  count := fun hpos => Recorder.record_nextId hpos _ op
  entries := fun e' he' => by
    by_cases hpos : 0 < s.tracer.recorder.capacity
    · rcases hl.mem_record hpos he' with hnew | hold
      · exact .inl ⟨op, rfl, hpos, hnew⟩
      · exact .inr ⟨e', hold, rfl⟩
    · have hsame :
          s.tracer.recorder.record (s.tracer.moment s.now) op = (none, s.tracer.recorder) :=
        Recorder.record_disabled (by omega) _ op
      simp only [step, Tracer.record, hsame] at he'
      exact .inr ⟨e', he', rfl⟩

theorem stepped (hl : s.tracer.recorder.Layout) (hb : s.tracer.markers.HostOnly)
    (event : TracerEvent) : Stepped s (s.step event).2 event := by
  have hrefl := s.tracer.markers.firesIn_refl
  cases event with
  | record op => exact stepped_record hl hb op
  | retire id w =>
    cases id with
    | none => exact stepped_still hl hb hrefl ⟨rfl, rfl, rfl⟩ ⟨rfl, fun _ => rfl⟩
    | some id =>
      rw [step_retire hl hb]
      exact stepped_map hl hb rfl
  | dump =>
    rw [step_dump hl hb]
    exact stepped_map hl hb rfl
  | setRanks group ranks =>
    have hranks : (s.tracer.recorder.setRanks group ranks).Layout ∧
        (s.tracer.recorder.setRanks group ranks).nextId = s.tracer.recorder.nextId ∧
        (s.tracer.recorder.setRanks group ranks).slots = s.tracer.recorder.slots := by
      unfold Recorder.setRanks
      split
      · exact ⟨hl.congr rfl rfl rfl rfl, rfl, rfl⟩
      · exact ⟨hl, rfl, rfl⟩
    exact stepped_still hranks.1 hb hrefl ⟨Recorder.setRanks_capacity _ _ _, hranks.2⟩
      ⟨rfl, fun _ => rfl⟩
  | addMarker =>
    exact stepped_still hl hb.add s.tracer.markers.firesIn_add ⟨rfl, rfl, rfl⟩ ⟨rfl, fun _ => rfl⟩
  | fire id =>
    exact stepped_still hl (hb.fire id _) (s.tracer.markers.firesIn_fire id _) ⟨rfl, rfl, rfl⟩
      ⟨rfl, fun _ => rfl⟩
  | addProgress | setProgress | setStack | advance | setWall =>
    exact stepped_still hl hb hrefl ⟨rfl, rfl, rfl⟩ ⟨rfl, fun _ => rfl⟩

end TimedTracer

end RankTrace
