import RankTrace.Proofs.Trace.HostRun

/-!
# The recorder against a journal

A journal keeps every entry in one growing list, finds it by its id as a position, and lets the
window of the last entries be polled and shown. A recorder with host markers gives the same answers
as a journal whose window is its capacity, whatever happens in which order. What has left the window
never comes back into it, so a smaller recorder shows the tail of what a larger one shows.
-/

namespace RankTrace

structure Journal where
  entries : List Entry := []
  markers : MarkerBank := {}
  stack : List UInt64 := []
  clock : Clock

namespace Journal

def now (j : Journal) : Int64 := j.clock.timestamp

def before (window : Nat) (j : Journal) : Nat := j.entries.length - window

/-- The journal after a poll of the entries in the window. -/
def pollLast (window : Nat) (j : Journal) : Journal :=
  { j with entries := j.entries.take (j.before window) ++
      (j.entries.drop (j.before window)).map (·.polledBy j.markers j.now) }

/-- The last entries, at most as many as the window is wide, without their markers. -/
def shown (window : Nat) (j : Journal) : List Entry :=
  (j.entries.drop (j.before window)).map Entry.clearMarkers

/-- Groups have no part in what is recorded. -/
def step (window : Nat) (captureStacks : Bool) (j : Journal) :
    TracerEvent → TracerAnswer × Journal
  | .record op =>
    let stack := if captureStacks then some j.stack else none
    let entry := Entry.ofIssued j.entries.length j.now stack op
    (.recorded (some j.entries.length), { j with entries := j.entries ++ [entry] })
  | .retire (some id) withDuration =>
    (.retired (.answered ()),
      { j with entries := j.entries.modify id (·.retiredBy j.markers j.now withDuration) })
  | .retire none _ => (.retired (.answered ()), j)
  | .dump => (.dumped (.answered ((j.pollLast window).shown window)), j.pollLast window)
  | .addMarker => (.nothing, { j with markers := (j.markers.add (.host none)).2 })
  | .fire id => (.nothing, { j with markers := j.markers.fire id j.clock.monotonic })
  | .setStack addresses => (.nothing, { j with stack := addresses })
  | .advance d => (.nothing, { j with clock := j.clock.advance d })
  | .setWall ns => (.nothing, { j with clock := j.clock.setWall ns })
  | .setRanks .. | .addProgress | .setProgress .. => (.nothing, j)

def answers (window : Nat) (captureStacks : Bool) (j : Journal) :
    List TracerEvent → List TracerAnswer
  | [] => []
  | event :: rest =>
    (j.step window captureStacks event).1 ::
      answers window captureStacks (j.step window captureStacks event).2 rest

structure Mirrors (j : Journal) (window : Nat) (captureStacks : Bool) (s : TimedTracer) : Prop where
  layout : s.tracer.recorder.Layout
  capacity : s.tracer.recorder.capacity = window
  captures : s.tracer.recorder.captureStacks = captureStacks
  count : s.tracer.recorder.nextId = j.entries.length
  entries : ∀ e ∈ s.tracer.recorder.slots, j.entries[e.id]? = some e
  markers : s.tracer.markers = j.markers
  host : j.markers.HostOnly
  stack : s.tracer.stack = j.stack
  clock : s.clock = j.clock

theorem length_pollLast (window : Nat) (j : Journal) :
    (j.pollLast window).entries.length = j.entries.length := by
  simp only [pollLast, List.length_append, List.length_take, List.length_map, List.length_drop]
  omega

theorem before_pollLast (window : Nat) (j : Journal) :
    (j.pollLast window).before window = j.before window := by
  simp only [before, length_pollLast]

theorem drop_pollLast (window : Nat) (j : Journal) :
    (j.pollLast window).entries.drop (j.before window) =
      (j.entries.drop (j.before window)).map (·.polledBy j.markers j.now) := by
  have hlen : (j.entries.take (j.before window)).length = j.before window := by
    simp only [List.length_take, before]
    omega
  simp only [pollLast]
  rw [List.drop_append_of_le_length (by omega), List.drop_of_length_le (by omega), List.nil_append]

/-- Entries of the ring that agree with a log at their ids are its end. -/
theorem entries_eq_drop {r : Recorder} (h : r.Layout) {log : List Entry}
    (hcount : r.nextId = log.length) (hentries : ∀ e ∈ r.slots, log[e.id]? = some e) :
    r.entries = log.drop (log.length - r.capacity) := by
  have hlen := h.length_slots
  apply List.ext_getElem?
  intro k
  rw [List.getElem?_drop]
  by_cases hk : k < r.slots.length
  · obtain ⟨e, he, hm, hid⟩ := h.getElem?_entries k hk
    rw [he, ← hentries e hm, hid]
    congr 1
    omega
  · rw [List.getElem?_eq_none, List.getElem?_eq_none]
    · omega
    · rw [h.length_entries]
      omega

variable {j : Journal} {window : Nat} {captureStacks : Bool} {s : TimedTracer}

theorem mirrors_start (window : Nat) (captureStacks : Bool) (clock : Clock) :
    Mirrors { clock } window captureStacks (.start window captureStacks clock) where
  layout := Recorder.layout_new window captureStacks
  capacity := rfl
  captures := rfl
  count := rfl
  entries := by simp [TimedTracer.start, Recorder.new]
  markers := rfl
  host := by simp [MarkerBank.HostOnly]
  stack := rfl
  clock := rfl

theorem Mirrors.now (h : Mirrors j window captureStacks s) : s.now = j.now := by
  rw [TimedTracer.now, h.clock, Journal.now]

theorem Mirrors.record (h : Mirrors j window captureStacks s) (hpos : 1 ≤ window) (op : Issued) :
    (s.step (.record op)).1 = (j.step window captureStacks (.record op)).1 ∧
      Mirrors (j.step window captureStacks (.record op)).2 window captureStacks
        (s.step (.record op)).2 := by
  have hcap : 0 < s.tracer.recorder.capacity := by rw [h.capacity]; exact hpos
  have hentry : s.tracer.recorder.nextEntry (s.tracer.moment s.now) op =
      Entry.ofIssued j.entries.length j.now (if captureStacks then some j.stack else none) op := by
    simp only [Recorder.nextEntry, Tracer.moment, h.count, h.now, h.captures, h.stack]
  constructor
  · simp [TimedTracer.step, step, Tracer.record, Recorder.record_eq hcap, h.count]
  · refine { h with layout := ?_, capacity := ?_, captures := ?_, count := ?_, entries := ?_ }
    · exact h.layout.record _ op
    · exact (Recorder.record_capacity _ _ _).trans h.capacity
    · exact (Recorder.record_captureStacks _ _ _).trans h.captures
    · have := Recorder.record_nextId hcap (s.tracer.moment s.now) op
      simp [TimedTracer.step, step, Tracer.record, this, h.count]
    · intro e he
      rcases h.layout.mem_record hcap he with rfl | hold
      · simp only [step, hentry]
        exact List.getElem?_concat_length
      · have hlt := h.layout.id_lt e hold
        rw [h.count] at hlt
        simp only [step]
        rw [List.getElem?_append_left hlt]
        exact h.entries e hold

theorem Mirrors.retire (h : Mirrors j window captureStacks s) (id : Option Nat) (w : Bool) :
    (s.step (.retire id w)).1 = (j.step window captureStacks (.retire id w)).1 ∧
      Mirrors (j.step window captureStacks (.retire id w)).2 window captureStacks
        (s.step (.retire id w)).2 := by
  cases id with
  | none => exact ⟨rfl, h⟩
  | some id =>
    have hb : s.tracer.markers.HostOnly := h.markers ▸ h.host
    obtain ⟨outcome, hr⟩ :=
      Recorder.retire_host h.layout hb (s.tracer.moment s.now) id w
    have hstep : s.step (.retire (some id) w) = (.retired (.answered ()),
        { s with tracer := { s.tracer with recorder := { s.tracer.recorder with
          slots := s.tracer.recorder.slots.map fun e =>
            if e.id = id then e.retiredBy s.tracer.markers s.now w else e } } }) := by
      simp only [TimedTracer.step, Tracer.retire, hr]
      rfl
    rw [hstep]
    refine ⟨rfl, { h with layout := ?_, count := ?_, entries := ?_ }⟩
    · refine h.layout.congr rfl rfl rfl ?_
      rw [List.map_map]
      apply List.map_congr_left
      intro e _
      by_cases he : e.id = id <;> simp [he]
    · simpa [step] using h.count
    · intro e' he'
      obtain ⟨e, he, rfl⟩ := List.mem_map.mp he'
      have hj := h.entries e he
      by_cases hid : e.id = id
      · subst hid
        simp [step, hj, h.markers, h.now]
      · simp [step, hid, hj, Ne.symm hid]

theorem Mirrors.dump (h : Mirrors j window captureStacks s) :
    (s.step .dump).1 = (j.step window captureStacks .dump).1 ∧
      Mirrors (j.step window captureStacks .dump).2 window captureStacks (s.step .dump).2 := by
  have hb : s.tracer.markers.HostOnly := h.markers ▸ h.host
  have hr := Recorder.snapshot_host h.layout hb s.now
  have hlast : s.tracer.recorder.entries = j.entries.drop (j.before window) := by
    rw [entries_eq_drop h.layout h.count h.entries, h.capacity]
    rfl
  constructor
  · simp only [TimedTracer.step, Tracer.snapshot, hr]
    simp only [step, shown, before_pollLast, drop_pollLast, hlast, h.markers, h.now]
  · have hstep : (s.step .dump).2 = { s with tracer := { s.tracer with
        recorder := { s.tracer.recorder with
          slots := s.tracer.recorder.slots.map (·.polledBy s.tracer.markers s.now) } } } := by
      simp only [TimedTracer.step, Tracer.snapshot, hr]
    rw [hstep]
    refine { h with layout := ?_, count := ?_, entries := ?_ }
    · refine h.layout.congr rfl rfl rfl ?_
      rw [List.map_map]
      rfl
    · exact h.count.trans (length_pollLast window j).symm
    · intro e' he'
      obtain ⟨e, he, rfl⟩ := List.mem_map.mp he'
      have hj := h.entries e he
      have hrecent := h.layout.id_recent e he
      rw [h.count, h.capacity] at hrecent
      have hplace : e.id = j.before window + (e.id - j.before window) := by
        simp only [before]
        omega
      simp only [step, Entry.polledBy_id]
      rw [hplace, ← List.getElem?_drop, drop_pollLast, List.getElem?_map, List.getElem?_drop,
        ← hplace, hj, h.markers, h.now]
      rfl

theorem Mirrors.step (h : Mirrors j window captureStacks s) (hpos : 1 ≤ window)
    (event : TracerEvent) :
    (s.step event).1 = (j.step window captureStacks event).1 ∧
      Mirrors (j.step window captureStacks event).2 window captureStacks (s.step event).2 := by
  cases event with
  | record op => exact h.record hpos op
  | retire id w => exact h.retire id w
  | dump => exact h.dump
  | setRanks group ranks =>
    refine ⟨rfl, ?_⟩
    simp only [TimedTracer.step, Tracer.setRanks, Recorder.setRanks]
    split
    · exact { h with layout := h.layout.congr rfl rfl rfl rfl }
    · exact h
  | addProgress => exact ⟨rfl, { h with }⟩
  | setProgress => exact ⟨rfl, { h with }⟩
  | addMarker =>
    have hm : (s.tracer.markers.add (.host none)).2 = (j.markers.add (.host none)).2 := by
      rw [h.markers]
    exact ⟨rfl, { h with markers := hm, host := h.host.add }⟩
  | fire id =>
    have hm : s.tracer.markers.fire id s.clock.monotonic = j.markers.fire id j.clock.monotonic := by
      rw [h.markers, h.clock]
    exact ⟨rfl, { h with markers := hm, host := h.host.fire id _ }⟩
  | setStack addresses => exact ⟨rfl, { h with stack := rfl }⟩
  | advance d => exact ⟨rfl, { h with clock := by simp only [TimedTracer.step, h.clock]; rfl }⟩
  | setWall ns => exact ⟨rfl, { h with clock := by simp only [TimedTracer.step, h.clock]; rfl }⟩

theorem Mirrors.answers (h : Mirrors j window captureStacks s) (hpos : 1 ≤ window)
    (events : List TracerEvent) :
    s.answers events = j.answers window captureStacks events := by
  induction events generalizing j s with
  | nil => rfl
  | cons event rest ih =>
    obtain ⟨hanswer, hnext⟩ := h.step hpos event
    simp only [TimedTracer.answers, Journal.answers, hanswer, ih hnext]

def Numbered (j : Journal) : Prop := j.entries.map Entry.id = List.range j.entries.length

theorem Numbered.step (h : j.Numbered) (window : Nat) (captureStacks : Bool)
    (event : TracerEvent) : (j.step window captureStacks event).2.Numbered := by
  unfold Numbered at h ⊢
  cases event with
  | record op =>
    simp only [Journal.step, List.map_append, List.map_cons, List.map_nil, h, List.length_append,
      List.length_cons, List.length_nil, List.range_succ]
    rfl
  | retire id w =>
    cases id with
    | none => exact h
    | some id =>
      simp only [Journal.step, List.length_modify]
      rw [← h]
      apply List.ext_getElem?
      intro i
      simp only [List.getElem?_map, List.getElem?_modify]
      cases j.entries[i]? with
      | none => rfl
      | some e => by_cases hi : id = i <;> simp [hi]
  | dump =>
    simp only [Journal.step, length_pollLast]
    rw [← h, pollLast, List.map_append, List.map_map]
    exact (List.map_append ..).symm.trans (congrArg _ (List.take_append_drop _ _))
  | setRanks => exact h
  | addProgress => exact h
  | setProgress => exact h
  | addMarker => exact h
  | fire => exact h
  | setStack => exact h
  | advance => exact h
  | setWall => exact h

theorem Numbered.ids_shown (h : j.Numbered) (window : Nat) :
    (j.shown window).map Entry.id = List.range' (j.entries.length - min j.entries.length window)
      (min j.entries.length window) := by
  have hids : (j.shown window).map Entry.id = (j.entries.drop (j.before window)).map Entry.id := by
    rw [shown, List.map_map]
    rfl
  rw [hids, List.map_drop, h, List.range_eq_range', List.drop_range']
  simp only [before]
  congr 1 <;> omega

theorem length_step (window : Nat) (captureStacks : Bool) (j : Journal) (event : TracerEvent) :
    (j.step window captureStacks event).2.entries.length =
      j.entries.length + if event.isRecord then 1 else 0 := by
  cases event with
  | record op => simp [step, TracerEvent.isRecord]
  | retire id w => cases id <;> simp [step, TracerEvent.isRecord]
  | dump => simp [step, TracerEvent.isRecord, length_pollLast]
  | _ => rfl

theorem recordedIds (window : Nat) (captureStacks : Bool) (j : Journal)
    (events : List TracerEvent) :
    (j.answers window captureStacks events).filterMap TracerAnswer.recordedId? =
      (List.range' j.entries.length (events.countP TracerEvent.isRecord)).map some := by
  induction events generalizing j with
  | nil => rfl
  | cons event rest ih =>
    have hlen := length_step window captureStacks j event
    rw [answers, List.countP_cons, List.filterMap_cons, ih]
    cases event with
    | record op =>
      simp only [TracerEvent.isRecord, ↓reduceIte] at hlen ⊢
      rw [hlen, List.range'_succ]
      rfl
    | retire id w => cases id <;> simp_all [TracerEvent.isRecord, TracerAnswer.recordedId?, step]
    | _ => simp_all [TracerEvent.isRecord, TracerAnswer.recordedId?, step]

/-- Every dump shows the last ids given before it. -/
theorem Numbered.dump_answer (h : j.Numbered) (window : Nat) (captureStacks : Bool)
    {events : List TracerEvent} {k : Nat} (hk : events[k]? = some .dump) :
    let n := j.entries.length + (events.take k).countP TracerEvent.isRecord
    ∃ shown, (j.answers window captureStacks events)[k]? = some (.dumped (.answered shown)) ∧
      shown.map Entry.id = List.range' (n - min n window) (min n window) := by
  induction events generalizing j k with
  | nil => cases hk
  | cons event rest ih =>
    cases k with
    | zero =>
      cases hk
      have hlen := length_pollLast window j
      have hids := (h.step window captureStacks .dump).ids_shown window
      simp only [Journal.step, hlen] at hids
      exact ⟨_, rfl, by simpa using hids⟩
    | succ k =>
      have hlen := length_step window captureStacks j event
      obtain ⟨shown, hget, hids⟩ := ih (h.step window captureStacks event) (by simpa using hk)
      refine ⟨shown, by simpa [answers] using hget, ?_⟩
      rw [hlen] at hids
      rw [List.take_succ_cons, List.countP_cons, hids]
      congr 2 <;> omega

theorem getElem?_pollLast (window : Nat) (j : Journal) (i : Nat) :
    (j.pollLast window).entries[i]? =
      if j.entries.length ≤ i + window then j.entries[i]?.map (·.polledBy j.markers j.now)
      else j.entries[i]? := by
  by_cases hi : j.entries.length ≤ i + window
  · have hplace : i = j.before window + (i - j.before window) := by
      simp only [before]
      omega
    rw [if_pos hi, hplace, ← List.getElem?_drop, drop_pollLast, List.getElem?_map,
      List.getElem?_drop]
  · have hlt : i < j.before window := by
      simp only [before]
      omega
    have hlt' : i < (j.entries.take (j.before window)).length := by
      simp only [List.length_take, before] at hlt ⊢
      omega
    rw [if_neg hi, pollLast, List.getElem?_append_left hlt', List.getElem?_take_of_lt hlt]

/-- Two journals that differ at most in entries before the window. -/
structure AgreeWithin (window : Nat) (j j' : Journal) : Prop where
  length : j'.entries.length = j.entries.length
  recent : ∀ i, j.entries.length ≤ i + window → j'.entries[i]? = j.entries[i]?
  markers : j'.markers = j.markers
  stack : j'.stack = j.stack
  clock : j'.clock = j.clock

/-- An entry before the window never enters it again, however a wider window polls it. -/
theorem AgreeWithin.step {wider : Nat} {j' : Journal} (h : AgreeWithin window j j')
    (hle : window ≤ wider) (captureStacks : Bool) (event : TracerEvent) :
    AgreeWithin window (j.step window captureStacks event).2
      (j'.step wider captureStacks event).2 := by
  have hnow : j'.now = j.now := by rw [now, now, h.clock]
  cases event with
  | record op =>
    refine { h with length := by simp [Journal.step, h.length], recent := ?_ }
    intro i hi
    simp only [Journal.step, List.length_append, List.length_cons, List.length_nil] at hi ⊢
    rw [List.getElem?_append, List.getElem?_append, h.length, h.recent i (by omega), hnow, h.stack]
  | retire id w =>
    cases id with
    | none => exact h
    | some id =>
      refine { h with length := by simp [Journal.step, h.length], recent := ?_ }
      intro i hi
      simp only [Journal.step, List.length_modify] at hi
      simp only [Journal.step, List.getElem?_modify, h.recent i hi, h.markers, hnow]
  | dump =>
    refine { h with length := ?_, recent := ?_ }
    · simp only [Journal.step, length_pollLast, h.length]
    · intro i hi
      simp only [Journal.step, length_pollLast] at hi
      simp only [Journal.step, getElem?_pollLast, h.length, h.recent i hi, h.markers, hnow]
      rw [if_pos hi, if_pos (by omega)]
  | addMarker =>
    exact { h with markers := by simp only [Journal.step, h.markers] }
  | fire id =>
    exact { h with markers := by simp only [Journal.step, h.markers, h.clock] }
  | setStack addresses => exact { h with stack := rfl }
  | advance d => exact { h with clock := by simp only [Journal.step, h.clock] }
  | setWall ns => exact { h with clock := by simp only [Journal.step, h.clock] }
  | setRanks => exact h
  | addProgress => exact h
  | setProgress => exact h

theorem AgreeWithin.shown_suffix {wider : Nat} {j' : Journal} (h : AgreeWithin window j j')
    (hle : window ≤ wider) : j.shown window <:+ j'.shown wider := by
  have hdrop : j.entries.drop (j.before window) = j'.entries.drop (j'.before window) := by
    apply List.ext_getElem?
    intro i
    rw [List.getElem?_drop, List.getElem?_drop, ← h.recent _ (by simp only [before]; omega),
      before, before, h.length]
  have hbefore : j'.before window = j'.before wider + (j'.before window - j'.before wider) := by
    simp only [before]
    omega
  rw [shown, shown, hdrop, hbefore, ← List.drop_drop, List.map_drop]
  exact List.drop_suffix _ _

theorem dump_suffix {wider : Nat} {j' : Journal} (h : AgreeWithin window j j')
    (hle : window ≤ wider) {events : List TracerEvent} {k : Nat} (hk : events[k]? = some .dump)
    {shown : List Entry}
    (hs : (j.answers window captureStacks events)[k]? = some (.dumped (.answered shown))) :
    ∃ more, (j'.answers wider captureStacks events)[k]? = some (.dumped (.answered more)) ∧
      shown <:+ more := by
  induction events generalizing j j' k with
  | nil => cases hk
  | cons event rest ih =>
    have hnext := h.step hle captureStacks event
    cases k with
    | zero =>
      cases hk
      cases hs
      exact ⟨_, rfl, hnext.shown_suffix hle⟩
    | succ k =>
      obtain ⟨more, hget, hsuffix⟩ :=
        ih hnext (by simpa using hk) (by simpa [answers] using hs)
      exact ⟨more, by simpa [answers] using hget, hsuffix⟩

end Journal

/-- A recorder answers as the journal whose window is its capacity. Ids are consecutive, every dump
shows the last of them in order, and a wider recorder shows the same entries behind older ones. -/
theorem ring_answers_as_journal (capacity : Nat) (hpos : 1 ≤ capacity) (captureStacks : Bool)
    (clock : Clock) (events : List TracerEvent) :
    let ring := (TimedTracer.start capacity captureStacks clock).answers events
    ring = Journal.answers capacity captureStacks { clock } events ∧
    ring.filterMap TracerAnswer.recordedId? =
      (List.range (events.countP TracerEvent.isRecord)).map some ∧
    ∀ k, events[k]? = some .dump →
      let n := (events.take k).countP TracerEvent.isRecord
      ∃ shown, ring[k]? = some (.dumped (.answered shown)) ∧
        shown.map Entry.id = List.range' (n - min n capacity) (min n capacity) ∧
        ∀ wider, capacity ≤ wider → ∃ more,
          ((TimedTracer.start wider captureStacks clock).answers events)[k]? =
            some (.dumped (.answered more)) ∧ shown <:+ more := by
  have refines (window : Nat) (hw : 1 ≤ window) :
      (TimedTracer.start window captureStacks clock).answers events =
        Journal.answers window captureStacks { clock } events :=
    (Journal.mirrors_start window captureStacks clock).answers hw events
  intro ring
  have hring : ring = Journal.answers capacity captureStacks { clock } events :=
    refines capacity hpos
  refine ⟨hring, ?_, ?_⟩
  · rw [hring, Journal.recordedIds, List.range_eq_range']
    rfl
  · intro k hk
    have hnumbered : Journal.Numbered { clock } := rfl
    obtain ⟨shown, hget, hids⟩ := hnumbered.dump_answer capacity captureStacks hk
    refine ⟨shown, by rw [hring]; exact hget, by simpa using hids, ?_⟩
    intro wider hle
    rw [refines wider (by omega)]
    exact Journal.dump_suffix ⟨rfl, fun _ _ => rfl, rfl, rfl, rfl⟩ hle hk hget

/-- An operation is timed, and retired after two more were recorded. -/
def lateRetirement : List TracerEvent :=
  let send : Issued := { group := ⟨"0", "default"⟩, status := ⟨0⟩, name := "send" }
  let receive : Issued := { send with
    groupId := 7, name := "recv", pointToPoint := true, inputs := [⟨[2, 3], "Float"⟩] }
  [.addMarker, .addMarker, .record { send with start := some ⟨0⟩, stop := some ⟨1⟩ }, .fire ⟨0⟩,
    .advance ⟨5000000⟩, .fire ⟨1⟩, .record send, .record receive, .retire (some 0) true, .dump]

/-- A ring of two slots, in which the first entry is overwritten before it is retired. The dump has
the other two, with the fields they were recorded with. -/
theorem lateRetirement_dump :
    1 ≤ 2 ∧ lateRetirement[9]? = some .dump ∧
    ∃ shown, ((TimedTracer.start 2 false ⟨0, 0⟩).answers lateRetirement)[9]? =
        some (.dumped (.answered shown)) ∧ shown.map Entry.id = [1, 2] ∧
      shown.map Entry.name = ["send", "recv"] ∧ shown.map Entry.groupId = [0, 7] ∧
      shown.map Entry.pointToPoint = [false, true] ∧
      shown.map Entry.inputSizes = [[], [[2, 3]]] ∧
      shown.map Entry.created = [5000000, 5000000] ∧ shown.map Entry.retired = [false, false] := by
  obtain ⟨hring, _, hdump⟩ := ring_answers_as_journal 2 (by decide) false ⟨0, 0⟩ lateRetirement
  obtain ⟨shown, hget, hids, _⟩ := hdump 9 rfl
  refine ⟨by decide, rfl, shown, hget, hids, ?_⟩
  have hjournal : (Journal.answers 2 false { clock := ⟨0, 0⟩ } lateRetirement)[9]? = _ := rfl
  rw [hring, hjournal] at hget
  cases hget
  decide

end RankTrace
