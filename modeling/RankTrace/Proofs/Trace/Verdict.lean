import Mathlib.Data.List.Induction
import Mathlib.Data.List.TakeWhile
import RankTrace.Proofs.Trace.HostSteps

/-!
# What a dump says of an operation

The cut-off of an entry is its first retirement, or now if there was none. Until then the entry
keeps the markers of its operation, and what is stamped has fired. At the cut-off it is polled for
the last time and its markers are taken, so nothing about it changes afterwards.
-/

namespace RankTrace

namespace MarkerBank

variable {b : MarkerBank}

/-- The time between two host markers is answered once both have fired. -/
theorem HostOnly.measured_isSome (h : b.HostOnly) (start stop : MarkerId) :
    (b.measured? start stop).isSome = (b.hasFired start && b.hasFired stop) := by
  unfold measured? Device.probe
  rw [h.query]
  cases hstop : b.hasFired stop with
  | false => simp
  | true =>
    obtain ⟨stopped, hz⟩ : ∃ t, b.get? stop = some (.host (some t)) := by
      unfold hasFired at hstop
      split at hstop
      · next t ht => exact ⟨t, ht⟩
      · cases hstop
    cases hm : b.get? start with
    | none => simp [device, MarkerBank.elapsed, hasFired, hm]
    | some m =>
      obtain ⟨firedAt, rfl⟩ := h.get hm
      cases firedAt <;> simp [device, MarkerBank.elapsed, hostElapsed, hasFired, hm, hz]

end MarkerBank

namespace TracerEvent

def retirement? (id : Nat) : TracerEvent → Option Bool
  | retire (some other) withDuration => if other = id then some withDuration else none
  | _ => none

/-- What happens before an entry is retired for the first time. -/
def untilRetired (id : Nat) (events : List TracerEvent) : List TracerEvent :=
  events.takeWhile fun event => (event.retirement? id).isNone

def firstRetirement? (id : Nat) (events : List TracerEvent) : Option Bool :=
  events.findSome? (retirement? id)

variable {id : Nat} {events : List TracerEvent} {event : TracerEvent} {w : Bool}

theorem firstRetirement_snoc (id : Nat) (events : List TracerEvent) (event : TracerEvent) :
    firstRetirement? id (events ++ [event]) =
      (firstRetirement? id events).or (event.retirement? id) := by
  simp [firstRetirement?, List.findSome?_append]

theorem untilRetired_eq_self_iff :
    untilRetired id events = events ↔ firstRetirement? id events = none := by
  rw [untilRetired, firstRetirement?, List.takeWhile_eq_self_iff, List.findSome?_eq_none_iff]
  simp only [Option.isNone_iff_eq_none]

/-- Only the first retirement counts. -/
theorem untilRetired_snoc_of_some (h : firstRetirement? id events = some w) (event : TracerEvent) :
    untilRetired id (events ++ [event]) = untilRetired id events := by
  rw [untilRetired, List.takeWhile_append, if_neg]
  · rfl
  · intro hlength
    have hself := (List.takeWhile_prefix _).eq_of_length hlength
    rw [untilRetired_eq_self_iff.mp hself] at h
    cases h

theorem untilRetired_snoc_of_retires (h : firstRetirement? id events = none)
    (hevent : event.retirement? id = some w) :
    untilRetired id (events ++ [event]) = events := by
  have hself := untilRetired_eq_self_iff.mpr h
  unfold untilRetired at hself ⊢
  rw [List.takeWhile_append, if_pos (congrArg List.length hself)]
  simp [hevent]

end TracerEvent

/-- The duration of an operation that is retired now. -/
def Issued.timedBy (b : MarkerBank) (withDuration : Bool) (op : Issued) : Option Single :=
  if withDuration then op.start.bind fun start => op.stop.bind fun stop => b.measured? start stop
  else none

theorem Issued.timedBy_isSome_iff {b : MarkerBank} (hb : b.HostOnly) (w : Bool) (op : Issued) :
    (op.timedBy b w).isSome = true ↔
      w = true ∧ op.start.any b.hasFired = true ∧ op.stop.any b.hasFired = true := by
  unfold timedBy
  cases w with
  | false => simp
  | true =>
    cases op.start with
    | none => simp
    | some start =>
      cases op.stop with
      | none => simp
      | some stop => simp [hb.measured_isSome]

/-- The duration is the answer of the probe. -/
theorem Issued.probe_of_timedBy {b : MarkerBank} {w : Bool} {op : Issued} {duration : Single}
    (h : op.timedBy b w = some duration) :
    ∃ start stop, op.start = some start ∧ op.stop = some stop ∧
      (MarkerBank.device.probe start stop b).1 = .answered (.ok duration) := by
  unfold timedBy at h
  split at h
  · obtain ⟨start, hstart, h⟩ := Option.bind_eq_some_iff.mp h
    obtain ⟨stop, hstop, h⟩ := Option.bind_eq_some_iff.mp h
    refine ⟨start, stop, hstart, hstop, ?_⟩
    unfold MarkerBank.measured? at h
    split at h
    · next hprobe =>
      cases h
      exact hprobe
    · cases h
  · cases h

namespace Entry

variable {b b' : MarkerBank} {op : Issued} {e : Entry} {event : TracerEvent} {w : Bool}

theorem state_eq_completed_iff (e : Entry) : e.state = .completed ↔ e.completed.isSome = true := by
  unfold state
  cases e.completed.isSome <;> cases e.started.isSome <;> simp

theorem state_eq_started_iff (e : Entry) :
    e.state = .started ↔ ¬ e.completed.isSome = true ∧ e.started.isSome = true := by
  unfold state
  cases e.completed.isSome <;> cases e.started.isSome <;> simp

theorem state_eq_scheduled_iff (e : Entry) :
    e.state = .scheduled ↔ ¬ e.completed.isSome = true ∧ ¬ e.started.isSome = true := by
  unfold state
  cases e.completed.isSome <;> cases e.started.isSome <;> simp

theorem stampBy_isSome (b : MarkerBank) (now : Int64) (known : Option Int64)
    (marker : Option MarkerId) :
    (stampBy b now known marker).isSome = (known.isSome || marker.any b.hasFired) := by
  cases known with
  | some t => rfl
  | none =>
    cases marker with
    | none => rfl
    | some m => cases h : b.hasFired m <;> simp [stampBy, h]

structure Undecided (op : Issued) (b : MarkerBank) (e : Entry) : Prop where
  start : e.start = op.start
  stop : e.stop = op.stop
  started : e.started.isSome = true → op.start.any b.hasFired = true
  completed : e.completed.isSome = true → op.stop.any b.hasFired = true
  duration : e.duration = none

structure Decided (op : Issued) (b : MarkerBank) (withDuration : Bool) (e : Entry) : Prop where
  start : e.start = none
  stop : e.stop = none
  started : e.started.isSome = op.start.any b.hasFired
  completed : e.completed.isSome = op.stop.any b.hasFired
  duration : e.duration = op.timedBy b withDuration

theorem undecided_ofIssued (id : Nat) (now : Int64) (stack : Option (List UInt64)) (op : Issued)
    (b : MarkerBank) : Undecided op b (ofIssued id now stack op) where
  start := rfl
  stop := rfl
  started := nofun
  completed := nofun
  duration := rfl

namespace Undecided

theorem mono (h : Undecided op b e) (hfires : b.FiresIn b') : Undecided op b' e := by
  have later {marker : Option MarkerId} (hm : marker.any b.hasFired = true) :
      marker.any b'.hasFired = true := by
    cases marker with
    | none => cases hm
    | some m => exact hfires m hm
  exact { h with started := later ∘ h.started, completed := later ∘ h.completed }

theorem polled (h : Undecided op b e) (now : Int64) :
    (e.polledBy b now).started.isSome = op.start.any b.hasFired ∧
      (e.polledBy b now).completed.isSome = op.stop.any b.hasFired := by
  have hstamped {known fired : Bool} (hk : known = true → fired = true) :
      (known || fired) = fired := by
    cases known with
    | false => rfl
    | true => exact (hk rfl).symm
  constructor
  · rw [polledBy, stampBy_isSome, h.start]
    exact hstamped h.started
  · rw [polledBy, stampBy_isSome, h.stop]
    exact hstamped h.completed

theorem poll (h : Undecided op b e) (now : Int64) : Undecided op b (e.polledBy b now) :=
  { h with
    started := fun hs => (h.polled now).1 ▸ hs
    completed := fun hs => (h.polled now).2 ▸ hs }

/-- At the cut-off the entry is polled, and measured iff both markers have fired. -/
theorem retire (h : Undecided op b e) (hb : b.HostOnly) (now : Int64) (w : Bool) :
    Decided op b w (e.retiredBy b now w) where
  start := rfl
  stop := rfl
  started := (h.polled now).1
  completed := (h.polled now).2
  duration := by
    show (e.polledBy b now).durationBy b w = op.timedBy b w
    have hstart : (e.polledBy b now).start = op.start := h.start
    have hstop : (e.polledBy b now).stop = op.stop := h.stop
    have hnone : (e.polledBy b now).duration = none := h.duration
    have hcompleted := (h.polled now).2
    rw [durationBy, claimed, hstart, hstop, hnone, Issued.timedBy]
    cases hs : op.start with
    | none => cases w <;> rfl
    | some start =>
      cases hz : op.stop with
      | none => cases w <;> rfl
      | some stop =>
        rw [hz, Option.any_some] at hcompleted
        cases w with
        | false => rfl
        | true =>
          cases hfired : b.hasFired stop with
          | true => simp [hcompleted, hfired]
          | false =>
            have hmeasured := hb.measured_isSome start stop
            rw [hfired, Bool.and_false, Option.isSome_eq_false_iff, Option.isNone_iff_eq_none]
              at hmeasured
            simp [hcompleted, hfired, hmeasured]

end Undecided

namespace Decided

theorem polled (h : Decided op b w e) (b' : MarkerBank) (now : Int64) : e.polledBy b' now = e := by
  have hstamp (known : Option Int64) : stampBy b' now known none = known := by
    cases known <;> rfl
  have hstarted : stampBy b' now e.started e.start = e.started := by rw [h.start, hstamp]
  have hcompleted : stampBy b' now e.completed e.stop = e.completed := by rw [h.stop, hstamp]
  rw [polledBy, hstarted, hcompleted]

theorem retire (h : Decided op b w e) (b' : MarkerBank) (now : Int64) (again : Bool) :
    Decided op b w (e.retiredBy b' now again) := by
  have hclaimed : e.claimed again = .done := by
    rw [claimed, h.start]
  have hduration : e.durationBy b' again = e.duration := by
    rw [durationBy, hclaimed]
  rw [retiredBy, h.polled, hduration]
  exact ⟨rfl, rfl, h.started, h.completed, h.duration⟩

end Decided

theorem Decided.applyTo (h : Decided op b w e) (b' : MarkerBank) (now : Int64)
    (event : TracerEvent) : Decided op b w (event.applyTo b' now e) := by
  unfold TracerEvent.applyTo
  split
  · split
    · exact h.retire b' now _
    · exact h
  · rw [h.polled]
    exact h
  · exact h

theorem Undecided.applyTo_of_retires (h : Undecided op b e) (hb : b.HostOnly) (now : Int64)
    (hevent : event.retirement? e.id = some w) : Decided op b w (event.applyTo b now e) := by
  unfold TracerEvent.retirement? at hevent
  split at hevent
  · next other withDuration =>
    by_cases hid : other = e.id
    · rw [if_pos hid] at hevent
      cases hevent
      rw [TracerEvent.applyTo, if_pos hid.symm]
      exact h.retire hb now w
    · rw [if_neg hid] at hevent
      cases hevent
  · cases hevent

theorem Undecided.applyTo_of_stays (h : Undecided op b e) (now : Int64)
    (hevent : event.retirement? e.id = none) : Undecided op b (event.applyTo b now e) := by
  unfold TracerEvent.applyTo
  split
  · next other withDuration =>
    by_cases hid : e.id = other
    · rw [TracerEvent.retirement?, if_pos hid.symm] at hevent
      cases hevent
    · rw [if_neg hid]
      exact h
  · exact h.poll now
  · exact h

/-- The entry of a dump by the fires at the cut-off: the state by the end marker and then by the
start marker, and a duration iff the retirement measures and both had fired, as the probe
answers. -/
structure Tells (op : Issued) (cut : MarkerBank) (retirement : Option Bool) (e : Entry) : Prop where
  completed : e.state = .completed ↔ op.stop.any cut.hasFired = true
  started : e.state = .started ↔
    ¬ op.stop.any cut.hasFired = true ∧ op.start.any cut.hasFired = true
  scheduled : e.state = .scheduled ↔
    ¬ op.stop.any cut.hasFired = true ∧ ¬ op.start.any cut.hasFired = true
  measured : e.duration.isSome = true ↔ retirement = some true ∧
    op.start.any cut.hasFired = true ∧ op.stop.any cut.hasFired = true
  probed : ∀ duration, e.duration = some duration → ∃ start stop,
    op.start = some start ∧ op.stop = some stop ∧
      (MarkerBank.device.probe start stop cut).1 = .answered (.ok duration)

theorem Tells.of_seen {cut : MarkerBank} {retirement : Option Bool} (hb : cut.HostOnly)
    (hstarted : e.started.isSome = op.start.any cut.hasFired)
    (hcompleted : e.completed.isSome = op.stop.any cut.hasFired)
    (hduration : e.duration = retirement.bind (op.timedBy cut)) : e.Tells op cut retirement where
  completed := by rw [state_eq_completed_iff, hcompleted]
  started := by rw [state_eq_started_iff, hcompleted, hstarted]
  scheduled := by rw [state_eq_scheduled_iff, hcompleted, hstarted]
  measured := by
    rw [hduration]
    cases retirement with
    | none => simp
    | some w => simp only [Option.bind_some, Issued.timedBy_isSome_iff hb, Option.some.injEq]
  probed := by
    intro duration hsome
    obtain ⟨w, _, htimed⟩ := Option.bind_eq_some_iff.mp (hduration.symm.trans hsome)
    exact Issued.probe_of_timedBy htimed

end Entry

namespace TimedTracer

open TracerEvent (untilRetired firstRetirement?)

/-- The fields that an entry has kept of its operation. -/
def Told (s₀ : TimedTracer) (events : List TracerEvent) (e : Entry) : Prop :=
  ∃ before op after, events = before ++ .record op :: after ∧
    before.countP TracerEvent.isRecord = e.id ∧
    let cut := (s₀.run (before ++ .record op :: untilRetired e.id after)).tracer.markers
    match firstRetirement? e.id after with
    | none => e.Undecided op cut
    | some withDuration => e.Decided op cut withDuration

structure Honest (s₀ : TimedTracer) (events : List TracerEvent) : Prop where
  layout : (s₀.run events).tracer.recorder.Layout
  host : (s₀.run events).tracer.markers.HostOnly
  capacity : (s₀.run events).tracer.recorder.capacity = s₀.tracer.recorder.capacity
  count : 0 < s₀.tracer.recorder.capacity →
    (s₀.run events).tracer.recorder.nextId = events.countP TracerEvent.isRecord
  entries : ∀ e ∈ (s₀.run events).tracer.recorder.slots, s₀.Told events e

variable {s₀ : TimedTracer} {events : List TracerEvent} {event : TracerEvent} {e : Entry}

theorem Told.applyTo (h : s₀.Told events e) (hb : (s₀.run events).tracer.markers.HostOnly)
    (hfires : (s₀.run events).tracer.markers.FiresIn
      (s₀.run (events ++ [event])).tracer.markers) (now : Int64) :
    s₀.Told (events ++ [event]) (event.applyTo (s₀.run events).tracer.markers now e) := by
  obtain ⟨before, op, after, rfl, hcount, htold⟩ := h
  refine ⟨before, op, after ++ [event], by simp, ?_, ?_⟩
  · rw [TracerEvent.applyTo_id]
    exact hcount
  rw [TracerEvent.applyTo_id, TracerEvent.firstRetirement_snoc]
  cases hfirst : firstRetirement? e.id after with
  | some w =>
    rw [hfirst] at htold
    rw [TracerEvent.untilRetired_snoc_of_some hfirst]
    exact htold.applyTo _ now event
  | none =>
    rw [hfirst, TracerEvent.untilRetired_eq_self_iff.mpr hfirst] at htold
    cases hevent : event.retirement? e.id with
    | some w =>
      rw [TracerEvent.untilRetired_snoc_of_retires hfirst hevent]
      exact htold.applyTo_of_retires hb now hevent
    | none =>
      have hnone : firstRetirement? e.id (after ++ [event]) = none := by
        rw [TracerEvent.firstRetirement_snoc, hfirst, hevent]
        rfl
      rw [TracerEvent.untilRetired_eq_self_iff.mpr hnone]
      rw [List.append_assoc, List.cons_append] at hfires
      exact (htold.applyTo_of_stays now hevent).mono hfires

theorem Honest.step (h : s₀.Honest events) (event : TracerEvent) :
    s₀.Honest (events ++ [event]) := by
  have hstep : Stepped (s₀.run events) (s₀.run (events ++ [event])) event := by
    rw [run_snoc]
    exact stepped h.layout h.host event
  constructor
  case layout => exact hstep.layout
  case host => exact hstep.host
  case capacity => exact hstep.capacity.trans h.capacity
  case count =>
    intro hpos
    rw [hstep.count (h.capacity ▸ hpos), h.count hpos, List.countP_append, List.countP_singleton]
  case entries =>
    intro e' he'
    rcases hstep.entries e' he' with ⟨op, rfl, hpos, rfl⟩ | ⟨e, he, rfl⟩
    · refine ⟨events, op, [], rfl, (h.count (h.capacity ▸ hpos)).symm, ?_⟩
      exact Entry.undecided_ofIssued _ _ _ op _
    · exact (h.entries e he).applyTo h.host hstep.fires _

theorem honest_run (capacity : Nat) (captureStacks : Bool) (clock : Clock)
    (events : List TracerEvent) : (start capacity captureStacks clock).Honest events := by
  induction events using List.reverseRecOn with
  | nil =>
    constructor
    case layout => exact Recorder.layout_new capacity captureStacks
    case host => exact fun m hm => by cases hm
    case capacity => rfl
    case count => exact fun _ => rfl
    case entries => exact fun e he => by cases he
  | append_singleton events event ih => exact ih.step event

/-- A dump shows the fires up to the cut-off. -/
theorem Told.dumped (h : s₀.Told events e)
    (hhost : ∀ events, (s₀.run events).tracer.markers.HostOnly) (now : Int64) :
    ∃ before op after, events = before ++ .record op :: after ∧
      before.countP TracerEvent.isRecord = e.id ∧
      (e.polledBy (s₀.run events).tracer.markers now).clearMarkers.Tells op
        (s₀.run (before ++ .record op :: untilRetired e.id after)).tracer.markers
        (firstRetirement? e.id after) := by
  obtain ⟨before, op, after, heq, hcount, htold⟩ := h
  refine ⟨before, op, after, heq, hcount, ?_⟩
  have hcut := hhost (before ++ .record op :: untilRetired e.id after)
  cases hfirst : firstRetirement? e.id after with
  | none =>
    rw [hfirst] at htold
    rw [TracerEvent.untilRetired_eq_self_iff.mpr hfirst, ← heq] at htold hcut ⊢
    exact .of_seen hcut (htold.polled now).1 (htold.polled now).2 htold.duration
  | some w =>
    rw [hfirst] at htold
    rw [htold.polled]
    exact .of_seen hcut htold.started htold.completed htold.duration

/-- Every entry of a dump was recorded once and has been in the ring since. Its cut-off is its first
retirement after that, or the dump, and the dump shows what had fired by the cut-off. -/
theorem dump_tells_fires (capacity : Nat) (captureStacks : Bool) (clock : Clock)
    (events : List TracerEvent) (k : Nat) (hk : events[k]? = some .dump) :
    let s₀ := start capacity captureStacks clock
    let history := events.take k
    ∃ shown, (s₀.answers events)[k]? = some (.dumped (.answered shown)) ∧
      ∀ e ∈ shown, ∃ before op after, history = before ++ .record op :: after ∧
        before.countP TracerEvent.isRecord = e.id ∧
        history.countP TracerEvent.isRecord ≤ e.id + capacity ∧
        e.Tells op (s₀.run (before ++ .record op :: untilRetired e.id after)).tracer.markers
          (firstRetirement? e.id after) := by
  intro s₀ history
  have hhonest (events : List TracerEvent) : s₀.Honest events :=
    honest_run capacity captureStacks clock events
  have hring := (hhonest history).layout
  have hanswer := getElem?_answers s₀ events k
  rw [hk, Option.map_some, step_dump hring (hhonest history).host] at hanswer
  refine ⟨_, hanswer, fun e he => ?_⟩
  obtain ⟨polled, hpolled, rfl⟩ := List.mem_map.mp he
  obtain ⟨x, hx, rfl⟩ := List.mem_map.mp hpolled
  have hslot : x ∈ (s₀.run history).tracer.recorder.slots := by
    rcases List.mem_append.mp hx with hx | hx
    · exact List.mem_of_mem_drop hx
    · exact List.mem_of_mem_take hx
  have hrecent : history.countP TracerEvent.isRecord ≤ x.id + capacity := by
    have hlt := hring.id_lt x hslot
    have hle := hring.id_recent x hslot
    rw [(hhonest history).capacity] at hle
    have hpos : 0 < s₀.tracer.recorder.capacity := by omega
    rw [(hhonest history).count hpos] at hle
    exact hle
  obtain ⟨before, op, after, heq, hcount, htells⟩ :=
    ((hhonest history).entries x hslot).dumped (fun events => (hhonest events).host)
      (s₀.run history).now
  exact ⟨before, op, after, heq, hcount, hrecent, htells⟩

end TimedTracer

/-- Two operations between the same markers. One of them is retired before the marker at the end
fires. -/
def earlyRetirement : List TracerEvent :=
  let op : Issued := { group := ⟨"0", "default"⟩, status := ⟨0⟩, name := "send",
                       start := some ⟨0⟩, stop := some ⟨1⟩ }
  [.addMarker, .addMarker, .record op, .record op, .fire ⟨0⟩, .retire (some 1) true,
    .advance ⟨5000000⟩, .fire ⟨1⟩, .retire (some 0) true, .dump]

/-- The first operation stays started, and only the second one has a duration. -/
theorem earlyRetirement_started :
    earlyRetirement[9]? = some .dump ∧
    ∃ shown, ((TimedTracer.start 4 false ⟨0, 0⟩).answers earlyRetirement)[9]? =
        some (.dumped (.answered shown)) ∧
      shown.map (fun e => (e.state, e.duration.isSome)) = [(.completed, true), (.started, false)] ∧
      ∀ e ∈ shown, e.duration.isSome = true → e.state = .completed := by
  obtain ⟨shown, hget, htells⟩ := TimedTracer.dump_tells_fires 4 false ⟨0, 0⟩ earlyRetirement 9 rfl
  refine ⟨rfl, shown, hget, ?_, fun e he hmeasured => ?_⟩
  · obtain ⟨computed, hcomputed, hstates⟩ : ∃ computed,
        ((TimedTracer.start 4 false ⟨0, 0⟩).answers earlyRetirement)[9]? =
          some (.dumped (.answered computed)) ∧
        computed.map (fun e => (e.state, e.duration.isSome)) =
          [(.completed, true), (.started, false)] := ⟨_, rfl, rfl⟩
    rw [hget] at hcomputed
    cases hcomputed
    exact hstates
  · obtain ⟨_, _, _, _, _, _, htold⟩ := htells e he
    exact htold.completed.mpr (htold.measured.mp hmeasured).2.2

end RankTrace
