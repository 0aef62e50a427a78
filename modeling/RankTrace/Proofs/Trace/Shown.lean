import RankTrace.Proofs.Trace.HostRun
import RankTrace.Proofs.Trace.Threads

/-!
# What a poll shows

Two entries that were polled at different times differ in their stamps. What a dump shows of an
entry, without the values of the stamps, is a function of the entry and of the fired markers. It
does not depend on earlier polls, and every later change of the entry depends on it alone.
-/

namespace RankTrace

namespace MarkerBank

def FiresIn (b b' : MarkerBank) : Prop := ∀ id, b.hasFired id = true → b'.hasFired id = true

variable {b : MarkerBank}

theorem firesIn_refl (b : MarkerBank) : b.FiresIn b := fun _ h => h

theorem hasFired_add (b : MarkerBank) : (b.add (.host none)).2.hasFired = b.hasFired := by
  funext id
  simp only [hasFired, get?, add]
  rcases Nat.lt_trichotomy id.val b.markers.length with h | h | h
  · rw [List.getElem?_append_left h]
  · simp [h]
  · rw [List.getElem?_eq_none (by simp; omega), List.getElem?_eq_none (by omega)]

theorem firesIn_add (b : MarkerBank) : b.FiresIn (b.add (.host none)).2 :=
  fun id hid => (congrFun b.hasFired_add id).trans hid

theorem firesIn_fire (b : MarkerBank) (id : MarkerId) (now : Nat) : b.FiresIn (b.fire id now) := by
  intro m hm
  unfold fire
  split
  · next hhost =>
    by_cases hid : id = m
    · subst hid
      simp [hasFired, hhost] at hm
    · have hne : id.val ≠ m.val := fun h => hid (by cases id; cases m; simp_all)
      simpa [hasFired, get?, MarkerBank.set, List.getElem?_set_ne hne] using hm
  · exact hm

theorem HostOnly.dropRecordings (h : b.HostOnly) : b.dropRecordings = b := by
  have hsame : b.dropRecordings.markers = b.markers.map id := by
    refine List.map_congr_left fun m hm => ?_
    obtain ⟨firedAt, rfl⟩ := h m hm
    rfl
  rw [List.map_id] at hsame
  exact congrArg MarkerBank.mk hsame

end MarkerBank

namespace Entry

variable {b b' : MarkerBank} {e : Entry}

/-- An entry without the values of its stamps. Whether they are there stays. -/
def hideTimes (e : Entry) : Entry :=
  { e with
    started := e.started.map fun _ => 0
    completed := e.completed.map fun _ => 0 }

/-- What a dump would show of an entry, the values of the stamps apart. -/
def shown (b : MarkerBank) (e : Entry) : Entry := (e.polledBy b 0).hideTimes

theorem stampBy_map (b : MarkerBank) (now now' : Int64) (known : Option Int64)
    (marker : Option MarkerId) :
    (stampBy b now known marker).map (fun _ => (0 : Int64)) =
      (stampBy b now' known marker).map fun _ => 0 := by
  cases known with
  | some t => rfl
  | none =>
    cases marker with
    | none => rfl
    | some m => cases h : b.hasFired m <;> simp [stampBy, h]

theorem polledBy_congr (h : b.hasFired = b'.hasFired) (now : Int64) (e : Entry) :
    e.polledBy b now = e.polledBy b' now := by
  simp only [polledBy, stampBy, h]

theorem polledBy_polledBy (b : MarkerBank) (now now' : Int64) (e : Entry) :
    (e.polledBy b now).polledBy b now' = e.polledBy b now := by
  have hstamp (known : Option Int64) (marker : Option MarkerId) :
      stampBy b now' (stampBy b now known marker) marker = stampBy b now known marker := by
    cases known with
    | some t => rfl
    | none =>
      cases marker with
      | none => rfl
      | some m => cases h : b.hasFired m <;> simp [stampBy, h]
  simp only [polledBy, hstamp]

theorem hideTimes_polledBy (b : MarkerBank) (now : Int64) (e : Entry) :
    (e.polledBy b now).hideTimes = e.shown b := by
  simp only [hideTimes, shown, polledBy, stampBy_map b now 0]

theorem stampBy_map_stampBy (h : b.FiresIn b') (now : Int64) (known : Option Int64)
    (marker : Option MarkerId) :
    stampBy b' now ((stampBy b now known marker).map fun _ => now) marker =
      (stampBy b' now known marker).map fun _ => now := by
  cases known with
  | some t => rfl
  | none =>
    cases marker with
    | none => rfl
    | some m =>
      cases hm : b.hasFired m with
      | true => simp [stampBy, hm, h m hm]
      | false => cases hm' : b'.hasFired m <;> simp [stampBy, hm, hm']

theorem shown_shown (h : b.FiresIn b') (e : Entry) : (e.shown b).shown b' = e.shown b' := by
  simp only [shown, hideTimes, polledBy, stampBy_map_stampBy h, Option.map_map, Function.comp_def]

@[simp] theorem shown_id (b : MarkerBank) (e : Entry) : (e.shown b).id = e.id := rfl

theorem shown_polledBy (b : MarkerBank) (now : Int64) (e : Entry) :
    (e.polledBy b now).shown b = e.shown b := by
  rw [← hideTimes_polledBy b now e, ← hideTimes_polledBy b now (e.polledBy b now),
    polledBy_polledBy]

theorem claimed_polledBy (b : MarkerBank) (now : Int64) (w : Bool) (e : Entry) :
    (e.polledBy b now).claimed w = (e.shown b).claimed w := by
  have hcompleted : (e.polledBy b now).completed.isSome = (e.shown b).completed.isSome := by
    rw [← hideTimes_polledBy b now e, hideTimes, Option.isSome_map]
  simp only [claimed, hcompleted]
  rfl

theorem shown_close (b : MarkerBank) (now : Int64) (e : Entry) :
    (e.polledBy b now).close.shown b = (e.shown b).close := by
  rw [← hideTimes_polledBy b now e]
  simp [shown, polledBy, hideTimes, close, clearMarkers, stampBy]

/-- The retired entry is a function of what is shown of it. -/
theorem shown_retiredBy (b : MarkerBank) (now : Int64) (w : Bool) (e : Entry) :
    (e.retiredBy b now w).shown b = ((e.shown b).retiredBy b now w).shown b := by
  have hduration (e : Entry) : (e.polledBy b now).durationBy b w = (e.shown b).durationBy b w := by
    rw [durationBy, claimed_polledBy]
    rfl
  have hretired (e : Entry) : (e.retiredBy b now w).shown b =
      { (e.shown b).close with duration := (e.shown b).durationBy b w } := by
    rw [← hduration, ← shown_close b now]
    rfl
  rw [hretired, hretired, shown_shown b.firesIn_refl]

theorem hideTimes_clearMarkers (e : Entry) : e.clearMarkers.hideTimes = e.hideTimes.clearMarkers :=
  rfl

end Entry

namespace Recorder

variable {b b' : MarkerBank} {r : Recorder}

def shown (b : MarkerBank) (r : Recorder) : Recorder := { r with slots := r.slots.map (·.shown b) }

def polledBy (b : MarkerBank) (now : Int64) (r : Recorder) : Recorder :=
  { r with slots := r.slots.map (·.polledBy b now) }

theorem Layout.map (h : Layout r) {f : Entry → Entry} (hid : ∀ e, (f e).id = e.id) :
    Layout { r with slots := r.slots.map f } :=
  h.congr rfl rfl rfl (by simp [Function.comp_def, hid])

theorem shown_shown (h : b.FiresIn b') (r : Recorder) : (r.shown b).shown b' = r.shown b' := by
  simp only [shown, List.map_map, Function.comp_def, Entry.shown_shown h]

theorem shown_polledBy (b : MarkerBank) (now : Int64) (r : Recorder) :
    (r.polledBy b now).shown b = r.shown b := by
  simp only [shown, polledBy, List.map_map, Function.comp_def, Entry.shown_polledBy]

theorem shown_push (b : MarkerBank) (r : Recorder) (e : Entry) :
    (r.push e).shown b = (r.shown b).push (e.shown b) := by
  unfold push shown
  rw [List.length_map]
  split
  · simp
  · simp [List.map_set]

theorem shown_record (b : MarkerBank) (m : Moment) (op : Issued) (r : Recorder) :
    (r.record m op).1 = ((r.shown b).record m op).1 ∧
      (r.record m op).2.shown b = ((r.shown b).record m op).2.shown b := by
  by_cases hpos : 0 < r.capacity
  · have hpos' : 0 < (r.shown b).capacity := hpos
    have hpush : ((r.shown b).push ((r.shown b).nextEntry m op)).shown b =
        (r.push (r.nextEntry m op)).shown b := by
      rw [shown_push, shown_push, shown_shown b.firesIn_refl]
      rfl
    let count (r' : Recorder) : Recorder :=
      { r' with statuses := r.statuses.setNew op.groupId op.status, nextId := r.nextId + 1 }
    rw [record_eq hpos, record_eq hpos']
    exact ⟨rfl, congrArg count hpush.symm⟩
  · have hzero : r.capacity = 0 := by omega
    rw [record_disabled hzero, record_disabled (show (r.shown b).capacity = 0 from hzero)]
    exact ⟨rfl, (shown_shown b.firesIn_refl r).symm⟩

/-- Retiring depends only on what is shown of the entries. -/
theorem shown_retire (h : Layout r) (hb : b.HostOnly) (m : Moment) (id : Option Nat) (w : Bool) :
    ∃ outcome r', r.retire MarkerBank.device m id w b = (.answered outcome, r', b) ∧ Layout r' ∧
      r'.shown b = ((r.shown b).retire MarkerBank.device m id w b).2.1.shown b := by
  cases id with
  | none => exact ⟨.ignored, r, rfl, h, (shown_shown b.firesIn_refl r).symm⟩
  | some id =>
    have hshown : Layout (r.shown b) := h.map (Entry.shown_id b)
    obtain ⟨outcome, hr⟩ := retire_host h hb m id w
    obtain ⟨outcome', hr'⟩ := retire_host hshown hb m id w
    refine ⟨outcome, _, hr, h.map ?_, ?_⟩
    · intro e
      split <;> rfl
    · rw [hr']
      simp only [shown, List.map_map]
      refine congrArg (fun slots => { r with slots }) (List.map_congr_left fun e _ => ?_)
      have hsame : (e.shown b).id = e.id := e.shown_id b
      rw [Function.comp_apply, Function.comp_apply, Function.comp_apply]
      by_cases hid : e.id = id
      · rw [if_pos hid, if_pos (hsame.trans hid)]
        exact Entry.shown_retiredBy b m.now w e
      · rw [if_neg hid, if_neg (hid ∘ hsame.symm.trans)]
        exact (Entry.shown_shown b.firesIn_refl e).symm

theorem slot_shown (b : MarkerBank) (r : Recorder) (id : Nat) :
    (r.shown b).slot? id = (r.slot? id).map (·.shown b) := by
  simp only [slot?, shown, List.getElem?_map]
  cases r.slots[id % r.capacity]? with
  | none => rfl
  | some e => exact (apply_ite (Option.map (·.shown b)) (e.id = id) (some e) none).symm

theorem shown_setSlot (b : MarkerBank) (r : Recorder) (id : Nat) (e : Entry) :
    (r.setSlot id e).shown b = (r.shown b).setSlot id (e.shown b) := by
  simp only [setSlot, shown, List.map_set]

theorem slot_cases {r' : Recorder} (h : r.shown b = r'.shown b) (id : Nat) :
    (r.slot? id = none ∧ r'.slot? id = none) ∨
    ∃ e e', r.slot? id = some e ∧ r'.slot? id = some e' ∧ e.shown b = e'.shown b := by
  have hslot : (r.slot? id).map (·.shown b) = (r'.slot? id).map (·.shown b) := by
    rw [← slot_shown, ← slot_shown, h]
  cases hs : r.slot? id with
  | none =>
    rw [hs] at hslot
    exact .inl ⟨rfl, Option.map_eq_none_iff.mp hslot.symm⟩
  | some e =>
    rw [hs] at hslot
    obtain ⟨e', hs', hshown⟩ := Option.map_eq_some_iff.mp hslot.symm
    exact .inr ⟨e, e', rfl, hs', hshown.symm⟩

/-- The answer of a snapshot, without the values of the stamps. -/
theorem hideTimes_snapshot (b : MarkerBank) (now : Int64) (r : Recorder) :
    (((r.polledBy b now).entries.map Entry.clearMarkers).map Entry.hideTimes) =
      (r.shown b).entries.map Entry.clearMarkers := by
  rw [polledBy, shown, entries_map, entries_map]
  simp only [List.map_map, Function.comp_def, Entry.hideTimes_clearMarkers,
    Entry.hideTimes_polledBy]

end Recorder

namespace SharedRecorder

/-- Two recorders that threads share, with one bank of markers. The same is shown of both. -/
structure Matches (b : MarkerBank) (x x' : SharedRecorder MarkerBank) : Prop where
  device : x.device = b
  device' : x'.device = b
  layout : x.recorder.Layout
  layout' : x'.recorder.Layout
  shown : x.recorder.shown b = x'.recorder.shown b
  retiring : x.retiring = x'.retiring

variable {b : MarkerBank} {x x' : SharedRecorder MarkerBank}

theorem Matches.claim (h : Matches b x x') (hb : b.HostOnly) (now : Int64) (id : Option Nat)
    (w : Bool) :
    Matches b (x.claim MarkerBank.device now id w) (x'.claim MarkerBank.device now id w) := by
  cases id with
  | none => exact h
  | some id =>
    have hcapacity : x.recorder.capacity = x'.recorder.capacity := congrArg (·.capacity) h.shown
    have henabled : x.recorder.isEnabled = x'.recorder.isEnabled := by
      rw [Recorder.isEnabled, Recorder.isEnabled, hcapacity]
    unfold SharedRecorder.claim
    dsimp only
    rw [henabled, h.device, h.device']
    cases x'.recorder.isEnabled with
    | false => exact h
    | true =>
      rcases Recorder.slot_cases h.shown id with ⟨hs, hs'⟩ | ⟨e, e', hs, hs', hshown⟩
      · have hskipped (r : Recorder) (hnone : r.slot? id = none) :
            r.claim MarkerBank.device now id w b = (.skipped, r, b) := by
          simp only [Recorder.claim, hnone]
        rw [hskipped _ hs, hskipped _ hs']
        exact ⟨rfl, rfl, h.layout, h.layout', h.shown, h.retiring⟩
      · rw [Recorder.claim_host hs hb, Recorder.claim_host hs' hb, Entry.claimed_polledBy,
          Entry.claimed_polledBy, hshown]
        have hlayout := h.layout.setSlot hs
          (show (e.polledBy b now).close.id = id from (Recorder.mem_of_slot hs).2)
        have hlayout' := h.layout'.setSlot hs'
          (show (e'.polledBy b now).close.id = id from (Recorder.mem_of_slot hs').2)
        have hclosed : (x.recorder.setSlot id (e.polledBy b now).close).shown b =
            (x'.recorder.setSlot id (e'.polledBy b now).close).shown b := by
          rw [Recorder.shown_setSlot, Recorder.shown_setSlot, Entry.shown_close,
            Entry.shown_close, hshown, h.shown]
        rcases (e'.shown b).claimed_cases w with hdone | ⟨start, stop, htaken, _⟩
        · rw [hdone]
          exact ⟨rfl, rfl, hlayout, hlayout', hclosed, h.retiring⟩
        · rw [htaken]
          let taken : Retiring := ⟨id, .claimed start stop⟩
          have hadded : x.retiring ++ [taken] = x'.retiring ++ [taken] := by rw [h.retiring]
          exact ⟨rfl, rfl, hlayout, hlayout', hclosed, hadded⟩

theorem Matches.probe (h : Matches b x x') (hb : b.HostOnly) (k : Nat) :
    Matches b (x.probe MarkerBank.device k) (x'.probe MarkerBank.device k) := by
  unfold SharedRecorder.probe
  rw [h.retiring, h.device, h.device']
  split
  · next id start stop _ =>
    obtain ⟨result, hprobe⟩ := hb.probe start stop
    rw [hprobe]
    exact ⟨rfl, rfl, h.layout, h.layout', h.shown, rfl⟩
  · exact h

theorem Matches.commit (h : Matches b x x') (k : Nat) :
    Matches b (x.commit k) (x'.commit k) := by
  unfold SharedRecorder.commit
  rw [h.retiring]
  split
  · next id reply _ =>
    split
    · next duration _ =>
      have hlayout := h.layout.commit id duration
      have hlayout' := h.layout'.commit id duration
      refine ⟨h.device, h.device', hlayout, hlayout', ?_, rfl⟩
      show (x.recorder.commit id duration).2.shown b = (x'.recorder.commit id duration).2.shown b
      rcases Recorder.slot_cases h.shown id with ⟨hs, hs'⟩ | ⟨e, e', hs, hs', hshown⟩
      · simp only [Recorder.commit, hs, hs', h.shown]
      · have hset (e : Entry) : ({ e with duration := some duration } : Entry).shown b =
            { e.shown b with duration := some duration } := rfl
        simp only [Recorder.commit, hs, hs', Recorder.shown_setSlot, hset, hshown, h.shown]
    · exact ⟨h.device, h.device', h.layout, h.layout', h.shown, rfl⟩
  · exact h

end SharedRecorder

end RankTrace
