import RankTrace.Proofs.Trace.Recorded
import Mathlib.Data.List.Forall2

/-!
# Marker calls that unwind

A call of a marker may unwind out of a snapshot or out of either half of a retirement, and the
recorder stays in use. The invariants of the ring, its ids, its cursor and its bounds, hold in every
state that this leaves. A snapshot that unwinds has stamped some entries. A retirement that unwinds
has changed its own entry only, which is open as before, or closed without a duration.
-/

namespace RankTrace

variable {δ : Type} {dev : Device δ} {now : Int64} {d : δ}

namespace Entry

/-- Timestamps apart, the entry is as it was: not retired, and with its markers. -/
structure LeftOpen (now : Int64) (e e' : Entry) : Prop where
  observed : Observed now e e'
  retired : e'.retired = false
  start : e'.start = e.start
  stop : e'.stop = e.stop
  marked : e.start.isSome = true ∨ e.stop.isSome = true

/-- The entry is retired, its markers are gone, and it has no duration. -/
structure LeftClosed (e : Entry) : Prop where
  retired : e.retired = true
  start : e.start = none
  stop : e.stop = none
  duration : e.duration = none

variable {e e' : Entry}

theorem marked_of_observe_unwound (h : (e.observe dev now d).1 = .unwound) :
    e.start.isSome = true ∨ e.stop.isSome = true := by
  cases hstart : e.start with
  | some m => exact .inl rfl
  | none =>
    cases hstop : e.stop with
    | some m => exact .inr rfl
    | none =>
      rw [observe_of_no_markers dev d hstart hstop] at h
      cases h

theorem Settled.leftOpen (h : Settled e) (hu : (e.observe dev now d).1 = .unwound) :
    LeftOpen now e (e.observe dev now d).2.1 := by
  have hobs := observe_observed dev now e d
  have hmarked := marked_of_observe_unwound hu
  have hretired : e.retired = false := by
    cases hr : e.retired with
    | false => rfl
    | true =>
      obtain ⟨hstart, hstop⟩ := h.markers hr
      simp [hstart, hstop] at hmarked
  refine ⟨hobs, ?_, ?_, ?_, hmarked⟩
  · rw [hobs.same]
    exact hretired
  · rw [hobs.same]
  · rw [hobs.same]

/-- An entry whose markers are taken has no duration. -/
theorem Settled.leftClosed (h : Settled e) (hobs : Observed now e e')
    (hstart : e'.start.isSome = true) : LeftClosed e'.close where
  retired := rfl
  start := rfl
  stop := rfl
  duration := by
    cases hd : e'.duration with
    | none => exact hd
    | some duration =>
      have hsettled := hobs.settled h
      have hretired := (hsettled.duration (by rw [hd]; rfl)).1
      rw [(hsettled.markers hretired).1] at hstart
      cases hstart

end Entry

namespace Recorder

variable {r : Recorder} {id : Nat} {w : Bool} {m : Moment}

/-- Every index is in range: the slot overwritten when all are taken, the slot of a retired entry,
and the position where a snapshot is joined. No remainder is by zero. -/
structure InBounds (r : Recorder) : Prop where
  divisor : r.capacity ≠ 0
  overwritten : ¬ r.slots.length < r.capacity → r.nextSlot < r.slots.length
  retired : ∀ id e, r.slot? id = some e → id % r.capacity < r.slots.length
  split : r.nextSlot ≤ r.slots.length

theorem Layout.inBounds (h : Layout r) (hpos : 0 < r.capacity) : r.InBounds := by
  have hlen := h.length_slots
  have hcursor := h.cursor
  have hmod := Nat.mod_lt r.nextId hpos
  constructor
  case divisor => omega
  case overwritten =>
    intro hfull
    split at hcursor <;> omega
  case retired =>
    intro id e hs
    obtain ⟨hm, rfl⟩ := mem_of_slot hs
    obtain ⟨k, hk⟩ := List.getElem?_of_mem hm
    rw [h.id_mod k e hk]
    exact (List.getElem?_eq_some_iff.mp hk).1
  case split =>
    split at hcursor <;> omega

theorem Layout.nextSlot_eq (h : Layout r) :
    r.nextSlot = if r.nextId ≤ r.capacity then 0 else r.nextId % r.capacity := by
  rw [h.cursor]
  by_cases heq : r.nextId = r.capacity
  · simp [heq]
  · exact if_congr (by omega) rfl rfl

theorem observed_observeAll (dev : Device δ) (now : Int64) (es : List Entry) (d : δ) :
    List.Forall₂ (Entry.Observed now) es (observeAll dev now es d).2.1 := by
  have unseen (es : List Entry) : List.Forall₂ (Entry.Observed now) es es :=
    List.forall₂_same.mpr fun e _ => .refl now e
  induction es generalizing d with
  | nil => exact .nil
  | cons e rest ih =>
    have hobs := Entry.observe_observed dev now e d
    rcases ho : e.observe dev now d with ⟨reply, e', d'⟩
    rw [ho] at hobs
    cases reply with
    | answered a =>
      simp only [observeAll, ho]
      exact .cons hobs (ih d')
    | unwound =>
      simp only [observeAll, ho]
      exact .cons hobs (unseen rest)

theorem observed_snapshot (dev : Device δ) (now : Int64) (r : Recorder) (d : δ) :
    ∃ slots, List.Forall₂ (Entry.Observed now) r.slots slots ∧
      (r.snapshot dev now d).2.1 = { r with slots := slots } := by
  rcases snapshot_recorder dev now r d with heq | heq
  · exact ⟨r.slots, List.forall₂_same.mpr fun e _ => .refl now e, heq⟩
  · exact ⟨_, observed_observeAll dev now r.slots d, heq⟩

/-- A retirement that unwinds under the lock has polled its entry and changed nothing else. -/
theorem claim_unwound (h : (r.claim dev now id w d).1 = .unwound) :
    ∃ e, r.slot? id = some e ∧ (e.observe dev now d).1 = .unwound ∧
      (r.claim dev now id w d).2.1 = r.setSlot id (e.observe dev now d).2.1 := by
  unfold claim at h ⊢
  cases hs : r.slot? id with
  | none =>
    rw [hs] at h
    cases h
  | some e =>
    refine ⟨e, rfl, ?_⟩
    rw [hs] at h
    dsimp only at h ⊢
    rcases ho : e.observe dev now d with ⟨reply, e', d'⟩
    rw [ho] at h
    cases reply with
    | unwound => exact ⟨rfl, rfl⟩
    | answered a =>
      have hc : e'.claimed w = .unwound := h
      rcases e'.claimed_cases w with hdone | ⟨_, _, hmarkers, _⟩
      · rw [hdone] at hc
        cases hc
      · rw [hmarkers] at hc
        cases hc

theorem mem_recordAll (h : r.Layout) (m : Moment) (ops : List Issued) {e : Entry}
    (he : e ∈ (r.recordAll m ops).slots) : e ∈ r.slots ∨ r.nextId ≤ e.id := by
  induction ops generalizing r with
  | nil => exact .inl he
  | cons op rest ih =>
    have hrest := ih (h.record m op) he
    by_cases hpos : 0 < r.capacity
    · rw [record_nextId hpos] at hrest
      rcases hrest with hold | hnew
      · rcases h.mem_record hpos hold with rfl | hold
        · exact .inr (Nat.le_refl _)
        · exact .inl hold
      · exact .inr (by omega)
    · rwa [record_disabled (by omega)] at hrest

theorem closed_of_markers (hr : r.Layout) (hsettled : r.AllSettled) {start stop : MarkerId}
    {r' : Recorder} {d' : δ} (h : r.claim dev now id w d = (.markers start stop, r', d')) :
    r'.Layout ∧ r'.nextId = r.nextId ∧ ∀ e' ∈ r'.slots, e'.id ≠ id ∧ e' ∈ r.slots ∨
      e'.id = id ∧ ∃ e ∈ r.slots, e.Later e' ∧ (e.LeftOpen now e' ∨ e'.LeftClosed) := by
  have hlayout := hr.claim dev now id w d
  rw [h] at hlayout
  rcases claim_cases dev now id w r d with ⟨_, heq⟩ | ⟨e, x, d'', hs, hobs, heq | heq⟩
  · rw [heq] at h
    cases h
  · rw [heq] at h
    cases h
  obtain ⟨hmem, hid⟩ := mem_of_slot hs
  have hstart : x.start.isSome = true := by
    have htaken : x.claimed w = .markers start stop := by
      rw [heq] at h
      exact (Prod.mk.inj h).1
    rcases x.claimed_cases w with hdone | ⟨_, _, _, hstart, _⟩
    · rw [hdone] at htaken
      cases htaken
    · rw [hstart]
      rfl
  obtain rfl : r' = r.setSlot id x.close := by
    rw [heq] at h
    exact (Prod.mk.inj (Prod.mk.inj h).2).1.symm
  refine ⟨hlayout, rfl, ?_⟩
  intro e' he'
  rcases hr.mem_setSlot hs he' with rfl | ⟨hold, hne⟩
  · exact .inr ⟨hobs.id_eq.trans hid, e, hmem, (hobs.later (hsettled e hmem)).close,
      .inr ((hsettled e hmem).leftClosed hobs hstart)⟩
  · exact .inl ⟨hne, hold⟩

/-- A retirement in one piece that unwinds has recorded the operations of the device, and changed no
other entry but its own. -/
theorem retire_unwound (hr : r.Layout) (hsettled : r.AllSettled)
    (h : (r.retire dev m (some id) w d).1 = .unwound) {e' : Entry}
    (he' : e' ∈ (r.retire dev m (some id) w d).2.1.slots) :
    r.nextId ≤ e'.id ∨ e'.id ≠ id ∧ e' ∈ r.slots ∨
      e'.id = id ∧ ∃ e ∈ r.slots, e.Later e' ∧ (e.LeftOpen m.now e' ∨ e'.LeftClosed) := by
  unfold retire at h he'
  dsimp only at h he'
  split at h
  · cases h
  next henabled =>
  rw [if_neg henabled] at he'
  rcases hc : r.claim dev m.now id w d with ⟨claim, r', d'⟩
  rw [hc] at h he'
  cases claim with
  | skipped | done => cases h
  | unwound =>
    obtain ⟨e, hs, hu, heq⟩ := claim_unwound (r := r) (by rw [hc])
    rw [hc] at heq
    obtain ⟨hmem, hid⟩ := mem_of_slot hs
    have hopen := (hsettled e hmem).leftOpen hu
    rw [heq] at he'
    rcases hr.mem_setSlot hs he' with rfl | ⟨hold, hne⟩
    · exact .inr (.inr ⟨hopen.observed.id_eq.trans hid, e, hmem,
        hopen.observed.later (hsettled e hmem), .inl hopen⟩)
    · exact .inr (.inl ⟨hne, hold⟩)
  | markers start stop =>
    -- the device unwound, so its answer was not written down, but what it has recorded is there
    obtain ⟨hlayout, hnextId, hclosed⟩ := closed_of_markers hr hsettled hc
    have hmem : e' ∈ (r'.recordAll m (dev.probe start stop d').2.1).slots := by
      dsimp only at h he'
      rcases hp : dev.probe start stop d' with ⟨reply, issued, d''⟩
      rw [hp] at h he'
      rcases reply with (error | duration) | _
      case answered.error => cases h
      case answered.ok =>
        rcases hcommit : (r'.recordAll m issued).commit id duration with ⟨_ | _, r''⟩
        · simp [hcommit] at h
        · simp [hcommit] at h
      case unwound => exact he'
    rcases mem_recordAll hlayout m _ hmem with hold | hnew
    · exact .inr (hclosed e' hold)
    · exact .inl (hnextId ▸ hnew)

end Recorder

namespace RetiringNote

def recordedId? : RetiringNote → Option Nat
  | recorded id _ => some id
  | _ => none

end RetiringNote

namespace SharedRecorder

variable {s : SharedRecorder δ}

def issuedIds (s : SharedRecorder δ) : List Nat :=
  (s.history.filterMap RetiringNote.recordedId?).reverse

theorem issuedIds_record (hpos : 0 < s.recorder.capacity) (m : Recorder.Moment) (op : Issued) :
    (s.record m op).issuedIds = s.issuedIds ++ [s.recorder.nextId] := by
  rw [issuedIds, record_history, if_pos hpos]
  simp [issuedIds, RetiringNote.recordedId?]

theorem issuedIds_step (dev : Device δ) {event : ThreadEvent δ} (h : s.recorded? event = none) :
    (s.step dev event).issuedIds = s.issuedIds ∧
      (s.step dev event).recorder.nextId = s.recorder.nextId := by
  cases event with
  | record m op => cases h
  | snapshot now =>
    refine ⟨rfl, ?_⟩
    rcases Recorder.snapshot_recorder dev now s.recorder s.device with he | he <;> simp [step, he]
  | setRanks group ranks =>
    refine ⟨rfl, ?_⟩
    simp only [step, Recorder.setRanks]
    split <;> rfl
  | claim now id w =>
    refine ⟨?_, ?_⟩
    · rw [step, issuedIds, claim_history, issuedIds]
    · rcases claim_eq_or dev s now id w with hsame | ⟨i, hrecorder, _⟩
      · rw [step, hsame]
      · rw [step, hrecorder]
        rcases Recorder.claim_cases dev now i w s.recorder s.device with
          ⟨_, he⟩ | ⟨_, _, _, _, _, he | he⟩ <;> rw [he] <;> rfl
  | probe k =>
    simp only [step, probe]
    split
    · exact ⟨rfl, rfl⟩
    · exact ⟨rfl, rfl⟩
  | recordMeanwhile k m =>
    simp only [step, recordMeanwhile]
    split
    · next hk => simp [recorded?, hk] at h
    · exact ⟨rfl, rfl⟩
  | commit k =>
    simp only [step, commit]
    split
    · split
      · exact ⟨rfl, Recorder.commit_nextId ..⟩
      · exact ⟨rfl, rfl⟩
    · exact ⟨rfl, rfl⟩
  | moveDevice d => exact ⟨rfl, rfl⟩

theorem issuedIds_eq (dev : Device δ) {capacity : Nat} (hpos : 0 < capacity) (captureStacks : Bool)
    (d : δ) (events : List (ThreadEvent δ)) :
    let s := (start capacity captureStacks d).run dev events
    s.recorder.capacity = capacity ∧ s.issuedIds = List.range s.recorder.nextId := by
  refine run_induction
    (P := fun s => s.recorder.capacity = capacity ∧ s.issuedIds = List.range s.recorder.nextId)
    ?_ ⟨rfl, rfl⟩ events
  rintro s event ⟨hcapacity, hids⟩
  refine ⟨(step_capacity dev s event).trans hcapacity, ?_⟩
  cases hrecorded : s.recorded? event with
  | none =>
    obtain ⟨hsame, hnext⟩ := issuedIds_step dev hrecorded
    rw [hsame, hnext, hids]
  | some row =>
    obtain ⟨m, op⟩ := row
    obtain ⟨retiring, heq⟩ := step_of_recorded dev hrecorded
    have hcap : 0 < s.recorder.capacity := hcapacity ▸ hpos
    rw [heq, issuedIds_record (s := { s with retiring := retiring }) hcap, record_recorder,
      Recorder.record_nextId hcap, List.range_succ, ← hids]
    rfl

/-- A retirement that unwinds under the lock leaves its entry open. -/
theorem Lived.claim_unwound (h : s.Lived) (dev : Device δ) {now : Int64} {id : Nat} {w : Bool}
    (hu : (s.recorder.claim dev now id w s.device).1 = .unwound) :
    ∃ e ∈ s.recorder.slots, ∃ e', e.id = id ∧ e.LeftOpen now e' ∧
      (s.recorder.claim dev now id w s.device).2.1 = { s.recorder with
        slots := s.recorder.slots.map fun x => if x.id = id then e' else x } := by
  obtain ⟨e, hs, hobserve, heq⟩ := Recorder.claim_unwound hu
  obtain ⟨hmem, hid⟩ := Recorder.mem_of_slot hs
  refine ⟨e, hmem, _, hid, (h.settled e hmem).leftOpen hobserve, ?_⟩
  rw [heq, ← h.consistent.layout.slots_setSlot hs]
  rfl

/-- While the device is asked and after that, the entry is closed without a duration. -/
theorem Lived.leftClosed (h : s.Lived) {t : Retiring} {reply : Reply (Except ProbeError Single)}
    {meanwhile : List Issued} (ht : t ∈ s.retiring) (hstage : t.stage = .asked reply meanwhile)
    {e : Entry} (he : e ∈ s.recorder.slots) (hid : e.id = t.id) : e.LeftClosed := by
  rcases h.pending t ht with hfinished | ⟨_, hover⟩
  · rw [hstage] at hfinished
    cases hfinished
  · have hretired := (hover e he hid).1
    obtain ⟨hstart, hstop⟩ := (h.settled e he).markers hretired
    exact ⟨hretired, hstart, hstop, h.consistent.unmeasured ht hstage he hid⟩

theorem claim_recorder (dev : Device δ) (hpos : 0 < s.recorder.capacity) (now : Int64) (id : Nat)
    (w : Bool) : (s.claim dev now (some id) w).recorder =
      (s.recorder.claim dev now id w s.device).2.1 := by
  have henabled : s.recorder.isEnabled = true := decide_eq_true hpos
  rcases hc : s.recorder.claim dev now id w s.device with ⟨claimed, r, d⟩
  cases claimed <;> simp [claim, henabled, hc]

theorem probe_recorder (dev : Device δ) (s : SharedRecorder δ) (k : Nat) :
    (s.probe dev k).recorder = s.recorder := by
  unfold probe
  split <;> rfl

theorem commit_recorder_unwound {k id : Nat} {meanwhile : List Issued}
    (hk : s.retiring[k]? = some ⟨id, .asked .unwound meanwhile⟩) :
    (s.commit k).recorder = s.recorder := by
  cases meanwhile <;> simp [commit, hk]

/-- For any threads, with calls that unwind anywhere. Ids are consecutive, and the ring holds the
last of them, each in the slot of its remainder; the cursor is at the first slot until an entry is
overwritten, and at the oldest one from then on; every access is in bounds. A retirement that
unwinds under the lock leaves its entry open, one that unwinds while the device is asked leaves it
closed without a duration, and neither touches another entry. In one piece, what the device recorded
meanwhile stays recorded. A snapshot stamps entries and changes nothing else, also when it
unwinds. -/
theorem ring_sound_under_unwinding (dev : Device δ) (capacity : Nat) (hpos : 1 ≤ capacity)
    (captureStacks : Bool) (d : δ) (events : List (ThreadEvent δ)) :
    let s := (start capacity captureStacks d).run dev events
    let r := s.recorder
    let n := r.nextId
    r.capacity = capacity ∧ s.issuedIds = List.range n ∧
    (∀ i e, r.slots[i]? = some e → e.id % capacity = i) ∧
    r.slots.length = min n capacity ∧
    r.entries.map Entry.id = s.issuedIds.drop (n - min n capacity) ∧
    r.nextSlot = (if n ≤ capacity then 0 else n % capacity) ∧
    r.InBounds ∧
    (∀ now id w, (r.claim dev now id w s.device).1 = .unwound →
      ∃ e ∈ r.slots, ∃ e', e.id = id ∧ e.LeftOpen now e' ∧
        (s.step dev (.claim now (some id) w)).recorder = { r with
          slots := r.slots.map fun x => if x.id = id then e' else x }) ∧
    (∀ k, (s.step dev (.probe k)).recorder = r) ∧
    (∀ k id meanwhile, s.retiring[k]? = some ⟨id, .asked .unwound meanwhile⟩ →
      (s.step dev (.commit k)).recorder = r ∧ ∀ e ∈ r.slots, e.id = id → e.LeftClosed) ∧
    (∀ m id w, (r.retire dev m (some id) w s.device).1 = .unwound →
      let r' := (r.retire dev m (some id) w s.device).2.1
      (∃ more, (s.run dev more).recorder = r') ∧
      ∀ e' ∈ r'.slots, n ≤ e'.id ∨ e'.id ≠ id ∧ e' ∈ r.slots ∨
        e'.id = id ∧ ∃ e ∈ r.slots, e.Later e' ∧ (e.LeftOpen m.now e' ∨ e'.LeftClosed)) ∧
    ∀ now, ∃ slots, List.Forall₂ (Entry.Observed now) r.slots slots ∧
      (s.step dev (.snapshot now)).recorder = { r with slots := slots } := by
  intro s r n
  have h : s.Lived := ((lived_start capacity captureStacks d).run dev events).1
  have hlayout : r.Layout := h.consistent.layout
  obtain ⟨hcapacity, hids⟩ := issuedIds_eq dev hpos captureStacks d events
  have hcapacity : r.capacity = capacity := hcapacity
  have hids : s.issuedIds = List.range n := hids
  have henabled : 0 < r.capacity := hcapacity ▸ hpos
  refine ⟨hcapacity, hids, ?_, ?_, ?_, ?_, hlayout.inBounds henabled, ?_,
    s.probe_recorder dev, ?_, ?_, fun now => Recorder.observed_snapshot dev now r s.device⟩
  · intro i e he
    rw [← hcapacity]
    exact hlayout.id_mod i e he
  · rw [← hcapacity]
    exact hlayout.length_slots
  · rw [hids, hlayout.ids_entries, hcapacity, List.range_eq_range', List.drop_range']
    congr 1 <;> omega
  · rw [hlayout.nextSlot_eq, hcapacity]
  · intro now id w hu
    obtain ⟨e, hmem, e', hid, hopen, heq⟩ := h.claim_unwound dev hu
    exact ⟨e, hmem, e', hid, hopen, (claim_recorder dev henabled now id w).trans heq⟩
  · intro k id meanwhile hk
    refine ⟨commit_recorder_unwound hk, fun e he hid => ?_⟩
    exact h.leftClosed (List.mem_of_getElem? hk) rfl he hid
  · intro m id w hu
    refine ⟨?_, fun e' he' => Recorder.retire_unwound hlayout h.settled hu he'⟩
    obtain ⟨count, hrun, _⟩ := s.run_undisturbed dev m (some id) w
    exact ⟨_, hrun⟩

end SharedRecorder

/-- The first marker has fired. The others unwind while the device is broken. Otherwise they have
fired, and the elapsed time records an operation and unwinds. -/
def unwindingDevice : Device Bool where
  query m broken :=
    if m.val ≠ 0 && broken then (.unwound, broken) else (.answered true, broken)
  elapsed _ _ broken :=
    (.unwound, [{ group := ⟨"0", "default"⟩, status := ⟨0⟩, name := "recv" }], broken)

/-- An operation is retired on a broken device, which is then repaired. -/
def cutOffOperation : List (ThreadEvent Bool) :=
  let op : Issued := { group := ⟨"0", "default"⟩, status := ⟨0⟩, name := "send" }
  [.record ⟨1, []⟩ { op with start := some ⟨0⟩, stop := some ⟨1⟩ }, .claim 2 (some 0) true,
    .moveDevice false]

/-- The first retirement unwinds under the lock and leaves the entry open. The second one unwinds
while the device is asked and leaves it closed, beside the operation recorded meanwhile. -/
theorem cutOffOperation_sound :
    let before := (SharedRecorder.start 2 false true).run unwindingDevice (cutOffOperation.take 1)
    let after := (SharedRecorder.start 2 false true).run unwindingDevice cutOffOperation
    let second := after.recorder.retire unwindingDevice ⟨3, []⟩ (some 0) true after.device
    1 ≤ 2 ∧ (before.recorder.claim unwindingDevice 2 0 true before.device).1 = .unwound ∧
    (∃ e ∈ before.recorder.slots, ∃ e', e.id = 0 ∧ e.LeftOpen 2 e') ∧
    second.1 = .unwound ∧ second.2.1.slots.map Entry.id = [0, 1] ∧
    ∀ e ∈ second.2.1.slots, e.id = 0 → e.LeftClosed := by
  intro before after second
  have hfirst : (before.recorder.claim unwindingDevice 2 0 true before.device).1 = .unwound := rfl
  have hsecond : second.1 = .unwound := rfl
  obtain ⟨_, _, _, _, _, _, _, hopen, _⟩ := SharedRecorder.ring_sound_under_unwinding
    unwindingDevice 2 (by decide) false true (cutOffOperation.take 1)
  obtain ⟨_, _, _, _, _, _, _, _, _, _, hretired, _⟩ :=
    SharedRecorder.ring_sound_under_unwinding unwindingDevice 2 (by decide) false true
      cutOffOperation
  obtain ⟨e, he, e', hid, hleft, _⟩ := hopen 2 0 true hfirst
  refine ⟨by decide, hfirst, ⟨e, he, e', hid, hleft⟩, hsecond, rfl, ?_⟩
  intro e he hzero
  have hfields : second.2.1.slots.map (fun e => (e.id, e.retired)) = [(0, true), (1, false)] := rfl
  have hmem : (e.id, e.retired) ∈ [(0, true), (1, false)] := by
    rw [← hfields]
    exact List.mem_map_of_mem he
  have htrue : e.retired = true := by simpa [hzero] using hmem
  rcases (hretired ⟨3, []⟩ 0 true hsecond).2 e he with hnew | ⟨hne, _⟩ | ⟨_, _, _, _, hcut | hcut⟩
  · have hone : 1 ≤ e.id := hnew
    omega
  · exact absurd hzero hne
  · rw [hcut.retired] at htrue
    cases htrue
  · exact hcut

end RankTrace
