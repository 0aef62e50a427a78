import RankTrace.Proofs.Trace.Retirement

/-!
# The life of an entry

What an entry may become while it is in the ring, for any number of threads and any device. Its
recorded fields are constant; a timestamp or a duration is kept once it is there; its state and the
mark of retirement only advance; retiring fixes it, apart from a duration that is still to be
committed. A marker may answer differently every time it is queried.
-/

namespace RankTrace

def EntryState.stage : EntryState → Nat
  | scheduled => 0
  | started => 1
  | completed => 2

namespace Entry

/-- What an entry may become while it is in the ring. -/
structure Later (e e' : Entry) : Prop where
  identity : e' = { e with
    start := e'.start, stop := e'.stop, started := e'.started, completed := e'.completed
    duration := e'.duration, retired := e'.retired }
  started : ∀ t, e.started = some t → e'.started = some t
  completed : ∀ t, e.completed = some t → e'.completed = some t
  duration : ∀ d, e.duration = some d → e'.duration = some d
  retired : e.retired = true → e'.retired = true
  frozen : e.retired = true → e'.start = none ∧ e'.stop = none ∧
    e'.started = e.started ∧ e'.completed = e.completed

structure Settled (e : Entry) : Prop where
  markers : e.retired = true → e.start = none ∧ e.stop = none
  duration : e.duration.isSome = true → e.retired = true ∧ e.completed.isSome = true

variable {e e' e'' : Entry} {now : Int64}

theorem Later.id_eq (h : Later e e') : e'.id = e.id := by
  rw [h.identity]

theorem Later.completed_isSome (h : Later e e') (hc : e.completed.isSome = true) :
    e'.completed.isSome = true := by
  obtain ⟨t, ht⟩ := Option.isSome_iff_exists.mp hc
  rw [h.completed t ht]
  rfl

theorem Later.started_isSome (h : Later e e') (hs : e.started.isSome = true) :
    e'.started.isSome = true := by
  obtain ⟨t, ht⟩ := Option.isSome_iff_exists.mp hs
  rw [h.started t ht]
  rfl

theorem Later.stage_le (h : Later e e') : e.state.stage ≤ e'.state.stage := by
  have hstarted := h.started_isSome
  have hcompleted := h.completed_isSome
  unfold state
  by_cases hc : e.completed.isSome = true
  · exact Nat.le_of_eq (by rw [if_pos hc, if_pos (hcompleted hc)])
  · by_cases hs : e.started.isSome = true
    · rw [if_neg hc, if_pos hs, if_pos (hstarted hs)]
      split
      · exact Nat.le_succ 1
      · exact Nat.le_refl 1
    · rw [if_neg hc, if_neg hs]
      exact Nat.zero_le _

theorem Settled.later_refl (h : Settled e) : Later e e where
  identity := rfl
  started := fun _ ht => ht
  completed := fun _ ht => ht
  duration := fun _ hd => hd
  retired := fun hr => hr
  frozen := fun hr => ⟨(h.markers hr).1, (h.markers hr).2, rfl, rfl⟩

theorem Later.trans (h : Later e e') (h' : Later e' e'') : Later e e'' where
  identity := by
    rw [h'.identity, h.identity]
  started := fun t ht => h'.started t (h.started t ht)
  completed := fun t ht => h'.completed t (h.completed t ht)
  duration := fun d hd => h'.duration d (h.duration d hd)
  retired := fun hr => h'.retired (h.retired hr)
  frozen := by
    intro hr
    obtain ⟨hstart, hstop, hstarted, hcompleted⟩ := h'.frozen (h.retired hr)
    obtain ⟨_, _, hstarted', hcompleted'⟩ := h.frozen hr
    exact ⟨hstart, hstop, hstarted.trans hstarted', hcompleted.trans hcompleted'⟩

theorem Stamped.keeps {known after : Option Int64} {marker : Option MarkerId}
    (h : Stamped now known marker after) : ∀ t, known = some t → after = some t := by
  intro t ht
  rcases h with heq | ⟨hnone, _⟩
  · rw [heq, ht]
  · rw [hnone] at ht
    cases ht

theorem Stamped.eq_of_no_marker {known after : Option Int64}
    (h : Stamped now known none after) : after = known := by
  rcases h with heq | ⟨_, hm, _⟩
  · exact heq
  · cases hm

theorem settled_ofIssued (id : Nat) (stack : Option (List UInt64)) (op : Issued) :
    Settled (ofIssued id now stack op) where
  markers := fun hr => by cases hr
  duration := fun hd => by cases hd

theorem Observed.later (hobs : Observed now e e') (h : Settled e) : Later e e' where
  identity := by
    rw [hobs.same]
  started := hobs.started.keeps
  completed := hobs.completed.keeps
  duration := fun d hd => by
    rw [hobs.same]
    exact hd
  retired := fun hr => by
    rw [hobs.same]
    exact hr
  frozen := by
    intro hr
    obtain ⟨hstart, hstop⟩ := h.markers hr
    have hstarted := hobs.started
    have hcompleted := hobs.completed
    rw [hstart] at hstarted
    rw [hstop] at hcompleted
    refine ⟨?_, ?_, hstarted.eq_of_no_marker, hcompleted.eq_of_no_marker⟩
    · rw [hobs.same]
      exact hstart
    · rw [hobs.same]
      exact hstop

theorem Observed.settled (hobs : Observed now e e') (h : Settled e) : Settled e' where
  markers := by
    intro hr
    rw [hobs.same] at hr ⊢
    exact h.markers hr
  duration := by
    intro hd
    have hcompleted := (hobs.later h).completed_isSome
    rw [hobs.same] at hd
    obtain ⟨hr, hc⟩ := h.duration hd
    exact ⟨(hobs.later h).retired hr, hcompleted hc⟩

theorem Later.close (h : Later e e') : Later e e'.close where
  identity := by
    rw [h.identity]
    rfl
  started := h.started
  completed := h.completed
  duration := h.duration
  retired := fun _ => rfl
  frozen := fun hr => ⟨rfl, rfl, (h.frozen hr).2.2⟩

theorem Settled.close (h : Settled e) : Settled e.close where
  markers := fun _ => ⟨rfl, rfl⟩
  duration := fun hd => ⟨rfl, (h.duration hd).2⟩

theorem Settled.measure (h : Settled e) (hr : e.retired = true) (hc : e.completed.isSome = true)
    (hnone : e.duration = none) (duration : Single) :
    Later e { e with duration := some duration } ∧
      Settled { e with duration := some duration } := by
  constructor
  · refine { h.later_refl with identity := rfl, duration := ?_ }
    intro d hd
    rw [hnone] at hd
    cases hd
  · exact { markers := h.markers, duration := fun _ => ⟨hr, hc⟩ }

theorem observe_of_no_markers {δ : Type} (dev : Device δ) (d : δ) (hstart : e.start = none)
    (hstop : e.stop = none) : e.observe dev now d = (.answered (), e, d) := by
  have unstamped (known : Option Int64) :
      stamp dev now known none d = (.answered known, d) := by
    cases known <;> rfl
  cases e
  simp_all only [observe]

end Entry

namespace Recorder

structure Ages (r r' : Recorder) : Prop where
  nextId_le : r.nextId ≤ r'.nextId
  entries : ∀ e' ∈ r'.slots, r.nextId ≤ e'.id ∨ ∃ e ∈ r.slots, e.Later e'

def AllSettled (r : Recorder) : Prop := ∀ e ∈ r.slots, e.Settled

variable {δ : Type} {r r' r'' : Recorder} {id : Nat} {e e' : Entry}

theorem AllSettled.ages_refl (h : r.AllSettled) : Ages r r where
  nextId_le := Nat.le_refl _
  entries := fun e he => .inr ⟨e, he, (h e he).later_refl⟩

theorem Ages.trans (h : Ages r r') (h' : Ages r' r'') : Ages r r'' where
  nextId_le := Nat.le_trans h.nextId_le h'.nextId_le
  entries := by
    intro e'' he''
    rcases h'.entries e'' he'' with hnew | ⟨e', he', hlater'⟩
    · exact .inl (Nat.le_trans h.nextId_le hnew)
    · rcases h.entries e' he' with hnew | ⟨e, he, hlater⟩
      · rw [← hlater'.id_eq] at hnew
        exact .inl hnew
      · exact .inr ⟨e, he, hlater.trans hlater'⟩

/-- An id belongs to one entry. -/
theorem Ages.later (h : Ages r r') (hr : r.Layout) (he : e ∈ r.slots) (he' : e' ∈ r'.slots)
    (hid : e'.id = e.id) : e.Later e' := by
  rcases h.entries e' he' with hnew | ⟨x, hx, hlater⟩
  · have := hr.id_lt e he
    omega
  · rw [hr.eq_of_id he hx (hid.symm.trans hlater.id_eq)]
    exact hlater

def Turns (r r' : Recorder) : Prop := r'.AllSettled ∧ Ages r r'

theorem turns_of_slots_eq (h : r.AllSettled) (hn : r'.nextId = r.nextId)
    (hs : r'.slots = r.slots) : Turns r r' := by
  refine ⟨?_, ⟨Nat.le_of_eq hn.symm, ?_⟩⟩
  · intro e he
    exact h e (hs ▸ he)
  · intro e he
    rw [hs] at he
    exact h.ages_refl.entries e he

theorem turns_record (hr : r.Layout) (h : r.AllSettled) (m : Moment) (op : Issued) :
    Turns r (r.record m op).2 := by
  by_cases hpos : 0 < r.capacity
  case neg =>
    rw [record_disabled (by omega)]
    exact ⟨h, h.ages_refl⟩
  refine ⟨?_, ⟨?_, ?_⟩⟩
  · intro e he
    rcases hr.mem_record hpos he with rfl | hold
    · exact Entry.settled_ofIssued _ _ op
    · exact h e hold
  · rw [record_nextId hpos]
    exact Nat.le_succ _
  · intro e he
    rcases hr.mem_record hpos he with rfl | hold
    · exact .inl (Nat.le_refl _)
    · exact .inr ⟨e, hold, (h e hold).later_refl⟩

theorem turns_snapshot (h : r.AllSettled) (dev : Device δ) (now : Int64) (d : δ) :
    Turns r (r.snapshot dev now d).2.1 := by
  rcases snapshot_recorder dev now r d with heq | heq
  · rw [heq]
    exact ⟨h, h.ages_refl⟩
  · rw [heq]
    refine ⟨?_, ⟨Nat.le_refl _, ?_⟩⟩
    · intro e' he'
      obtain ⟨e, he, hobs⟩ := mem_observeAll he'
      exact hobs.settled (h e he)
    · intro e' he'
      obtain ⟨e, he, hobs⟩ := mem_observeAll he'
      exact .inr ⟨e, he, hobs.later (h e he)⟩

theorem turns_setRanks (h : r.AllSettled) (group : GroupName) (ranks : List UInt64) :
    Turns r (r.setRanks group ranks) := by
  unfold setRanks
  split
  · exact turns_of_slots_eq h rfl rfl
  · exact ⟨h, h.ages_refl⟩

theorem turns_setSlot (hr : r.Layout) (h : r.AllSettled) (hs : r.slot? id = some e)
    (hsettled : e'.Settled) (hlater : e.Later e') : Turns r (r.setSlot id e') := by
  have hmem := (mem_of_slot hs).1
  refine ⟨?_, ⟨Nat.le_refl _, ?_⟩⟩
  · intro x hx
    rcases hr.mem_setSlot hs hx with rfl | ⟨hold, _⟩
    · exact hsettled
    · exact h x hold
  · intro x hx
    rcases hr.mem_setSlot hs hx with rfl | ⟨hold, _⟩
    · exact .inr ⟨e, hmem, hlater⟩
    · exact .inr ⟨x, hold, (h x hold).later_refl⟩

theorem turns_claim (hr : r.Layout) (h : r.AllSettled) (dev : Device δ) (now : Int64) (id : Nat)
    (w : Bool) (d : δ) : Turns r (r.claim dev now id w d).2.1 := by
  rcases claim_cases dev now id w r d with ⟨_, heq⟩ | ⟨e, e', d', hs, hobs, heq | heq⟩
  · rw [heq]
    exact ⟨h, h.ages_refl⟩
  · have hsettled := h e (mem_of_slot hs).1
    rw [heq]
    exact turns_setSlot hr h hs (hobs.settled hsettled) (hobs.later hsettled)
  · have hsettled := h e (mem_of_slot hs).1
    rw [heq]
    exact turns_setSlot hr h hs (hobs.settled hsettled).close (hobs.later hsettled).close

theorem turns_commit (hr : r.Layout) (h : r.AllSettled) (duration : Single)
    (hover : ∀ e ∈ r.slots, e.id = id →
      e.retired = true ∧ e.completed.isSome = true ∧ e.duration = none) :
    Turns r (r.commit id duration).2 := by
  rcases commit_cases id duration r with ⟨_, heq⟩ | ⟨e, hs, heq⟩
  · rw [heq]
    exact ⟨h, h.ages_refl⟩
  · obtain ⟨hmem, hid⟩ := mem_of_slot hs
    obtain ⟨hretired, hcompleted, hnone⟩ := hover e hmem hid
    obtain ⟨hlater, hsettled⟩ := (h e hmem).measure hretired hcompleted hnone duration
    rw [heq]
    exact turns_setSlot hr h hs hsettled hlater

theorem setSlot_self (hr : r.Layout) (hs : r.slot? id = some e) : r.setSlot id e = r := by
  have hmap := hr.setSlot_eq_map hs (fun x => x)
  simpa using hmap

/-- An id whose entry was retired or is gone. -/
def Released (r : Recorder) (id : Nat) : Prop :=
  id < r.nextId ∧ ∀ e ∈ r.slots, e.id = id → e.retired = true

theorem Released.ages (h : r.Released id) (hages : Ages r r') : r'.Released id := by
  refine ⟨Nat.lt_of_lt_of_le h.1 hages.nextId_le, ?_⟩
  intro e' he' hid
  rcases hages.entries e' he' with hnew | ⟨e, he, hlater⟩
  · have := h.1
    omega
  · exact hlater.retired (h.2 e he (hlater.id_eq.symm.trans hid))

/-- Claiming a released entry takes nothing and queries no marker. -/
theorem claim_of_released (hr : r.Layout) (hsettled : r.AllSettled) (h : r.Released id)
    (dev : Device δ) (now : Int64) (w : Bool) (d : δ) :
    r.claim dev now id w d = (.skipped, r, d) ∨ r.claim dev now id w d = (.done, r, d) := by
  cases hs : r.slot? id with
  | none => exact .inl (by simp only [claim, hs])
  | some e =>
    obtain ⟨hmem, hid⟩ := mem_of_slot hs
    have hretired := h.2 e hmem hid
    obtain ⟨hstart, hstop⟩ := (hsettled e hmem).markers hretired
    have hsame : { e.clearMarkers with retired := true } = e := by
      cases e
      simp_all [Entry.clearMarkers]
    refine .inr ?_
    simp only [claim, hs, Entry.observe_of_no_markers dev d hstart hstop, hstart]
    rw [hsame, setSlot_self hr hs]

theorem retire_of_released (hr : r.Layout) (hsettled : r.AllSettled) (h : r.Released id)
    (dev : Device δ) (m : Moment) (w : Bool) (d : δ) :
    ∃ outcome, r.retire dev m (some id) w d = (.answered outcome, r, d) := by
  unfold retire
  dsimp only
  split
  · exact ⟨.ignored, rfl⟩
  · rcases claim_of_released hr hsettled h dev m.now w d with heq | heq
    · exact ⟨.skipped, by rw [heq]⟩
    · exact ⟨.unmeasured, by rw [heq]⟩

/-- A first half that does not unwind leaves the entry released. -/
theorem released_claim (hr : r.Layout) (dev : Device δ) (now : Int64) (w : Bool) (d : δ)
    (hlt : id < r.nextId) (hreply : (r.claim dev now id w d).1 ≠ .unwound) :
    (r.claim dev now id w d).2.1.Released id := by
  rcases claim_cases dev now id w r d with ⟨hs, heq⟩ | ⟨e, e', d', hs, hobs, heq | heq⟩
  · rw [heq]
    refine ⟨hlt, ?_⟩
    intro x hx hid
    have hfound := hr.slot_eq_some_iff.mpr ⟨hx, hid⟩
    rw [hs] at hfound
    cases hfound
  · rw [heq] at hreply
    exact absurd rfl hreply
  · rw [heq]
    refine ⟨hlt, ?_⟩
    intro x hx hid
    rcases hr.mem_setSlot hs hx with rfl | ⟨_, hne⟩
    · rfl
    · exact absurd hid hne

end Recorder

namespace SharedRecorder

variable {δ : Type} {dev : Device δ} {s s' : SharedRecorder δ}

/-- A retirement that may still write a duration is of an entry that is retired and completed. -/
structure Lived (s : SharedRecorder δ) : Prop where
  consistent : s.Consistent
  settled : s.recorder.AllSettled
  pending : ∀ t ∈ s.retiring, t.stage = .finished ∨
    t.id < s.recorder.nextId ∧ ∀ e ∈ s.recorder.slots, e.id = t.id →
      e.retired = true ∧ e.completed.isSome = true

theorem lived_start (capacity : Nat) (captureStacks : Bool) (d : δ) :
    (start capacity captureStacks d).Lived where
  consistent := consistent_start capacity captureStacks d
  settled := by simp [start, Recorder.new, Recorder.AllSettled]
  pending := by simp [start]

theorem Lived.pending_of_ages (h : s.Lived) {r : Recorder} (hages : s.recorder.Ages r)
    {t : Retiring} (ht : t ∈ s.retiring) : t.stage = .finished ∨
      t.id < r.nextId ∧ ∀ e ∈ r.slots, e.id = t.id →
        e.retired = true ∧ e.completed.isSome = true := by
  rcases h.pending t ht with hfinished | ⟨hlt, hover⟩
  · exact .inl hfinished
  · refine .inr ⟨Nat.lt_of_lt_of_le hlt hages.nextId_le, ?_⟩
    intro e' he' hid
    rcases hages.entries e' he' with hnew | ⟨e, he, hlater⟩
    · omega
    · obtain ⟨hretired, hcompleted⟩ := hover e he (hlater.id_eq.symm.trans hid)
      exact ⟨hlater.retired hretired, hlater.completed_isSome hcompleted⟩

theorem Lived.turn (h : s.Lived) (hconsistent : s'.Consistent)
    (hturns : s.recorder.Turns s'.recorder)
    (hretiring : ∀ t' ∈ s'.retiring, t'.stage = .finished ∨ ∃ t ∈ s.retiring,
      t.id = t'.id ∧ t.stage ≠ .finished) : s'.Lived where
  consistent := hconsistent
  settled := hturns.1
  pending := by
    intro t' ht'
    rcases hretiring t' ht' with hfinished | ⟨t, ht, hid, hopen⟩
    · exact .inl hfinished
    · rcases h.pending_of_ages hturns.2 ht with hfinished | hpending
      · exact absurd hfinished hopen
      · rw [hid] at hpending
        exact .inr hpending

theorem Lived.turn_same (h : s.Lived) (hconsistent : s'.Consistent)
    (hturns : s.recorder.Turns s'.recorder) (hretiring : s'.retiring = s.retiring) : s'.Lived where
  consistent := hconsistent
  settled := hturns.1
  pending := by
    intro t ht
    rw [hretiring] at ht
    exact h.pending_of_ages hturns.2 ht

/-- While the device is asked, the entry has no duration. -/
theorem Consistent.unmeasured (h : s.Consistent) {t : Retiring}
    {reply : Reply (Except ProbeError Single)}
    {meanwhile : List Issued} (ht : t ∈ s.retiring) (hstage : t.stage = .asked reply meanwhile)
    {e : Entry} (he : e ∈ s.recorder.slots) (hid : e.id = t.id) : e.duration = none := by
  cases hd : e.duration with
  | none => rfl
  | some duration =>
    have hcommitted := (h.entries e he).committed duration hd
    have hcommittedCount : 0 < s.history.countP (RetiringNote.isCommitted e.id) :=
      List.countP_pos_iff.mpr ⟨_, hcommitted, by simp [RetiringNote.isCommitted]⟩
    have hasked : t.isAsked e.id = true := by
      obtain ⟨id, stage⟩ := t
      subst hstage
      simp [Retiring.isAsked, hid]
    have haskedCount : 0 < s.retiring.countP (Retiring.isAsked e.id) :=
      List.countP_pos_iff.mpr ⟨t, ht, hasked⟩
    have hanswered := h.answered_le e.id
    have htaken := h.taken_once e.id
    unfold answered at hanswered
    unfold taken at htaken
    omega

theorem Lived.record (h : s.Lived) (m : Recorder.Moment) (op : Issued) :
    (s.record m op).Lived ∧ s.recorder.Ages (s.record m op).recorder := by
  have hturns : s.recorder.Turns (s.record m op).recorder := by
    rw [record_recorder]
    exact Recorder.turns_record h.consistent.layout h.settled m op
  exact ⟨h.turn_same (h.consistent.record m op) hturns (record_retiring s m op), hturns.2⟩

/-- The first half of retiring is that of the recorder, and is under way only with markers. -/
theorem claim_eq_or (dev : Device δ) (s : SharedRecorder δ) (now : Int64) (id : Option Nat)
    (w : Bool) : s.claim dev now id w = s ∨ ∃ i,
      (s.claim dev now id w).recorder = (s.recorder.claim dev now i w s.device).2.1 ∧
      ((s.claim dev now id w).retiring = s.retiring ∨ ∃ start stop,
        (s.recorder.claim dev now i w s.device).1 = .markers start stop ∧
        (s.claim dev now id w).retiring = s.retiring ++ [⟨i, .claimed start stop⟩]) := by
  unfold SharedRecorder.claim
  split
  · exact .inl rfl
  next i =>
  split
  · exact .inl rfl
  refine .inr ⟨i, ?_⟩
  split
  · next start stop recorder device hr =>
    rw [hr]
    exact ⟨rfl, .inr ⟨start, stop, rfl, rfl⟩⟩
  · next recorder device _ hr =>
    rw [hr]
    exact ⟨rfl, .inl rfl⟩

theorem Lived.claim (h : s.Lived) (dev : Device δ) (now : Int64) (id : Option Nat) (w : Bool) :
    (s.claim dev now id w).Lived ∧ s.recorder.Ages (s.claim dev now id w).recorder := by
  have hconsistent := h.consistent.claim dev now id w
  rcases claim_eq_or dev s now id w with heq | ⟨i, hrecorder, hretiring⟩
  · rw [heq]
    exact ⟨h, h.settled.ages_refl⟩
  have hturns := Recorder.turns_claim h.consistent.layout h.settled dev now i w s.device
  rw [← hrecorder] at hturns
  refine ⟨?_, hturns.2⟩
  rcases hretiring with hsame | ⟨start, stop, hmarkers, hadded⟩
  · exact h.turn_same hconsistent hturns hsame
  refine ⟨hconsistent, hturns.1, ?_⟩
  intro t ht
  rw [hadded] at ht
  rcases List.mem_append.mp ht with hold | hnew
  · exact h.pending_of_ages hturns.2 hold
  obtain rfl := List.mem_singleton.mp hnew
  refine .inr ?_
  -- markers are taken only from an entry that the poll found completed, and it is closed then
  rw [hrecorder]
  rcases Recorder.claim_cases dev now i w s.recorder s.device with
    ⟨_, heq⟩ | ⟨e, e', d', hs, _, heq | heq⟩
  · rw [heq] at hmarkers
    cases hmarkers
  · rw [heq] at hmarkers
    cases hmarkers
  · rw [heq] at hmarkers ⊢
    obtain ⟨hmem, hid⟩ := Recorder.mem_of_slot hs
    refine ⟨hid ▸ h.consistent.layout.id_lt e hmem, ?_⟩
    intro x hx hxid
    rcases h.consistent.layout.mem_setSlot hs hx with rfl | ⟨_, hne⟩
    · rcases e'.claimed_cases w with hdone | ⟨_, _, _, _, _, hcompleted⟩
      · rw [hdone] at hmarkers
        cases hmarkers
      · exact ⟨rfl, hcompleted⟩
    · exact absurd hxid hne

theorem Lived.setStage (h : s.Lived) {k : Nat} {t : Retiring} {stage : RetiringStage}
    (hk : s.retiring[k]? = some t) (hopen : t.stage ≠ .finished)
    (hretiring : s'.retiring = s.retiring.set k ⟨t.id, stage⟩) (hconsistent : s'.Consistent)
    (hturns : s.recorder.Turns s'.recorder) : s'.Lived := by
  refine h.turn hconsistent hturns ?_
  intro t' ht'
  rw [hretiring] at ht'
  rcases List.mem_or_eq_of_mem_set ht' with hold | rfl
  · by_cases hfinished : t'.stage = .finished
    · exact .inl hfinished
    · exact .inr ⟨t', hold, rfl, hfinished⟩
  · exact .inr ⟨t, List.mem_of_getElem? hk, rfl, hopen⟩

theorem Lived.probe (h : s.Lived) (dev : Device δ) (k : Nat) :
    (s.probe dev k).Lived ∧ s.recorder.Ages (s.probe dev k).recorder := by
  have hconsistent := h.consistent.probe dev k
  have hturns : s.recorder.Turns s.recorder := ⟨h.settled, h.settled.ages_refl⟩
  unfold SharedRecorder.probe at hconsistent ⊢
  split at hconsistent
  · next id start stop hk =>
    exact ⟨h.setStage hk (fun hf => by cases hf) rfl hconsistent hturns, hturns.2⟩
  · exact ⟨h, hturns.2⟩

theorem Lived.recordMeanwhile (h : s.Lived) (k : Nat) (m : Recorder.Moment) :
    (s.recordMeanwhile k m).Lived ∧ s.recorder.Ages (s.recordMeanwhile k m).recorder := by
  have hturns : s.recorder.Turns s.recorder := ⟨h.settled, h.settled.ages_refl⟩
  unfold SharedRecorder.recordMeanwhile
  split
  · next id reply op rest hk =>
    have hbetween : ({ s with retiring := s.retiring.set k ⟨id, .asked reply rest⟩ } :
        SharedRecorder δ).Lived :=
      h.setStage hk (fun hf => by cases hf) rfl (h.consistent.setStage hk (.inr ⟨_, rfl⟩)) hturns
    exact hbetween.record m op
  · exact ⟨h, hturns.2⟩

theorem Lived.commit (h : s.Lived) (k : Nat) :
    (s.commit k).Lived ∧ s.recorder.Ages (s.commit k).recorder := by
  have hconsistent := h.consistent.commit k
  unfold SharedRecorder.commit at hconsistent ⊢
  split at hconsistent
  case h_2 => exact ⟨h, h.settled.ages_refl⟩
  next id reply hk =>
  have hmem := List.mem_of_getElem? hk
  dsimp only at hconsistent ⊢
  split at hconsistent
  · next duration =>
    have hover : ∀ e ∈ s.recorder.slots, e.id = id →
        e.retired = true ∧ e.completed.isSome = true ∧ e.duration = none := by
      intro e he hid
      rcases h.pending _ hmem with hfinished | ⟨_, hpending⟩
      · cases hfinished
      · obtain ⟨hretired, hcompleted⟩ := hpending e he hid
        exact ⟨hretired, hcompleted, h.consistent.unmeasured hmem rfl he hid⟩
    have hturns := Recorder.turns_commit h.consistent.layout h.settled duration hover
    exact ⟨h.setStage hk (fun hf => by cases hf) rfl hconsistent hturns, hturns.2⟩
  · have hturns : s.recorder.Turns s.recorder := ⟨h.settled, h.settled.ages_refl⟩
    exact ⟨h.setStage hk (fun hf => by cases hf) rfl hconsistent hturns, hturns.2⟩

theorem Lived.step (h : s.Lived) (dev : Device δ) (event : ThreadEvent δ) :
    (s.step dev event).Lived ∧ s.recorder.Ages (s.step dev event).recorder := by
  have hconsistent := h.consistent.step dev event
  cases event with
  | record m op => exact h.record m op
  | snapshot now =>
    have hturns := Recorder.turns_snapshot h.settled dev now s.device
    exact ⟨h.turn_same hconsistent hturns rfl, hturns.2⟩
  | setRanks group ranks =>
    have hturns := Recorder.turns_setRanks h.settled group ranks
    exact ⟨h.turn_same hconsistent hturns rfl, hturns.2⟩
  | claim now id w => exact h.claim dev now id w
  | probe k => exact h.probe dev k
  | recordMeanwhile k m => exact h.recordMeanwhile k m
  | commit k => exact h.commit k
  | moveDevice d =>
    have hturns : s.recorder.Turns s.recorder := ⟨h.settled, h.settled.ages_refl⟩
    exact ⟨h.turn_same hconsistent hturns rfl, hturns.2⟩

theorem Lived.run (h : s.Lived) (dev : Device δ) (events : List (ThreadEvent δ)) :
    (s.run dev events).Lived ∧ s.recorder.Ages (s.run dev events).recorder := by
  refine run_induction (P := fun s' => s'.Lived ∧ s.recorder.Ages s'.recorder) ?_
    ⟨h, h.settled.ages_refl⟩ events
  rintro s' event ⟨hlived, hages⟩
  obtain ⟨hnext, hstep⟩ := hlived.step dev event
  exact ⟨hnext, hages.trans hstep⟩

theorem Lived.claim_of_released (h : s.Lived) {id : Nat} (hr : s.recorder.Released id)
    (dev : Device δ) (now : Int64) (w : Bool) : s.claim dev now (some id) w = s := by
  unfold SharedRecorder.claim
  dsimp only
  split
  · rfl
  · rcases Recorder.claim_of_released h.consistent.layout h.settled hr dev now w s.device with
      heq | heq <;> rw [heq]

theorem Lived.released_claim (h : s.Lived) (dev : Device δ) (now : Int64) {id : Nat} (w : Bool)
    (hlt : id < s.recorder.nextId)
    (hreply : (s.recorder.claim dev now id w s.device).1 ≠ .unwound) :
    (s.claim dev now (some id) w).recorder.Released id := by
  have hlayout := h.consistent.layout
  have hreleased := Recorder.released_claim hlayout dev now w s.device hlt hreply
  unfold SharedRecorder.claim
  dsimp only
  split
  · next hdisabled =>
    have hzero : s.recorder.capacity = 0 := by
      simpa [Recorder.isEnabled] using hdisabled
    have hnil : s.recorder.slots = [] := by
      apply List.eq_nil_of_length_eq_zero
      rw [hlayout.length_slots, hzero, Nat.min_zero]
    refine ⟨hlt, ?_⟩
    intro e he
    rw [hnil] at he
    cases he
  · split <;> next hr => rwa [hr] at hreleased

/-- For any threads, device and markers. Between two moments at which an entry is in the ring, its
recorded fields are equal, a timestamp or duration that is present is kept, its state and retirement
do not go back, and after retirement its markers are gone and its timestamps are fixed. A duration
is present only on an entry that is retired and completed. After the first half of a retirement the
entry is retired or overwritten, and no other retirement of the id changes it or queries a marker. A
retirement in one piece is one of these runs. -/
theorem entries_advance_and_retire_once (dev : Device δ) (capacity : Nat) (captureStacks : Bool)
    (d : δ) (events more : List (ThreadEvent δ)) :
    let s := (start capacity captureStacks d).run dev events
    (∀ e ∈ s.recorder.slots, ∀ e' ∈ (s.run dev more).recorder.slots, e'.id = e.id →
      e.Later e' ∧ e.state.stage ≤ e'.state.stage) ∧
    (∀ e ∈ s.recorder.slots, e.retired = true → e.start = none ∧ e.stop = none) ∧
    (∀ e ∈ s.recorder.slots, e.duration.isSome = true → e.retired = true ∧ e.state = .completed) ∧
    (∀ now id w, id < s.recorder.nextId →
      (s.recorder.claim dev now id w s.device).1 ≠ .unwound →
      let s' := (s.step dev (.claim now (some id) w)).run dev more
      (∀ e ∈ s'.recorder.slots, e.id = id → e.retired = true) ∧
      (∀ now' w', s'.step dev (.claim now' (some id) w') = s') ∧
      ∀ m w', ∃ outcome, s'.recorder.retire dev m (some id) w' s'.device =
        (.answered outcome, s'.recorder, s'.device)) ∧
    (∀ m id w, ∃ n, let s' := s.run dev (undisturbed s.retiring.length n m id w)
      s'.recorder = (s.recorder.retire dev m id w s.device).2.1 ∧
      s'.device = (s.recorder.retire dev m id w s.device).2.2) := by
  intro s
  have h : s.Lived := ((lived_start capacity captureStacks d).run dev events).1
  refine ⟨?_, ?_, ?_, ?_, s.run_undisturbed dev⟩
  · intro e he e' he' hid
    have hages := (h.run dev more).2
    have hlater := hages.later h.consistent.layout he he' hid
    exact ⟨hlater, hlater.stage_le⟩
  · intro e he hretired
    exact (h.settled e he).markers hretired
  · intro e he hd
    obtain ⟨hretired, hcompleted⟩ := (h.settled e he).duration hd
    exact ⟨hretired, if_pos hcompleted⟩
  · intro now id w hlt hreply
    have hreleased := h.released_claim dev now w hlt hreply
    obtain ⟨hnext, hages⟩ := (h.claim dev now (some id) w).1.run dev more
    have hlast := hreleased.ages hages
    refine ⟨hlast.2, ?_, ?_⟩
    · intro now' w'
      exact hnext.claim_of_released hlast dev now' w'
    · intro m w'
      exact Recorder.retire_of_released hnext.consistent.layout hnext.settled hlast dev m w' _

end SharedRecorder

def promptDevice : Device Unit where
  query _ _ := (.answered true, ())
  elapsed _ _ _ := (.answered (.ok ⟨0x3fc00000⟩), [], ())

def measuredOperation : List (ThreadEvent Unit) :=
  let op : Issued := { group := ⟨"0", "default"⟩, status := ⟨0⟩, name := "send" }
  [.record ⟨1, []⟩ { op with start := some ⟨0⟩, stop := some ⟨1⟩ }, .claim 2 (some 0) true,
    .probe 0, .commit 0]

/-- A second retirement of the operation changes nothing. -/
theorem measuredOperation_over :
    let s := (SharedRecorder.start 1 false ()).run promptDevice measuredOperation
    ∃ e ∈ s.recorder.slots, e.id = 0 ∧ e.duration = some ⟨0x3fc00000⟩ ∧ e.retired = true ∧
      e.state = .completed ∧ s.step promptDevice (.claim 3 (some 0) false) = s := by
  intro s
  obtain ⟨_, _, hmeasured, _⟩ :=
    SharedRecorder.entries_advance_and_retire_once promptDevice 1 false () measuredOperation []
  obtain ⟨_, _, _, hsecond, _⟩ :=
    SharedRecorder.entries_advance_and_retire_once promptDevice 1 false ()
      (measuredOperation.take 1) (measuredOperation.drop 2)
  obtain ⟨_, hagain, _⟩ := hsecond 2 0 true (by decide) (by decide)
  obtain ⟨e, he⟩ : ∃ e, s.recorder.slots = [e] := ⟨_, rfl⟩
  have hmem : e ∈ s.recorder.slots := by
    rw [he]
    exact List.mem_singleton.mpr rfl
  have hfields : s.recorder.slots.map (fun e => (e.id, e.duration)) = [(0, some ⟨0x3fc00000⟩)] :=
    rfl
  have hfound : e.id = 0 ∧ e.duration = some ⟨0x3fc00000⟩ := by
    simpa [he] using hfields
  have hsome : e.duration.isSome = true := by rw [hfound.2]; rfl
  obtain ⟨hretired, hcompleted⟩ := hmeasured e hmem hsome
  exact ⟨e, hmem, hfound.1, hfound.2, hretired, hcompleted, hagain 3 false⟩

end RankTrace
