import RankTrace.Proofs.Trace.Groups
import RankTrace.Proofs.Trace.Life

/-!
# What was recorded

A group has a progress from the first operation on that was recorded for it, whatever becomes of its
entries. An entry is what has become of the operation that was recorded under its id.
-/

namespace RankTrace

/-- What has become of this operation since it was recorded under this id. -/
def Entry.StemsFrom (e : Entry) (id : Nat) (op : Issued) : Prop :=
  ∃ now stack, (Entry.ofIssued id now stack op).Later e

namespace SharedRecorder

variable {δ : Type} {s : SharedRecorder δ}

def HasRecorded (s : SharedRecorder δ) (group : UInt64) : Prop :=
  ∃ id op, .recorded id op ∈ s.history ∧ op.groupId = group

/-- The operation that an event records, if the recorder is enabled. -/
def recorded? (s : SharedRecorder δ) : ThreadEvent δ → Option (Recorder.Moment × Issued)
  | .record m op => some (m, op)
  | .recordMeanwhile k m =>
    match s.retiring[k]? with
    | some ⟨_, .asked _ (op :: _)⟩ => some (m, op)
    | _ => none
  | _ => none

theorem record_history (s : SharedRecorder δ) (m : Recorder.Moment) (op : Issued) :
    (s.record m op).history =
      if 0 < s.recorder.capacity then .recorded s.recorder.nextId op :: s.history
      else s.history := by
  unfold record
  by_cases hpos : 0 < s.recorder.capacity
  · rw [Recorder.record_eq hpos, if_pos hpos]
  · rw [Recorder.record_disabled (by omega), if_neg hpos]

theorem claim_history (dev : Device δ) (s : SharedRecorder δ) (now : Int64) (id : Option Nat)
    (w : Bool) : (s.claim dev now id w).history = s.history := by
  unfold claim
  split
  · rfl
  · split
    · rfl
    · split <;> rfl

theorem step_of_recorded (dev : Device δ) {event : ThreadEvent δ} {m : Recorder.Moment}
    {op : Issued}
    (h : s.recorded? event = some (m, op)) :
    ∃ retiring, s.step dev event = { s with retiring := retiring }.record m op := by
  cases event with
  | record m' op' =>
    cases h
    exact ⟨s.retiring, rfl⟩
  | recordMeanwhile k m' =>
    simp only [recorded?] at h
    split at h
    · next id reply op' rest hk =>
      cases h
      refine ⟨s.retiring.set k ⟨id, .asked reply rest⟩, ?_⟩
      simp only [step, recordMeanwhile, hk]
    · cases h
  | snapshot | setRanks | claim | probe | commit | moveDevice => cases h

structure RecordsNothing (s s' : SharedRecorder δ) : Prop where
  statuses : s'.recorder.statuses = s.recorder.statuses
  recorded : ∀ id op, .recorded id op ∈ s'.history ↔ .recorded id op ∈ s.history

theorem recordsNothing_step (dev : Device δ) {event : ThreadEvent δ}
    (h : s.recorded? event = none) : s.RecordsNothing (s.step dev event) := by
  cases event with
  | record m op => cases h
  | snapshot now =>
    exact ⟨(Recorder.keepsGroups_snapshot dev now _ _).statuses, fun _ _ => Iff.rfl⟩
  | setRanks group ranks =>
    refine ⟨?_, fun _ _ => Iff.rfl⟩
    simp only [step, Recorder.setRanks]
    split <;> rfl
  | claim now id w =>
    constructor
    · rcases claim_eq_or dev s now id w with hsame | ⟨i, hrecorder, _⟩
      · rw [step, hsame]
      · rw [step, hrecorder]
        exact (Recorder.keepsGroups_claim dev now i w _ _).statuses
    · intro i op
      rw [step, claim_history]
  | probe k =>
    simp only [step, probe]
    split
    · exact ⟨rfl, fun id op => by simp⟩
    · exact ⟨rfl, fun _ _ => Iff.rfl⟩
  | recordMeanwhile k m =>
    simp only [step, recordMeanwhile]
    split
    · next hk => simp [recorded?, hk] at h
    · exact ⟨rfl, fun _ _ => Iff.rfl⟩
  | commit k =>
    simp only [step, commit]
    split
    · split
      · exact ⟨(Recorder.keepsGroups_commit _ _ _).statuses, fun id op => by simp⟩
      · exact ⟨rfl, fun _ _ => Iff.rfl⟩
    · exact ⟨rfl, fun _ _ => Iff.rfl⟩
  | moveDevice d => exact ⟨rfl, fun _ _ => Iff.rfl⟩

/-- Recorded operations stay recorded. -/
theorem recorded_mono (dev : Device δ) (event : ThreadEvent δ) {id : Nat} {op : Issued}
    (h : .recorded id op ∈ s.history) : .recorded id op ∈ (s.step dev event).history := by
  cases hrecorded : s.recorded? event with
  | some row =>
    obtain ⟨retiring, heq⟩ := step_of_recorded dev hrecorded
    rw [heq, record_history]
    split
    · exact List.mem_cons_of_mem _ h
    · exact h
  | none => exact ((recordsNothing_step dev hrecorded).recorded id op).mpr h

/-- An entry after an event is new, or a later form of one that was there. -/
theorem Lived.mem_step (h : s.Lived) (dev : Device δ) (event : ThreadEvent δ) {e' : Entry}
    (he' : e' ∈ (s.step dev event).recorder.slots) :
    (∃ m op, e' = s.recorder.nextEntry m op ∧
      .recorded e'.id op ∈ (s.step dev event).history) ∨
    ∃ e ∈ s.recorder.slots, e.Later e' := by
  cases hrecorded : s.recorded? event with
  | some row =>
    obtain ⟨m, op⟩ := row
    obtain ⟨retiring, heq⟩ := step_of_recorded dev hrecorded
    rw [heq, record_recorder] at he'
    by_cases hpos : 0 < s.recorder.capacity
    · rcases h.consistent.layout.mem_record hpos he' with rfl | hold
      · refine .inl ⟨m, op, rfl, ?_⟩
        rw [heq, record_history, if_pos hpos]
        exact List.mem_cons_self
      · exact .inr ⟨e', hold, (h.settled e' hold).later_refl⟩
    · have hzero : s.recorder.capacity = 0 := by omega
      rw [Recorder.record_disabled hzero] at he'
      exact .inr ⟨e', he', (h.settled e' he').later_refl⟩
  | none =>
    obtain ⟨hlived', hages⟩ := h.step dev event
    rcases hages.entries e' he' with hnew | hold
    · -- nothing was recorded, so there is no entry with an id that was not given before
      obtain ⟨op, hmem, _⟩ := (hlived'.consistent.entries e' he').recorded
      rw [(recordsNothing_step dev hrecorded).recorded] at hmem
      have hlt := h.consistent.recorded_lt _ _ hmem
      omega
    · exact .inr hold

/-- The recorder knows of each group whether it was recorded, and of each entry for which group. -/
structure Grouped (s : SharedRecorder δ) : Prop where
  statuses : ∀ group, group ∈ s.recorder.statuses.map Prod.fst ↔ s.HasRecorded group
  entries : ∀ e ∈ s.recorder.slots, ∃ op, .recorded e.id op ∈ s.history ∧ op.groupId = e.groupId

theorem grouped_start (capacity : Nat) (captureStacks : Bool) (d : δ) :
    (start capacity captureStacks d).Grouped where
  statuses := by simp [start, Recorder.new, HasRecorded]
  entries := by simp [start, Recorder.new]

/-- A group has a progress from its first operation on. -/
theorem Grouped.statuses_step (h : s.Grouped) (dev : Device δ) (event : ThreadEvent δ)
    (group : UInt64) : group ∈ (s.step dev event).recorder.statuses.map Prod.fst ↔
      (s.step dev event).HasRecorded group := by
  cases hrecorded : s.recorded? event with
  | some row =>
    obtain ⟨m, op⟩ := row
    obtain ⟨retiring, heq⟩ := step_of_recorded dev hrecorded
    rw [heq, record_recorder]
    by_cases hpos : 0 < s.recorder.capacity
    · rw [Recorder.record_eq hpos, Table.setNew, Table.mem_keys_alter, h.statuses]
      simp only [HasRecorded, record_history, if_pos hpos, List.mem_cons]
      grind
    · have hzero : s.recorder.capacity = 0 := by omega
      rw [Recorder.record_disabled hzero, h.statuses]
      simp only [HasRecorded, record_history, if_neg hpos]
  | none =>
    have hnothing := recordsNothing_step dev hrecorded
    simp only [HasRecorded, hnothing.statuses, hnothing.recorded]
    exact h.statuses group

theorem Grouped.step (h : s.Grouped) (hlived : s.Lived) (dev : Device δ) (event : ThreadEvent δ) :
    (s.step dev event).Grouped where
  statuses := h.statuses_step dev event
  entries := by
    intro e' he'
    rcases hlived.mem_step dev event he' with ⟨m, op, rfl, hmem⟩ | ⟨e, he, hlater⟩
    · exact ⟨op, hmem, rfl⟩
    · obtain ⟨op, hmem, hgroup⟩ := h.entries e he
      rw [hlater.identity]
      exact ⟨op, recorded_mono dev event hmem, hgroup⟩

theorem grouped_run (dev : Device δ) (capacity : Nat) (captureStacks : Bool) (d : δ)
    (events : List (ThreadEvent δ)) :
    ((start capacity captureStacks d).run dev events).Grouped := by
  refine (run_induction (P := fun s => s.Lived ∧ s.Grouped) ?_ ?_ events).2
  · rintro s event ⟨hlived, hgrouped⟩
    exact ⟨(hlived.step dev event).1, hgrouped.step hlived dev event⟩
  · exact ⟨lived_start capacity captureStacks d, grouped_start capacity captureStacks d⟩

/-- Every entry in the ring is what has become of an operation that was recorded under its id. -/
def Sourced (s : SharedRecorder δ) : Prop :=
  ∀ e ∈ s.recorder.slots, ∃ op, .recorded e.id op ∈ s.history ∧ e.StemsFrom e.id op

theorem Sourced.step (h : s.Sourced) (hlived : s.Lived) (dev : Device δ) (event : ThreadEvent δ) :
    (s.step dev event).Sourced := by
  intro e' he'
  rcases hlived.mem_step dev event he' with ⟨m, op, rfl, hmem⟩ | ⟨e, he, hlater⟩
  · exact ⟨op, hmem, m.now, _, (Entry.settled_ofIssued _ _ op).later_refl⟩
  · obtain ⟨op, hmem, now, stack, hstems⟩ := h e he
    rw [hlater.id_eq]
    exact ⟨op, recorded_mono dev event hmem, now, stack, hstems.trans hlater⟩

theorem sourced_run (dev : Device δ) (capacity : Nat) (captureStacks : Bool) (d : δ)
    (events : List (ThreadEvent δ)) :
    ((start capacity captureStacks d).run dev events).Lived ∧
      ((start capacity captureStacks d).run dev events).Sourced := by
  refine run_induction (P := fun s => s.Lived ∧ s.Sourced) ?_ ?_ events
  · rintro s event ⟨hlived, hsourced⟩
    exact ⟨(hlived.step dev event).1, hsourced.step hlived dev event⟩
  · refine ⟨lived_start capacity captureStacks d, ?_⟩
    intro e he
    cases he

/-- One operation is recorded under an id. -/
theorem Lived.recorded_unique (h : s.Lived) {id : Nat} {op other : Issued}
    (hop : .recorded id op ∈ s.history) (hother : .recorded id other ∈ s.history) : other = op := by
  by_cases heq : other = op
  · exact heq
  -- the history without the one record would have none of the other
  have honce := h.consistent.recorded_once id
  obtain ⟨newer, older, hhistory⟩ := List.append_of_mem hop
  have hsame : RetiringNote.isRecorded id (.recorded id op) = true := by
    simp [RetiringNote.isRecorded]
  rw [hhistory, List.countP_append, List.countP_cons_of_pos hsame] at honce
  have hnone : (newer ++ older).countP (RetiringNote.isRecorded id) = 0 := by
    rw [List.countP_append]
    omega
  rw [List.countP_eq_zero] at hnone
  have hmem : .recorded id other ∈ newer ++ older := by
    rw [hhistory] at hother
    simpa [heq] using hother
  exact absurd (by simp [RetiringNote.isRecorded]) (hnone _ hmem)

end SharedRecorder

end RankTrace
