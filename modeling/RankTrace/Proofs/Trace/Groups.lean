import RankTrace.Proofs.Trace.Retirement

/-!
# Tables of groups

Ranks are set by one kind of event and a progress is noted when an operation is recorded. Nothing
else touches the tables, so the ranks of a recorder are those that were set last for each group.
-/

namespace RankTrace

namespace Table

variable {κ ν : Type} [Key κ]

theorem mem_keys_ofRows {rows : List (κ × ν)} {key : κ} :
    key ∈ (ofRows rows).map Prod.fst ↔ key ∈ rows.map Prod.fst := by
  have hfold : ∀ (rows : List (κ × ν)) (t : Table κ ν),
      key ∈ (rows.foldl (fun t row => set row.1 row.2 t) t).map Prod.fst ↔
        key ∈ rows.map Prod.fst ∨ key ∈ t.map Prod.fst := by
    intro rows
    induction rows with
    | nil => simp
    | cons row rest ih =>
      intro t
      rw [List.foldl_cons, ih, set, mem_keys_alter, List.map_cons, List.mem_cons]
      grind
  rw [ofRows, hfold rows []]
  simp

end Table

namespace ThreadEvent

variable {δ : Type}

def assignment? : ThreadEvent δ → Option (GroupName × List UInt64)
  | setRanks group ranks => some (group, ranks)
  | _ => none

end ThreadEvent

namespace Recorder

variable {δ : Type}

structure KeepsGroups (r r' : Recorder) : Prop where
  statuses : r'.statuses = r.statuses
  ranks : r'.ranks = r.ranks

theorem keepsGroups_claim (dev : Device δ) (now : Int64) (id : Nat) (w : Bool) (r : Recorder)
    (d : δ) : r.KeepsGroups (r.claim dev now id w d).2.1 := by
  rcases claim_cases dev now id w r d with ⟨_, he⟩ | ⟨_, _, _, _, _, he | he⟩ <;> rw [he] <;>
    exact ⟨rfl, rfl⟩

theorem keepsGroups_commit (id : Nat) (duration : Single) (r : Recorder) :
    r.KeepsGroups (r.commit id duration).2 := by
  rcases commit_cases id duration r with ⟨_, he⟩ | ⟨_, _, he⟩ <;> rw [he] <;>
    exact ⟨rfl, rfl⟩

theorem keepsGroups_snapshot (dev : Device δ) (now : Int64) (r : Recorder) (d : δ) :
    r.KeepsGroups (r.snapshot dev now d).2.1 := by
  rcases snapshot_recorder dev now r d with he | he <;> rw [he] <;> exact ⟨rfl, rfl⟩

theorem keepsGroups_push (r : Recorder) (e : Entry) : r.KeepsGroups (r.push e) := by
  unfold push
  split <;> exact ⟨rfl, rfl⟩

theorem groups_record (m : Moment) (op : Issued) (r : Recorder) :
    (r.record m op).2.ranks = r.ranks ∧
      ((r.record m op).2.statuses = r.statuses ∨
        (r.record m op).2.statuses = r.statuses.setNew op.groupId op.status) := by
  unfold record
  split
  · exact ⟨rfl, .inl rfl⟩
  · have hpush := keepsGroups_push { r with statuses := r.statuses.setNew op.groupId op.status }
      (Entry.ofIssued r.nextId m.now (if r.captureStacks then some m.stack else none) op)
    exact ⟨hpush.ranks, .inr hpush.statuses⟩

end Recorder

namespace SharedRecorder

variable {δ : Type} {s : SharedRecorder δ}

theorem groups_step (dev : Device δ) (s : SharedRecorder δ) (event : ThreadEvent δ) :
    (event.assignment? = none ∧
      (s.step dev event).recorder.ranks = s.recorder.ranks ∧
      ((s.step dev event).recorder.statuses = s.recorder.statuses ∨
        ∃ id status, (s.step dev event).recorder.statuses =
          s.recorder.statuses.setNew id status)) ∨
    ∃ group ranks, event = .setRanks group ranks ∧
      (s.step dev event).recorder = s.recorder.setRanks group ranks := by
  have hkept {r : Recorder} (h : s.recorder.KeepsGroups r) : r.ranks = s.recorder.ranks ∧
      (r.statuses = s.recorder.statuses ∨
        ∃ id status, r.statuses = s.recorder.statuses.setNew id status) :=
    ⟨h.ranks, .inl h.statuses⟩
  have hrecorded (s' : SharedRecorder δ) (hs : s'.recorder = s.recorder) (m : Recorder.Moment)
      (op : Issued) : (s'.record m op).recorder.ranks = s.recorder.ranks ∧
        ((s'.record m op).recorder.statuses = s.recorder.statuses ∨
          ∃ id status, (s'.record m op).recorder.statuses =
            s.recorder.statuses.setNew id status) := by
    rw [record_recorder, hs]
    obtain ⟨hranks, hstatuses⟩ := Recorder.groups_record m op s.recorder
    exact ⟨hranks, hstatuses.imp_right fun h => ⟨_, _, h⟩⟩
  cases event with
  | setRanks group ranks => exact .inr ⟨group, ranks, rfl, rfl⟩
  | record m op => exact .inl ⟨rfl, hrecorded s rfl m op⟩
  | snapshot now => exact .inl ⟨rfl, hkept (Recorder.keepsGroups_snapshot dev now _ _)⟩
  | claim now id w =>
    refine .inl ⟨rfl, hkept ?_⟩
    have hclaim (id : Nat) := Recorder.keepsGroups_claim dev now id w s.recorder s.device
    simp only [step, claim]
    split
    · exact ⟨rfl, rfl⟩
    · split
      · exact ⟨rfl, rfl⟩
      · next id _ =>
        specialize hclaim id
        split <;> next heq =>
          rw [heq] at hclaim
          exact hclaim
  | probe k =>
    refine .inl ⟨rfl, hkept ?_⟩
    simp only [step, probe]
    split <;> exact ⟨rfl, rfl⟩
  | recordMeanwhile k m =>
    refine .inl ⟨rfl, ?_⟩
    simp only [step, recordMeanwhile]
    split
    · next id reply op rest _ =>
      exact hrecorded { s with retiring := s.retiring.set k ⟨id, .asked reply rest⟩ } rfl m op
    · exact hkept ⟨rfl, rfl⟩
  | commit k =>
    refine .inl ⟨rfl, hkept ?_⟩
    simp only [step, commit]
    split
    · split
      · exact Recorder.keepsGroups_commit _ _ _
      · exact ⟨rfl, rfl⟩
    · exact ⟨rfl, rfl⟩
  | moveDevice d => exact .inl ⟨rfl, hkept ⟨rfl, rfl⟩⟩

theorem ranks_step (dev : Device δ) (s : SharedRecorder δ) (event : ThreadEvent δ)
    (hpos : 0 < s.recorder.capacity) : (s.step dev event).recorder.ranks =
      (event.assignment?.toList).foldl (fun t row => Table.set row.1 row.2 t) s.recorder.ranks := by
  rcases groups_step dev s event with ⟨hnone, hranks, _⟩ | ⟨group, ranks, rfl, hset⟩
  · rw [hranks, hnone]
    rfl
  · rw [hset, Recorder.setRanks, if_pos (by simpa [Recorder.isEnabled] using hpos)]
    rfl

/-- The ranks after a run are those set last for each group. -/
theorem ranks_run (dev : Device δ) {s : SharedRecorder δ} (hpos : 0 < s.recorder.capacity)
    (events : List (ThreadEvent δ)) : (s.run dev events).recorder.ranks =
      (events.filterMap ThreadEvent.assignment?).foldl (fun t row => Table.set row.1 row.2 t)
        s.recorder.ranks := by
  induction events generalizing s with
  | nil => rfl
  | cons event rest ih =>
    have hpos' : 0 < (s.step dev event).recorder.capacity := by rwa [step_capacity]
    have hrun : s.run dev (event :: rest) = (s.step dev event).run dev rest := rfl
    rw [hrun, ih hpos', ranks_step dev s event hpos]
    cases h : event.assignment? with
    | none => simp [h]
    | some row => simp [h]

/-- A disabled recorder has no ranks. -/
theorem ranks_step_disabled (dev : Device δ) (event : ThreadEvent δ)
    (h : s.recorder.capacity = 0) : (s.step dev event).recorder.ranks = s.recorder.ranks := by
  rcases groups_step dev s event with ⟨_, hranks, _⟩ | ⟨group, ranks, _, hset⟩
  · exact hranks
  · rw [hset, Recorder.setRanks, if_neg (by simp [Recorder.isEnabled, h])]

theorem ranks_start (dev : Device δ) (capacity : Nat) (captureStacks : Bool) (d : δ)
    (events : List (ThreadEvent δ)) :
    ((start capacity captureStacks d).run dev events).recorder.ranks =
      if 0 < capacity then Table.ofRows (events.filterMap ThreadEvent.assignment?) else [] := by
  split
  · next hpos => exact ranks_run dev hpos events
  · next hzero =>
    have hempty : ((start capacity captureStacks d).run dev events).recorder.capacity = 0 ∧
        ((start capacity captureStacks d).run dev events).recorder.ranks = [] := by
      refine run_induction (P := fun s => s.recorder.capacity = 0 ∧ s.recorder.ranks = [])
        ?_ ⟨?_, rfl⟩ events
      · intro s event ⟨hcapacity, hranks⟩
        rw [step_capacity, ranks_step_disabled dev event hcapacity]
        exact ⟨hcapacity, hranks⟩
      · exact Nat.eq_zero_of_not_pos hzero
    exact hempty.2

theorem ascending_ranks (dev : Device δ) (capacity : Nat) (captureStacks : Bool) (d : δ)
    (events : List (ThreadEvent δ)) :
    ((start capacity captureStacks d).run dev events).recorder.ranks.Ascending := by
  rw [ranks_start]
  split
  · exact Table.ascending_ofRows _
  · exact List.Pairwise.nil

theorem ascending_statuses (dev : Device δ) (capacity : Nat) (captureStacks : Bool) (d : δ)
    (events : List (ThreadEvent δ)) :
    ((start capacity captureStacks d).run dev events).recorder.statuses.Ascending := by
  have hempty : (start capacity captureStacks d).recorder.statuses.Ascending := List.Pairwise.nil
  refine run_induction (P := fun s => s.recorder.statuses.Ascending) ?_ hempty events
  intro s event h
  rcases groups_step dev s event with ⟨_, _, hkept | ⟨id, status, hset⟩⟩ | ⟨_, _, _, hset⟩
  · rw [hkept]
    exact h
  · rw [hset]
    exact h.alter id _
  · rw [hset, Recorder.setRanks]
    split <;> exact h

/-- The groups with ranks are those for which ranks were set. -/
theorem mem_ranks_iff (dev : Device δ) (capacity : Nat) (captureStacks : Bool) (d : δ)
    (events : List (ThreadEvent δ)) (group : GroupName) :
    group ∈ ((start capacity captureStacks d).run dev events).recorder.ranks.map Prod.fst ↔
      0 < capacity ∧ ∃ ranks, .setRanks group ranks ∈ events := by
  rw [ranks_start]
  split
  · next hpos =>
    rw [Table.mem_keys_ofRows]
    have hevent (event : ThreadEvent δ) (ranks : List UInt64) :
        event.assignment? = some (group, ranks) ↔ event = .setRanks group ranks := by
      cases event <;> simp [ThreadEvent.assignment?]
    simp [hpos, hevent]
  · next hzero => simp [hzero]

end SharedRecorder

end RankTrace
