import RankTrace.Proofs.Communicator.Life

/-!
# One abort

The calls of a communicator over its whole life: arbitrary use of the handle, one abort, and the
polls of that abort. No other call follows. A drop aborts a communicator that is initialized and was
not aborted before.

Reading the version or the last error of the library is no call.
-/

namespace RankTrace

namespace NativeCall

def Unended (raw : RawHandle) (calls : List NativeCall) : Prop :=
  ∀ call ∈ calls, call.comm? = some raw ∧ call.isAbort = false

/-- Calls about one handle up to its abort and the polls of the abort, the newest first. -/
def Ended (raw : RawHandle) (calls : List NativeCall) : Prop :=
  ∃ polls earlier, calls = .replicate polls (.asyncError raw) ++ .abort raw :: earlier ∧
    Unended raw earlier

variable {raw : RawHandle} {calls : List NativeCall}

theorem Unended.count (h : Unended raw calls) : calls.countP isAbort = 0 := by
  rw [List.countP_eq_zero]
  intro call hm
  simp [(h call hm).2]

theorem Ended.count (h : Ended raw calls) : calls.countP isAbort = 1 := by
  obtain ⟨polls, earlier, rfl, hearlier⟩ := h
  have hpolls : (List.replicate polls (asyncError raw)).countP isAbort = 0 := by
    rw [List.countP_eq_zero]
    intro call hm
    rw [List.eq_of_mem_replicate hm]
    simp [isAbort]
  rw [List.countP_append, List.countP_cons, hpolls, hearlier.count]
  rfl

theorem Unended.append {new : List NativeCall} (h : Unended raw calls) (hnew : Unended raw new) :
    Unended raw (new ++ calls) := by
  intro call hm
  rcases List.mem_append.mp hm with hm | hm
  · exact hnew call hm
  · exact h call hm

theorem unended_releases (raw : RawHandle) (segments : List (UInt64 × SegmentHandle)) :
    Unended raw (segments.map fun row => .deregisterSegment raw row.2).reverse := by
  intro call hm
  simp only [List.mem_reverse, List.mem_map] at hm
  obtain ⟨row, _, rfl⟩ := hm
  exact ⟨rfl, rfl⟩

end NativeCall

namespace SharedCommunicator

open Communicator (Uses Used Origin)
open NativeCall (Unended Ended)

variable {σ : Type} {raw : RawHandle} {s : SharedCommunicator σ}

/-- The calls so far tell whether the communicator is aborted. -/
def Traced (raw : RawHandle) (s : SharedCommunicator σ) : Prop :=
  (s.comm.aborted = false → Unended raw s.host.calls) ∧
    (s.comm.aborted = true → Ended raw s.host.calls)

namespace Coherent

/-- Only an abort event makes a native abort. -/
theorem aborted_step (h : s.Coherent raw) (lib : Library σ) (event : CommEvent σ) :
    (s.step lib event).comm.aborted = (s.comm.aborted || event.isAbort) := by
  rcases h.step_cases lib event with ⟨⟨_, hu, _⟩, hgone⟩ | ⟨hevent, _, reason, _, hcomm, _⟩
  · rw [hu.aborted_eq]
    cases hevent : event.isAbort with
    | false => exact (Bool.or_false _).symm
    | true => rw [hgone hevent, Bool.true_or]
  · rw [hcomm, hevent, Bool.or_true]
    rfl

theorem aborted_run (h : s.Coherent raw) (lib : Library σ) (events : List (CommEvent σ)) :
    (s.run lib events).comm.aborted = (s.comm.aborted || events.any CommEvent.isAbort) := by
  induction events generalizing s with
  | nil => exact (Bool.or_false _).symm
  | cons event rest ih =>
    have hrest := ih (h.step lib event)
    rw [h.aborted_step, Bool.or_assoc] at hrest
    exact hrest

theorem initialized_run (h : s.Coherent raw) (lib : Library σ) (events : List (CommEvent σ))
    (hi : s.comm.initialized = true) : (s.run lib events).comm.initialized = true := by
  induction events generalizing s with
  | nil => exact hi
  | cons event rest ih => exact ih (h.step lib event) ((h.step_keeps lib event).1 hi)

theorem calls_step_of_aborted (h : s.Coherent raw) (ha : s.comm.aborted = true) (lib : Library σ)
    (event : CommEvent σ) : (s.step lib event).host.calls = s.host.calls := by
  rcases h.step_cases lib event with ⟨⟨calls, hu, hcalls⟩, _⟩ | ⟨_, hlive, _⟩
  · rw [hcalls, hu.calls_of_aborted ha]
    rfl
  · rw [ha] at hlive
    cases hlive

theorem calls_run_of_aborted (h : s.Coherent raw) (ha : s.comm.aborted = true) (lib : Library σ)
    (events : List (CommEvent σ)) : (s.run lib events).host.calls = s.host.calls := by
  induction events generalizing s with
  | nil => rfl
  | cons event rest ih =>
    exact (ih (h.step lib event) ((h.step_keeps lib event).2.1 ha)).trans
      (h.calls_step_of_aborted ha lib event)

theorem traced_step (h : s.Coherent raw) (ht : s.Traced raw) (lib : Library σ)
    (event : CommEvent σ) : (s.step lib event).Traced raw := by
  cases ha : s.comm.aborted with
  | true =>
    have hend := (h.step_keeps lib event).2.1 ha
    refine ⟨fun hlive => ?_, fun _ => ?_⟩
    · rw [hend] at hlive
      cases hlive
    · rw [h.calls_step_of_aborted ha]
      exact ht.2 ha
  | false =>
    have hbefore := ht.1 ha
    rcases h.step_cases lib event with
      ⟨⟨calls, hu, hcalls⟩, _⟩ | ⟨_, _, reason, polls, hcomm, hcalls⟩
    · refine ⟨fun _ => ?_, fun hend => ?_⟩
      · rw [hcalls]
        exact hbefore.append fun call hm => ⟨(hu.of_mem hm).1, (hu.of_mem hm).2.1⟩
      · rw [hu.aborted_eq, ha] at hend
        cases hend
    · refine ⟨fun hlive => ?_, fun _ => ?_⟩
      · rw [hcomm] at hlive
        cases hlive
      · exact ⟨polls, _, hcalls, hbefore.append (NativeCall.unended_releases raw _)⟩

theorem traced_run (h : s.Coherent raw) (ht : s.Traced raw) (lib : Library σ)
    (events : List (CommEvent σ)) : (s.run lib events).Traced raw := by
  induction events generalizing s with
  | nil => exact ht
  | cons event rest ih => exact ih (h.step lib event) (h.traced_step ht lib event)

/-- A drop aborts iff the communicator is initialized and live. -/
theorem calls_drop (h : s.Coherent raw) (lib : Library σ) :
    (s.comm.drop lib s.host).2.calls =
      if s.comm.initialized = true ∧ s.comm.aborted = false then .abort raw :: s.host.calls
      else s.host.calls := by
  unfold Communicator.drop
  by_cases hdue : s.comm.initialized = true ∧ s.comm.aborted = false
  · rw [if_pos hdue]
    obtain ⟨hi, ha⟩ := hdue
    rw [if_neg (by simp [hi, ha]), h.comm.live ha]
    dsimp only
    split <;> rfl
  · rw [if_neg hdue, if_pos]
    cases hi : s.comm.initialized with
    | false => rfl
    | true => simpa [hi] using hdue

theorem drop_of_aborted (h : s.Coherent raw) (ha : s.comm.aborted = true) (lib : Library σ) :
    (s.comm.drop lib s.host).2.calls = s.host.calls := by
  rw [h.calls_drop, if_neg (by simp [ha])]

theorem ended_drop (h : s.Coherent raw) (ht : s.Traced raw) (lib : Library σ)
    (hdue : s.comm.initialized = true ∨ s.comm.aborted = true) :
    Ended raw (s.comm.drop lib s.host).2.calls := by
  cases ha : s.comm.aborted with
  | true =>
    rw [h.drop_of_aborted ha]
    exact ht.2 ha
  | false =>
    have hi : s.comm.initialized = true := hdue.resolve_right (by simp [ha])
    rw [h.calls_drop, if_pos ⟨hi, ha⟩]
    exact ⟨0, s.host.calls, rfl, ht.1 ha⟩

theorem unended_drop (h : s.Coherent raw) (ht : s.Traced raw) (lib : Library σ)
    (hdue : ¬ (s.comm.initialized = true ∨ s.comm.aborted = true)) :
    Unended raw (s.comm.drop lib s.host).2.calls := by
  rw [h.calls_drop, if_neg fun hi => hdue (.inl hi.1)]
  exact ht.1 (Bool.eq_false_iff.mpr fun ha => hdue (.inr ha))

theorem due_iff (h : s.Coherent raw) (ha : s.comm.aborted = false) (lib : Library σ)
    (events : List (CommEvent σ)) :
    ((∃ n, (s.run lib (events.take n)).comm.initialized = true) ∨
        events.any CommEvent.isAbort = true) ↔
      ((s.run lib events).comm.initialized = true ∨ (s.run lib events).comm.aborted = true) := by
  rw [h.aborted_run, ha, Bool.false_or]
  refine or_congr_left ⟨?_, fun hi => ⟨events.length, by rwa [List.take_length]⟩⟩
  rintro ⟨n, hn⟩
  have hrest := (h.run lib (events.take n)).initialized_run lib (events.drop n) hn
  rwa [← run_append, List.take_append_drop] at hrest

/-- An abort is made by an abort event only, and no call follows that event. -/
theorem last_abort (h : s.Coherent raw) (lib : Library σ) (event : CommEvent σ)
    (after : List (CommEvent σ))
    (hmore : s.host.calls.countP NativeCall.isAbort <
      (s.step lib event).host.calls.countP NativeCall.isAbort) :
    let last := (s.step lib event).run lib after
    event.isAbort = true ∧
      (last.comm.drop lib last.host).2.calls = (s.step lib event).host.calls := by
  have h' := h.step lib event
  rcases h.step_cases lib event with ⟨⟨calls, hu, hcalls⟩, _⟩ | ⟨hevent, _, reason, _, hcomm, _⟩
  · rw [hcalls, List.countP_append] at hmore
    have hnone : calls.countP NativeCall.isAbort = 0 :=
      NativeCall.Unended.count fun call hm => ⟨(hu.of_mem hm).1, (hu.of_mem hm).2.1⟩
    omega
  · have ha : (s.step lib event).comm.aborted = true := by
      rw [hcomm]
      rfl
    refine ⟨hevent, ?_⟩
    rw [(h'.run lib after).drop_of_aborted (by rw [h'.aborted_run, ha, Bool.true_or]),
      h'.calls_run_of_aborted ha]

/-- A step calls a split only in a state that is initialized and live. -/
theorem split_step (h : s.Coherent raw) (lib : Library σ) (event : CommEvent σ) :
    ∃ new, (s.step lib event).host.calls = new ++ s.host.calls ∧
      ∀ call ∈ new, call.isSplit = true → s.comm.initialized = true ∧ s.comm.aborted = false ∧
        call.comm? = s.comm.raw := by
  rcases h.step_cases lib event with ⟨⟨calls, hu, hcalls⟩, _⟩ | ⟨_, _, _, polls, _, hcalls⟩
  · refine ⟨calls, hcalls, fun call hm hsplit => ?_⟩
    obtain ⟨hcomm, _, hready⟩ := hu.of_mem hm
    obtain ⟨hi, ha⟩ := hready hsplit
    exact ⟨hi, ha, hcomm.trans (h.comm.live ha).symm⟩
  · rw [← List.cons_append, ← List.append_assoc] at hcalls
    refine ⟨_, hcalls, fun call hm hsplit => ?_⟩
    rcases List.mem_append.mp hm with hm | hm
    · rw [List.eq_of_mem_replicate hm] at hsplit
      cases hsplit
    · simp only [List.mem_cons, List.mem_reverse, List.mem_map] at hm
      rcases hm with rfl | ⟨row, _, rfl⟩ <;> cases hsplit

end Coherent

/-- For any library and any interleaving of users, followed by a drop: the handle is aborted exactly
once if it was initialized at any time or an abort was requested, and never otherwise. Every call
names this handle. Only the polls of a requested abort follow it, as the last calls; the abort of a
drop is the last call. A split is called only while the handle is initialized and live. -/
theorem native_abort_once {c : Communicator} (h : Origin raw c) (lib : Library σ) (host : Host σ)
    (events : List (CommEvent σ)) :
    let s := (start c host).run lib events
    let calls := (s.comm.drop lib s.host).2.calls
    let due := (∃ n, ((start c host).run lib (events.take n)).comm.initialized = true) ∨
      events.any CommEvent.isAbort = true
    (due → calls.countP NativeCall.isAbort = 1 ∧ Ended raw calls) ∧
    (¬ due → calls.countP NativeCall.isAbort = 0 ∧ Unended raw calls) ∧
    (calls = s.host.calls ∨ calls = .abort raw :: s.host.calls) ∧
    (∀ (event : CommEvent σ) (after : List (CommEvent σ)),
      let s' := s.step lib event
      let last := s'.run lib after
      s.host.calls.countP NativeCall.isAbort < s'.host.calls.countP NativeCall.isAbort →
        event.isAbort = true ∧ (last.comm.drop lib last.host).2.calls = s'.host.calls) ∧
    (∀ event : CommEvent σ, ∃ new, (s.step lib event).host.calls = new ++ s.host.calls ∧
      ∀ call ∈ new, call.isSplit = true → s.comm.initialized = true ∧ s.comm.aborted = false ∧
        call.comm? = s.comm.raw) ∧
    (∀ operations, ∃ more : List (CommEvent σ),
      more.any CommEvent.isAbort = operations.any CommOperation.isAbort ∧
      ((s.run lib more).comm, (s.run lib more).host) =
        CommOperation.applyAll lib operations s.comm s.host) := by
  intro s calls due
  have hstart : (start c host).Coherent raw := coherent_start h host
  have hlive : (start c host).comm.aborted = false := by
    obtain ⟨settings, uniqueId, commId, rank, rfl⟩ := h.eq_fresh
    rfl
  have htraced : (start c host).Traced raw :=
    ⟨fun _ _ hm => (List.not_mem_nil hm).elim, fun ha => absurd ha (by simp [hlive])⟩
  have hs : s.Coherent raw := hstart.run lib events
  have ht : s.Traced raw := hstart.traced_run htraced lib events
  have hdue : due ↔ s.comm.initialized = true ∨ s.comm.aborted = true :=
    hstart.due_iff hlive lib events
  refine ⟨?_, ?_, ?_, fun event after => hs.last_abort lib event after, hs.split_step lib,
    s.run_operations lib⟩
  · intro hd
    have hended := hs.ended_drop ht lib (hdue.mp hd)
    exact ⟨hended.count, hended⟩
  · intro hd
    have hunended := hs.unended_drop ht lib fun hd' => hd (hdue.mpr hd')
    exact ⟨hunended.count, hunended⟩
  · show (s.comm.drop lib s.host).2.calls = _ ∨ (s.comm.drop lib s.host).2.calls = _
    rw [hs.calls_drop]
    split
    · exact .inr rfl
    · exact .inl rfl

end SharedCommunicator

/-- An abort during a wait; the drop makes no second one. -/
theorem abandonedWait_aborted_once :
    Communicator.Origin ⟨0x1000⟩ pendingCommunicator ∧
    abandonedWait.any CommEvent.isAbort = true ∧
    let s := (SharedCommunicator.start pendingCommunicator pendingHost).run Scripted.library
      abandonedWait
    (s.comm.drop Scripted.library s.host).2.calls.countP NativeCall.isAbort = 1 := by
  obtain ⟨hdue, _⟩ := SharedCommunicator.native_abort_once origin_pendingCommunicator
    Scripted.library pendingHost abandonedWait
  exact ⟨origin_pendingCommunicator, rfl, (hdue (.inr rfl)).1⟩

end RankTrace
