import Mathlib.Data.List.Nodup
import RankTrace.Proofs.Communicator.AbortOnce

/-!
# Segments at the end of a communicator

An abort releases every segment before the native abort. A drop makes the native abort only, so
segments that are registered at that time are not released.
-/

namespace RankTrace

namespace NativeCall

/-- A release of the segment was asked for before any abort of the handle. Newest calls first. -/
def ReleasedFirst (raw : RawHandle) (segment : SegmentHandle) (calls : List NativeCall) : Prop :=
  ∀ earlier, .abort raw :: earlier <:+ calls → .deregisterSegment raw segment ∈ earlier

variable {raw : RawHandle} {segment : SegmentHandle} {calls new : List NativeCall}

theorem releasedFirst_nil : ReleasedFirst raw segment [] := by
  intro earlier h
  cases List.suffix_nil.mp h

theorem ReleasedFirst.append (h : ReleasedFirst raw segment calls)
    (hnew : ∀ call ∈ new, call.isAbort = false) : ReleasedFirst raw segment (new ++ calls) := by
  induction new with
  | nil => exact h
  | cons call rest ih =>
    intro earlier hsuffix
    rw [List.cons_append, List.suffix_cons_iff] at hsuffix
    rcases hsuffix with heq | hrest
    · have hcall := hnew call List.mem_cons_self
      rw [← (List.cons.inj heq).1] at hcall
      cases hcall
    · exact ih (fun call hm => hnew call (List.mem_cons_of_mem _ hm)) earlier hrest

theorem ReleasedFirst.abort (h : ReleasedFirst raw segment calls)
    (hreleased : .deregisterSegment raw segment ∈ calls) :
    ReleasedFirst raw segment (.abort raw :: calls) := by
  intro earlier hsuffix
  rw [List.suffix_cons_iff] at hsuffix
  rcases hsuffix with heq | hrest
  · rw [(List.cons.inj heq).2]
    exact hreleased
  · exact h earlier hrest

end NativeCall

namespace SharedCommunicator

open Communicator (Origin)
open NativeCall (ReleasedFirst)

variable {σ : Type} {raw : RawHandle} {s : SharedCommunicator σ}

/-- A step other than an abort leaves the table of segments unchanged, adds a row under a new
pointer, or removes a row whose release it has asked for. -/
theorem Coherent.segments_step (h : s.Coherent raw) (lib : Library σ) {event : CommEvent σ}
    (hevent : event.isAbort = false) :
    (s.step lib event).comm.segments = s.comm.segments ∨
    (∃ ptr segment, s.comm.segments.lookup ptr = none ∧
      (s.step lib event).comm.segments = s.comm.segments ++ [(ptr, segment)]) ∨
    ∃ ptr segment, s.comm.segments.lookup ptr = some segment ∧
      (s.step lib event).comm.segments = s.comm.segments.filter (·.1 != ptr) ∧
      (s.step lib event).host.calls = .deregisterSegment raw segment :: s.host.calls := by
  cases event with
  | enter | dump | explain | moveLibrary | moveClock => exact .inl rfl
  | poll k elapsed =>
    refine .inl ?_
    have hpoll := Communicator.pollInit_segments lib elapsed s.comm s.host
    simp only [SharedCommunicator.step, SharedCommunicator.poll]
    split
    · split <;> next hp =>
        rw [hp] at hpoll
        exact hpoll
    · rfl
  | giveUp k elapsed limit =>
    exact .inl (by rw [SharedCommunicator.step, (h.giveUp k elapsed limit).1])
  | look k => exact .inl (by rw [SharedCommunicator.step, (h.look k).1])
  | divide k =>
    refine .inl ?_
    simp only [SharedCommunicator.step, SharedCommunicator.divide]
    split <;> rfl
  | adopt k =>
    refine .inl ?_
    simp only [SharedCommunicator.step, SharedCommunicator.adopt]
    split <;> rfl
  | abort reason => cases hevent
  | check => exact .inl (Communicator.checkForError_segments lib s.comm s.host)
  | register ptr size =>
    rcases h.comm.register_cases lib ptr size s.host with ⟨_, heq, _⟩ | ⟨segment, _, hnew, heq, _⟩
    · exact .inl (congrArg (·.segments) heq)
    · exact .inr (.inl ⟨ptr, segment, hnew, congrArg (·.segments) heq⟩)
  | deregister ptr =>
    rcases h.comm.deregister_cases lib ptr s.host with
      ⟨heq, _⟩ | ⟨segment, hsegment, _, heq, hcalls, _⟩
    · exact .inl (congrArg (·.segments) heq)
    · exact .inr (.inr ⟨ptr, segment, hsegment, congrArg (·.segments) heq, hcalls⟩)

/-- Pointers in the table are distinct. -/
theorem Coherent.nodup_step (h : s.Coherent raw) (hkeys : (s.comm.segments.map Prod.fst).Nodup)
    (lib : Library σ) (event : CommEvent σ) :
    ((s.step lib event).comm.segments.map Prod.fst).Nodup := by
  cases hevent : event.isAbort with
  | true =>
    rcases h.step_cases lib event with ⟨_, hgone⟩ | ⟨_, _, reason, _, hcomm, _⟩
    · have ha := (h.step_keeps lib event).2.1 (hgone hevent)
      rw [(h.step lib event).comm.segments ha]
      exact List.nodup_nil
    · rw [hcomm]
      exact List.nodup_nil
  | false =>
    rcases h.segments_step lib hevent with heq | ⟨ptr, segment, hnew, heq⟩ | ⟨ptr, _, _, heq, _⟩
    · rwa [heq]
    · rw [heq, List.map_append, List.nodup_append]
      refine ⟨hkeys, List.nodup_singleton _, ?_⟩
      intro key hkey other hother hsame
      obtain ⟨row, hrow, rfl⟩ := List.mem_map.mp hkey
      rw [List.mem_singleton.mp hother] at hsame
      have hne : ptr ≠ row.1 := by simpa using List.lookup_eq_none_iff.mp hnew row hrow
      exact hne hsame.symm
    · rw [heq]
      exact hkeys.sublist ((List.filter_sublist).map _)

/-- Since its registration a segment of a live communicator is in the table or its release was asked
for, and no abort precedes the release. -/
structure Follows (s : SharedCommunicator σ) (raw : RawHandle) (ptr : UInt64)
    (segment : SegmentHandle) (since : List NativeCall) : Prop where
  released : ReleasedFirst raw segment since
  held : s.comm.aborted = false →
    (ptr, segment) ∈ s.comm.segments ∨ .deregisterSegment raw segment ∈ since

theorem Coherent.follows_step (h : s.Coherent raw) (hkeys : (s.comm.segments.map Prod.fst).Nodup)
    {ptr : UInt64} {segment : SegmentHandle} {since : List NativeCall}
    (hfollows : s.Follows raw ptr segment since) (lib : Library σ) (event : CommEvent σ) :
    ∃ new, (s.step lib event).host.calls = new ++ s.host.calls ∧
      (s.step lib event).Follows raw ptr segment (new ++ since) := by
  rcases h.step_cases lib event with
    ⟨⟨calls, hu, hcalls⟩, hgone⟩ | ⟨_, ha, reason, polls, hcomm, hcalls⟩
  · refine ⟨calls, hcalls, hfollows.released.append fun call hm => (hu.of_mem hm).2.1, ?_⟩
    intro hlive
    have ha : s.comm.aborted = false := by rwa [hu.aborted_eq] at hlive
    have hevent : event.isAbort = false := by
      by_contra habort
      rw [hgone (by simpa using habort)] at ha
      cases ha
    rcases hfollows.held ha with hrow | hreleased
    case inr => exact .inr (List.mem_append_right _ hreleased)
    rcases h.segments_step lib hevent with
      heq | ⟨_, _, _, heq⟩ | ⟨other, segment', hlookup, heq, hcall⟩
    · rw [heq]
      exact .inl hrow
    · rw [heq]
      exact .inl (List.mem_append_left _ hrow)
    · by_cases hptr : ptr = other
      · -- the row of this pointer is taken out, and it is the only one
        subst hptr
        have hrow' : (ptr, segment') ∈ s.comm.segments := Table.mem_of_lookup hlookup
        obtain rfl : segment = segment' :=
          (Prod.mk.inj (List.inj_on_of_nodup_map hkeys hrow hrow' rfl)).2
        have hnew : calls = [.deregisterSegment raw segment] :=
          List.append_cancel_right (hcalls.symm.trans hcall)
        rw [hnew]
        exact .inr List.mem_cons_self
      · rw [heq]
        exact .inl (List.mem_filter.mpr ⟨hrow, by simpa using hptr⟩)
  · let releases : List NativeCall :=
      (s.comm.segments.map fun row => .deregisterSegment raw row.2).reverse
    have hreleases : ∀ call ∈ releases, call.isAbort = false := fun call hm =>
      (NativeCall.unended_releases raw s.comm.segments call hm).2
    have hreleased : .deregisterSegment raw segment ∈ releases ++ since := by
      rcases hfollows.held ha with hrow | hreleased
      · exact List.mem_append_left _ (List.mem_reverse.mpr (List.mem_map_of_mem hrow))
      · exact List.mem_append_right _ hreleased
    have hpolls : ∀ call ∈ List.replicate polls (NativeCall.asyncError raw),
        call.isAbort = false := by
      intro call hm
      rw [List.eq_of_mem_replicate hm]
      rfl
    refine ⟨.replicate polls (.asyncError raw) ++ .abort raw :: releases, ?_, ?_, ?_⟩
    · rw [hcalls, List.append_assoc, List.cons_append]
    · rw [List.append_assoc, List.cons_append]
      exact ((hfollows.released.append hreleases).abort hreleased).append hpolls
    · intro hlive
      rw [hcomm] at hlive
      cases hlive

theorem Coherent.follows_run (h : s.Coherent raw) (hkeys : (s.comm.segments.map Prod.fst).Nodup)
    {ptr : UInt64} {segment : SegmentHandle} {since : List NativeCall}
    (hfollows : s.Follows raw ptr segment since) (lib : Library σ) (events : List (CommEvent σ)) :
    ∃ new, (s.run lib events).host.calls = new ++ s.host.calls ∧
      (s.run lib events).Follows raw ptr segment (new ++ since) := by
  induction events generalizing s since with
  | nil => exact ⟨[], rfl, hfollows⟩
  | cons event rest ih =>
    obtain ⟨first, hfirst, hstep⟩ := h.follows_step hkeys hfollows lib event
    obtain ⟨later, hlater, hrun⟩ := ih (h.step lib event) (h.nodup_step hkeys lib event) hstep
    refine ⟨later ++ first, ?_, ?_⟩
    · rw [List.append_assoc, ← hfirst]
      exact hlater
    · rw [List.append_assoc]
      exact hrun

theorem Coherent.nodup_run (h : s.Coherent raw) (hkeys : (s.comm.segments.map Prod.fst).Nodup)
    (lib : Library σ) (events : List (CommEvent σ)) :
    ((s.run lib events).comm.segments.map Prod.fst).Nodup := by
  induction events generalizing s with
  | nil => exact hkeys
  | cons event rest ih => exact ih (h.step lib event) (h.nodup_step hkeys lib event)

/-- A segment that was registered at some time, for any library and any interleaving of users after
that. Its release precedes every requested abort. A drop makes no call but the abort: its release
has been asked for by then, or the segment is still in the table and is not released. -/
theorem released_before_abort {c : Communicator} (h : Origin raw c) (lib : Library σ)
    (host : Host σ) (before after : List (CommEvent σ)) (ptr size : UInt64)
    (segment : SegmentHandle)
    (hregistered : let s := (start c host).run lib before
      (s.comm.register lib ptr size s.host).1 = .ok () ∧
        (lib.answer (.registerSegment raw ptr size) s.host.library).1 = .ok segment) :
    let s := ((start c host).run lib before).step lib (.register ptr size)
    let last := s.run lib after
    ∃ since, last.host.calls = since ++ s.host.calls ∧ ReleasedFirst raw segment since ∧
      (last.comm.aborted = false →
        (ptr, segment) ∈ last.comm.segments ∨ .deregisterSegment raw segment ∈ since) ∧
      (last.comm.drop lib last.host).2.calls =
        (if last.comm.initialized = true ∧ last.comm.aborted = false then [.abort raw] else []) ++
          (since ++ s.host.calls) := by
  intro s last
  obtain ⟨hok, hanswer⟩ := hregistered
  let s₀ := (start c host).run lib before
  have hstart : (start c host).Coherent raw := coherent_start h host
  have hfresh : ((start c host).comm.segments.map Prod.fst).Nodup := by
    obtain ⟨settings, uniqueId, commId, rank, rfl⟩ := h.eq_fresh
    exact List.nodup_nil
  have hs₀ : s₀.Coherent raw := hstart.run lib before
  have hkeys₀ := hstart.nodup_run hfresh lib before
  have hs : s.Coherent raw := hs₀.step lib _
  have hkeys : (s.comm.segments.map Prod.fst).Nodup := hs₀.nodup_step hkeys₀ lib _
  have hrow : (ptr, segment) ∈ s.comm.segments := by
    rcases hs₀.comm.register_cases lib ptr size s₀.host with
      ⟨hfailed, _⟩ | ⟨x, hx, _, heq, _⟩
    · exact absurd hok hfailed
    · rw [hx] at hanswer
      cases hanswer
      have hsegments : s.comm.segments = s₀.comm.segments ++ [(ptr, segment)] :=
        congrArg (·.segments) heq
      rw [hsegments]
      exact List.mem_append_right _ List.mem_cons_self
  have hfollows : s.Follows raw ptr segment [] :=
    ⟨NativeCall.releasedFirst_nil, fun _ => .inl hrow⟩
  obtain ⟨since, hcalls, hreleased, hheld⟩ := hs.follows_run hkeys hfollows lib after
  rw [List.append_nil] at hreleased hheld
  refine ⟨since, hcalls, hreleased, hheld, ?_⟩
  rw [(hs.run lib after).calls_drop, ← hcalls]
  split <;> rfl

end SharedCommunicator

def createdCommunicator : Communicator :=
  .fresh .blocking (some (.ofNat 1)) (UniqueId.ofNat 1).text 0 ⟨0x1000⟩

def createdHost : Host Scripted :=
  (Communicator.create Scripted.library .blocking 1 0 (.ofNat 1) {}
    { library := {}, clock := ⟨0, 0⟩ }).2

theorem origin_createdCommunicator : Communicator.Origin ⟨0x1000⟩ createdCommunicator :=
  .created Scripted.library .blocking 1 0 (.ofNat 1) {} { library := {}, clock := ⟨0, 0⟩ } _ rfl rfl

/-- A requested abort with a segment in the table. -/
theorem abortedWithSegment_released :
    let s := (SharedCommunicator.start createdCommunicator createdHost).run Scripted.library
      [.register 0x2000 64]
    let last := s.run Scripted.library [.abort none]
    ∃ since, last.host.calls = since ++ s.host.calls ∧ .abort ⟨0x1000⟩ ∈ since ∧
      NativeCall.ReleasedFirst ⟨0x1000⟩ ⟨0x2000 ^^^ Scripted.segmentMask⟩ since := by
  intro s last
  obtain ⟨since, hcalls, hreleased, _⟩ := SharedCommunicator.released_before_abort
    origin_createdCommunicator Scripted.library createdHost [] [.abort none] 0x2000 64
    ⟨0x2000 ^^^ Scripted.segmentMask⟩ ⟨rfl, rfl⟩
  have hsince : since =
      [.abort ⟨0x1000⟩, .deregisterSegment ⟨0x1000⟩ ⟨0x2000 ^^^ Scripted.segmentMask⟩] :=
    List.append_cancel_right (hcalls.symm.trans rfl)
  refine ⟨since, hcalls, ?_, hreleased⟩
  rw [hsince]
  exact List.mem_cons_self

/-- A drop with a segment in the table makes no call for its release. -/
theorem droppedWithSegment_unreleased :
    let s := (SharedCommunicator.start createdCommunicator createdHost).run Scripted.library
      [.register 0x2000 64]
    let calls := (s.comm.drop Scripted.library s.host).2.calls
    s.comm.segments = [(0x2000, ⟨0x2000 ^^^ Scripted.segmentMask⟩)] ∧
    calls = [.abort ⟨0x1000⟩, .registerSegment ⟨0x1000⟩ 0x2000 64] ∧
    ¬ NativeCall.ReleasedFirst ⟨0x1000⟩ ⟨0x2000 ^^^ Scripted.segmentMask⟩ calls := by
  refine ⟨rfl, rfl, fun h => ?_⟩
  have hreleased := h [.registerSegment ⟨0x1000⟩ 0x2000 64] List.suffix_rfl
  cases hreleased with
  | tail _ hm => cases hm

end RankTrace
