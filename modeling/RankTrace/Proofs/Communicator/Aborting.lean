import RankTrace.Proofs.Communicator.Polling
import RankTrace.Proofs.Communicator.Release

/-!
# The end of an abort

For any library and any order of the segments, an abort leads to one state of the communicator. Only
the answer depends on the library, which may refuse the abort, accept it, or not complete it before
the deadline.
-/

namespace RankTrace

theorem Status.isFailure_iff (status : Status) :
    status.isFailure = true ↔ status ≠ .success ∧ status ≠ .inProgress := by
  simp [isFailure, isSuccess, isInProgress]

namespace Communicator

variable {σ : Type} {lib : Library σ} {raw : RawHandle} {c : Communicator} {host : Host σ}

/-- How an abort ends after the library has answered the native abort: refused, accepted for good,
or polled until another answer than progress has come or the time is over. -/
inductive AbortEnds (lib : Library σ) (raw : RawHandle) (c : Communicator)
    (called : Status × Host σ) :
    Except CommError Unit → Host σ → Prop
  | refused {host' : Host σ} (refusal : called.1.isFailure = true) (version detail : String)
      (calls : host'.calls = called.2.calls) :
      AbortEnds lib raw c called (.error (.native .abort called.1 version detail)) host'
  | accepted {host' : Host σ} (acceptance : called.1.isFailure = false)
      (blocking : c.settings.nonblocking = false) (calls : host'.calls = called.2.calls) :
      AbortEnds lib raw c called (.ok ()) host'
  | finished {host' : Host σ} (acceptance : called.1.isFailure = false)
      (nonblocking : c.settings.nonblocking = true) {k : Nat}
      (stops : StopsAt lib raw c.settings.initTimeout called.2 k host')
      (other : pollAnswer lib raw c.settings.initTimeout called.2 k ≠ .ok .inProgress) :
      AbortEnds lib raw c called (.ok ()) host'
  | expired {host' : Host σ} (acceptance : called.1.isFailure = false)
      (nonblocking : c.settings.nonblocking = true) {k : Nat}
      (stops : StopsAt lib raw c.settings.initTimeout called.2 k host')
      (last : pollAnswer lib raw c.settings.initTimeout called.2 k = .ok .inProgress) :
      AbortEnds lib raw c called
        (.error (.timeout .abort c.settings.initTimeout c.settings.initTimeout)) host'

theorem abort_ends (hlive : c.liveHandle? = some raw) (lib : Library σ) (reason : Option String)
    (host : Host σ) :
    let r := c.abort lib reason host
    r.2.1 = c.afterAbort reason ∧ AbortEnds lib raw c (c.abortCall lib raw host) r.1 r.2.2 := by
  show (c.abort lib reason host).2.1 = _ ∧ AbortEnds lib raw c (c.abortCall lib raw host)
    (c.abort lib reason host).1 (c.abort lib reason host).2.2
  by_cases hrefused : (c.abortCall lib raw host).1.isFailure = true
  · obtain ⟨event, hr⟩ := abort_eq hlive lib reason host
    rw [if_pos hrefused] at hr
    rw [hr]
    exact ⟨rfl, .refused hrefused _ _ rfl⟩
  have haccepted := Bool.eq_false_iff.mpr hrefused
  by_cases hn : c.settings.nonblocking = true
  · obtain ⟨event, hr⟩ := abort_polls hlive hn haccepted reason
    obtain ⟨k, hstops, hexpired, hanswered⟩ := waitForAbort_stops lib raw c.settings.initTimeout
      (c.abortCall lib raw host).2
    rw [hr]
    refine ⟨rfl, ?_⟩
    by_cases hlast : pollAnswer lib raw c.settings.initTimeout (c.abortCall lib raw host).2 k =
        .ok .inProgress
    · rw [hexpired hlast]
      exact .expired haccepted hn (hstops.emit event) hlast
    · rw [hanswered hlast]
      exact .finished haccepted hn (hstops.emit event) hlast
  · obtain ⟨event, hr⟩ := abort_eq hlive lib reason host
    rw [if_neg hrefused, if_neg hn] at hr
    rw [hr]
    exact ⟨rfl, .accepted haccepted (Bool.eq_false_iff.mpr hn) rfl⟩

namespace AbortEnds

variable {called : Status × Host σ} {result : Except CommError Unit} {host' : Host σ}

theorem calls_eq (h : AbortEnds lib raw c called result host') :
    ∃ polls ≤ lastPoll c.settings.initTimeout + 1,
      host'.calls = .replicate polls (.asyncError raw) ++ called.2.calls := by
  cases h with
  | refused _ _ _ hcalls => exact ⟨0, Nat.zero_le _, hcalls⟩
  | accepted _ _ hcalls => exact ⟨0, Nat.zero_le _, hcalls⟩
  | finished _ _ hstops => exact ⟨_, Nat.succ_le_succ hstops.bounded, hstops.calls⟩
  | expired _ _ hstops => exact ⟨_, Nat.succ_le_succ hstops.bounded, hstops.calls⟩

theorem native_iff (h : AbortEnds lib raw c called result host') :
    (∃ operation status version detail,
      result = .error (.native operation status version detail)) ↔ called.1.isFailure = true := by
  cases h with
  | refused hrefused => exact ⟨fun _ => hrefused, fun _ => ⟨_, _, _, _, rfl⟩⟩
  | accepted haccepted | finished haccepted | expired haccepted =>
    rw [haccepted]
    constructor
    · rintro ⟨_, _, _, _, hresult⟩
      cases hresult
    · exact nofun

theorem timeout_iff (h : AbortEnds lib raw c called result host') :
    (∃ e, result = .error e ∧ e.isTimeout = true) ↔
      c.settings.nonblocking = true ∧ called.1.isFailure = false ∧
        ∀ j ≤ lastPoll c.settings.initTimeout,
          pollAnswer lib raw c.settings.initTimeout called.2 j = .ok .inProgress := by
  constructor
  · rintro ⟨e, rfl, htimeout⟩
    cases h with
    | refused => cases htimeout
    | expired haccepted hn hstops hlast => exact ⟨hn, haccepted, hstops.expired_iff.mp hlast⟩
  · rintro ⟨hn, haccepted, hall⟩
    cases h with
    | refused hrefused =>
      rw [haccepted] at hrefused
      cases hrefused
    | accepted _ hblocking =>
      rw [hn] at hblocking
      cases hblocking
    | finished _ _ hstops hother => exact absurd (hstops.expired_iff.mpr hall) hother
    | expired => exact ⟨_, rfl, rfl⟩

end AbortEnds

theorem afterAbort_eq (c : Communicator) (reason : Option String) :
    c.afterAbort reason = { c with
      aborted := true
      raw := none
      segments := []
      failureReason := reason <|> c.failureReason
      asyncError := if c.asyncError = .success ∨ c.asyncError = .inProgress then .systemError
        else c.asyncError } := by
  unfold afterAbort
  by_cases hf : c.asyncError.isFailure = true
  · obtain ⟨hsuccess, hprogress⟩ := (Status.isFailure_iff _).mp hf
    rw [if_pos hf, if_neg (not_or.mpr ⟨hsuccess, hprogress⟩)]
  · have hwell : c.asyncError = .success ∨ c.asyncError = .inProgress := by
      rw [Status.isFailure_iff] at hf
      by_contra hother
      exact hf (not_or.mp hother)
    rw [if_neg hf, if_pos hwell]

theorem abort_of_aborted (ha : c.aborted = true) (lib : Library σ) (reason : Option String)
    (host : Host σ) : c.abort lib reason host = (.ok (), c, host) := by
  unfold abort
  rw [if_pos ha]

end Communicator

namespace SharedCommunicator

open Communicator (Origin AbortEnds abort_ends abort_of_aborted afterAbort_eq lastPoll pollAnswer)

variable {σ : Type} {raw : RawHandle}

/-- Aborting a reachable communicator that is live, for any library and any order of its segments.
The calls are one release for every segment, one native abort, and at most the polls up to the
deadline. The state afterwards is a function of the state before and the reason. The error is native
iff the native abort was refused, and a timeout iff the abort is nonblocking and no poll up to the
deadline ends it. A second abort answers `ok` without a call or a change. -/
theorem abort_is_final {c₀ : Communicator} (h : Origin raw c₀) (earlier : Library σ)
    (host₀ : Host σ) (events : List (CommEvent σ))
    (hlive : ((start c₀ host₀).run earlier events).comm.aborted = false)
    (segments : List (UInt64 × SegmentHandle))
    (horder : segments.Perm ((start c₀ host₀).run earlier events).comm.segments)
    (lib : Library σ) (reason : Option String) (host : Host σ) :
    let c := ((start c₀ host₀).run earlier events).comm
    let drained : Communicator := { c with segments }
    let limit := c.settings.initTimeout
    let called := drained.abortCall lib raw host
    let r := drained.abort lib reason host
    r.2.1 = { c with
      aborted := true
      raw := none
      segments := []
      failureReason := reason <|> c.failureReason
      asyncError := if c.asyncError = .success ∨ c.asyncError = .inProgress then .systemError
        else c.asyncError } ∧
    (∃ releases, releases.Perm (c.segments.map fun row => .deregisterSegment raw row.2) ∧
      ∃ polls ≤ lastPoll limit + 1, r.2.2.calls =
        .replicate polls (.asyncError raw) ++ .abort raw :: (releases ++ host.calls)) ∧
    AbortEnds lib raw drained called r.1 r.2.2 ∧
    ((∃ operation status version detail, r.1 = .error (.native operation status version detail)) ↔
      called.1 ≠ .success ∧ called.1 ≠ .inProgress) ∧
    ((∃ e, r.1 = .error e ∧ e.isTimeout = true) ↔
      c.settings.nonblocking = true ∧ (called.1 = .success ∨ called.1 = .inProgress) ∧
        ∀ j ≤ lastPoll limit, pollAnswer lib raw limit called.2 j = .ok .inProgress) ∧
    ∀ (again : Library σ) (reason' : Option String) (host' : Host σ),
      r.2.1.abort again reason' host' = (.ok (), r.2.1, host') := by
  intro c drained limit called r
  have hc : c.Coherent raw := ((coherent_start h host₀).run earlier events).comm
  have hhandle : drained.liveHandle? = some raw := by
    rcases hc.gone_or_live with ⟨hgone, _⟩ | ⟨_, hl⟩
    · rw [show c.aborted = false from hlive] at hgone
      cases hgone
    · exact hl
  obtain ⟨hcomm, hends⟩ := abort_ends hhandle lib reason host
  refine ⟨hcomm.trans (afterAbort_eq drained reason), ?_, hends, ?_, ?_, ?_⟩
  · obtain ⟨polls, hbound, hpolls⟩ := hends.calls_eq
    refine ⟨(segments.map fun row => .deregisterSegment raw row.2).reverse, ?_, polls, hbound, ?_⟩
    · exact (List.reverse_perm _).trans (horder.map _)
    · rw [hpolls, Communicator.abortCall, Host.call_calls, Communicator.calls_releaseSegments]
  · rw [hends.native_iff, Status.isFailure_iff]
  · have haccepted : called.1.isFailure = false ↔ called.1 = .success ∨ called.1 = .inProgress := by
      rw [← Bool.not_eq_true, Status.isFailure_iff, ← not_or, not_not]
    rw [hends.timeout_iff, haccepted]
  · intro again reason' host'
    refine abort_of_aborted ?_ again reason' host'
    rw [hcomm]
    rfl

end SharedCommunicator

def refusingHost : Host Scripted where
  library := { forced := { deregister := some .internalError }, abortResult := .remoteError,
               comms := [(0x1000, {})] }
  clock := ⟨0, 0⟩

/-- A refused abort leaves the state of any other abort. -/
theorem refusedAbort_final :
    let events : List (CommEvent Scripted) := [.register 0x2000 64, .register 0x3000 64]
    let s := (SharedCommunicator.start createdCommunicator createdHost).run Scripted.library events
    let r := s.comm.abort Scripted.library none refusingHost
    s.comm.aborted = false ∧ s.comm.segments.length = 2 ∧
    (∃ operation status version detail,
      r.1 = .error (.native operation status version detail)) ∧
    r.2.1.segments = [] ∧ r.2.1.asyncError = .systemError ∧
    r.2.1.abort Scripted.library (some "again") r.2.2 = (.ok (), r.2.1, r.2.2) := by
  intro events s r
  have hlive : s.comm.aborted = false := rfl
  obtain ⟨hcomm, _, _, hnative, _, hagain⟩ := SharedCommunicator.abort_is_final
    origin_createdCommunicator Scripted.library createdHost events hlive s.comm.segments (.refl _)
    Scripted.library none refusingHost
  refine ⟨hlive, rfl, hnative.mpr ⟨nofun, nofun⟩, ?_, ?_, hagain _ _ _⟩
  · exact congrArg (·.segments) hcomm
  · exact congrArg (·.asyncError) hcomm

end RankTrace
