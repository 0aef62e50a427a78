import Mathlib.Algebra.Order.Floor.Div
import RankTrace.Proofs.Communicator.Life

/-!
# When a communicator is polled

A wait for an initialization and the polling after an abort ask the library at the same times: at
once, then at every interval, and for the last time when the deadline is reached. The first answer
other than progress settles them, and without one they run out at that last poll.

Time passes in pauses only. How long a loop has been going is read off the monotonic clock.
-/

namespace RankTrace.Communicator

variable {σ : Type} {lib : Library σ} {raw : RawHandle} {limit : Duration} {host : Host σ}
  {c : Communicator}

/-- Number of the poll at the deadline, from zero. -/
def lastPoll (limit : Duration) : Nat := limit.ns ⌈/⌉ pollInterval.ns

/-- Time from the beginning to a poll. -/
def pollTime (limit : Duration) (j : Nat) : Duration := ⟨min (j * pollInterval.ns) limit.ns⟩

/-- The host as a poll finds it when all polls before it were followed by a pause. -/
def atPoll (lib : Library σ) (raw : RawHandle) (limit : Duration) (host : Host σ) : Nat → Host σ
  | 0 => host
  | j + 1 =>
    let h := atPoll lib raw limit host j
    let elapsed : Duration := ⟨h.clock.monotonic - host.clock.monotonic⟩
    (h.call lib (.asyncError raw)).2.sleep (pause elapsed limit)

def afterPoll (lib : Library σ) (raw : RawHandle) (limit : Duration) (host : Host σ) (j : Nat) :
    Host σ :=
  ((atPoll lib raw limit host j).call lib (.asyncError raw)).2

def pollAnswer (lib : Library σ) (raw : RawHandle) (limit : Duration) (host : Host σ) (j : Nat) :
    Except Status Status :=
  (lib.answer (.asyncError raw) (atPoll lib raw limit host j).library).1

theorem pollInterval_pos : 0 < pollInterval.ns := by decide

theorem pollTime_le (limit : Duration) (j : Nat) : (pollTime limit j).ns ≤ limit.ns :=
  Nat.min_le_right _ _

theorem pollTime_lt_iff (limit : Duration) (j : Nat) :
    (pollTime limit j).ns < limit.ns ↔ j < lastPoll limit := by
  have hlast : lastPoll limit ≤ j ↔ limit.ns ≤ pollInterval.ns * j :=
    ceilDiv_le_iff_le_mul pollInterval_pos
  rw [Nat.mul_comm] at hlast
  simp only [pollTime]
  omega

theorem not_expired {j : Nat} (hj : j < lastPoll limit) : ¬ limit.ns ≤ (pollTime limit j).ns :=
  Nat.not_le.mpr ((pollTime_lt_iff limit j).mpr hj)

theorem pollTime_last (limit : Duration) : pollTime limit (lastPoll limit) = limit := by
  have hlast := (pollTime_lt_iff limit (lastPoll limit)).not.mpr (Nat.lt_irrefl _)
  have hle := pollTime_le limit (lastPoll limit)
  exact congrArg Duration.mk (Nat.le_antisymm hle (Nat.not_lt.mp hlast))

/-- The pause after a poll ends at the time of the next one. -/
theorem pollTime_pause (limit : Duration) (j : Nat) :
    (pollTime limit j).ns + (pause (pollTime limit j) limit).ns = (pollTime limit (j + 1)).ns := by
  simp only [pollTime, pause, Nat.succ_mul]
  omega

theorem clock_atPoll (lib : Library σ) (raw : RawHandle) (limit : Duration) (host : Host σ)
    (j : Nat) : (atPoll lib raw limit host j).clock.monotonic =
      host.clock.monotonic + (pollTime limit j).ns := by
  induction j with
  | zero => simp [atPoll, pollTime]
  | succ j ih =>
    simp only [atPoll, Host.sleep_clock, Host.call_clock, Clock.advance, ih,
      Nat.add_sub_cancel_left, ← pollTime_pause limit j]
    exact Nat.add_assoc _ _ _

theorem atPoll_succ (lib : Library σ) (raw : RawHandle) (limit : Duration) (host : Host σ)
    (j : Nat) : atPoll lib raw limit host (j + 1) =
      (afterPoll lib raw limit host j).sleep (pause (pollTime limit j) limit) := by
  simp only [atPoll, afterPoll, clock_atPoll, Nat.add_sub_cancel_left]

theorem calls_atPoll (lib : Library σ) (raw : RawHandle) (limit : Duration) (host : Host σ)
    (j : Nat) : (atPoll lib raw limit host j).calls =
      .replicate j (.asyncError raw) ++ host.calls := by
  induction j with
  | zero => rfl
  | succ j ih =>
    rw [atPoll_succ, Host.sleep_calls, afterPoll, Host.call_calls, ih, List.replicate_succ]
    rfl

/-- Progress ends a loop only at the last poll. -/
theorem last_of_pending {k : Nat} (hk : k ≤ lastPoll limit)
    (hsettled : k < lastPoll limit → pollAnswer lib raw limit host k ≠ .ok .inProgress)
    (hanswer : pollAnswer lib raw limit host k = .ok .inProgress) : k = lastPoll limit :=
  Nat.le_antisymm hk (Nat.not_lt.mp fun hlt => hsettled hlt hanswer)

structure StopsAt (lib : Library σ) (raw : RawHandle) (limit : Duration) (host : Host σ) (k : Nat)
    (host' : Host σ) : Prop where
  bounded : k ≤ lastPoll limit
  pending : ∀ j < k, pollAnswer lib raw limit host j = .ok .inProgress
  settled : k < lastPoll limit → pollAnswer lib raw limit host k ≠ .ok .inProgress
  calls : host'.calls = .replicate (k + 1) (.asyncError raw) ++ host.calls
  clock : host'.clock.monotonic = host.clock.monotonic + (pollTime limit k).ns

/-- The first poll whose answer is not progress, or the last poll. -/
theorem exists_first (lib : Library σ) (raw : RawHandle) (limit : Duration) (host : Host σ) :
    ∃ k ≤ lastPoll limit, (∀ j < k, pollAnswer lib raw limit host j = .ok .inProgress) ∧
      (k < lastPoll limit → pollAnswer lib raw limit host k ≠ .ok .inProgress) := by
  classical
  let Stop (k : Nat) : Prop :=
    k = lastPoll limit ∨ pollAnswer lib raw limit host k ≠ .ok .inProgress
  have hstop : ∃ k, Stop k := ⟨lastPoll limit, .inl rfl⟩
  refine ⟨Nat.find hstop, Nat.find_min' hstop (.inl rfl), fun j hj => ?_, fun hlt => ?_⟩
  · have hgoes := Nat.find_min hstop hj
    exact Classical.not_not.mp fun hother => hgoes (.inr hother)
  · exact (Nat.find_spec hstop).resolve_left (Nat.ne_of_lt hlt)

theorem stopsAt_of_same {k : Nat} {host' : Host σ} (hk : k ≤ lastPoll limit)
    (hpending : ∀ j < k, pollAnswer lib raw limit host j = .ok .inProgress)
    (hsettled : k < lastPoll limit → pollAnswer lib raw limit host k ≠ .ok .inProgress)
    (hcalls : host'.calls = (afterPoll lib raw limit host k).calls)
    (hclock : host'.clock = (afterPoll lib raw limit host k).clock) :
    StopsAt lib raw limit host k host' where
  bounded := hk
  pending := hpending
  settled := hsettled
  calls := by
    rw [hcalls, afterPoll, Host.call_calls, calls_atPoll, List.replicate_succ]
    rfl
  clock := by rw [hclock, afterPoll, Host.call_clock, clock_atPoll]

/-- The loop timed out iff every answer is progress. -/
theorem StopsAt.expired_iff {k : Nat} {host' : Host σ} (h : StopsAt lib raw limit host k host') :
    pollAnswer lib raw limit host k = .ok .inProgress ↔
      ∀ j ≤ lastPoll limit, pollAnswer lib raw limit host j = .ok .inProgress := by
  constructor
  · intro hlast j hj
    have hk := last_of_pending h.bounded h.settled hlast
    rcases Nat.lt_or_eq_of_le hj with hlt | rfl
    · exact h.pending j (hk ▸ hlt)
    · exact hk ▸ hlast
  · intro hall
    exact hall k h.bounded

theorem StopsAt.emit {k : Nat} {host' : Host σ} (h : StopsAt lib raw limit host k host')
    (event : LogEvent) : StopsAt lib raw limit host k (host'.emit event) :=
  ⟨h.bounded, h.pending, h.settled, h.calls, h.clock⟩

/-- The loop makes every poll up to the one at which it stops. -/
theorem StopsAt.upTo {j k : Nat} {host' : Host σ} (h : StopsAt lib raw limit host k host')
    (hj : j ≤ k) :
    j ≤ lastPoll limit ∧ ∀ i < j, pollAnswer lib raw limit host i = .ok .inProgress :=
  ⟨Nat.le_trans hj h.bounded, fun i hi => h.pending i (Nat.lt_of_lt_of_le hi hj)⟩

/-- While the answers are progress, the polling after an abort goes from each poll to the next. -/
theorem waitForAbort_reaches {j : Nat} (hj : j ≤ lastPoll limit)
    (hpending : ∀ i < j, pollAnswer lib raw limit host i = .ok .inProgress) :
    waitForAbortFrom lib raw limit .zero host =
      waitForAbortFrom lib raw limit (pollTime limit j) (atPoll lib raw limit host j) := by
  induction j with
  | zero => simp [pollTime, atPoll, Duration.zero]
  | succ j ih =>
    have hpoll : (lib.answer (.asyncError raw) (atPoll lib raw limit host j).library).1 =
        .ok .inProgress := hpending j (Nat.lt_succ_self j)
    rw [ih (by omega) fun i hlt => hpending i (by omega), waitForAbortFrom]
    simp only [Host.call_answer, hpoll]
    rw [if_neg (not_expired hj), pollTime_pause, atPoll_succ]
    rfl

/-- The result of a wait by the answer to its last poll. Progress is a timeout. -/
def settledWait (c : Communicator) (limit : Duration) (failed : Status → CommError) :
    Except Status Status → Except CommError Unit × Communicator
  | .ok .inProgress => (.error (.timeout .initialization limit limit), c)
  | .ok .success => (.ok (), { c with initialized := true })
  | .ok status | .error status => (.error (failed status), { c with asyncError := status })

def waitError (lib : Library σ) (raw : RawHandle) (c : Communicator) (polled : Host σ)
    (status : Status) : CommError :=
  polled.nativeError lib .initialization status (some raw) c.failureReason

section Wait

variable (hi : c.initialized = false) (hlive : c.liveHandle? = some raw)
include hi hlive

theorem pollInit_inProgress
    (hanswer : (lib.answer (.asyncError raw) host.library).1 = .ok .inProgress)
    (elapsed : Duration) :
    c.pollInit lib elapsed host = (none, c, (host.call lib (.asyncError raw)).2) := by
  simp [pollInit, hi, hlive, hanswer]

theorem pollInit_settles (hanswer : (lib.answer (.asyncError raw) host.library).1 ≠ .ok .inProgress)
    (elapsed limit : Duration) :
    let polled := (host.call lib (.asyncError raw)).2
    let settled := c.settledWait limit (c.waitError lib raw polled)
      (lib.answer (.asyncError raw) host.library).1
    ∃ events, c.pollInit lib elapsed host =
      (some settled.1, settled.2, { polled with events := events }) := by
  unfold pollInit
  rw [if_neg (Bool.eq_false_iff.mp hi), hlive]
  simp only [Host.call_answer]
  rcases hcase : (lib.answer (.asyncError raw) host.library).1 with status | status
  · exact ⟨_, rfl⟩
  · cases status with
    | inProgress => exact absurd hcase hanswer
    | _ => exact ⟨_, rfl⟩

/-- The same for a wait. -/
theorem wait_reaches {j : Nat} (hj : j ≤ lastPoll limit)
    (hpending : ∀ i < j, pollAnswer lib raw limit host i = .ok .inProgress) :
    c.wait lib limit host =
      c.waitFrom lib limit (pollTime limit j) (atPoll lib raw limit host j) := by
  induction j with
  | zero => simp [wait, pollTime, atPoll, Duration.zero]
  | succ j ih =>
    have hpoll := pollInit_inProgress hi hlive (hpending j (Nat.lt_succ_self j)) (pollTime limit j)
    rw [ih (by omega) fun i hlt => hpending i (by omega), waitFrom, hpoll]
    dsimp only
    rw [if_neg (not_expired hj), pollTime_pause, atPoll_succ]
    rfl

theorem wait_stops (lib : Library σ) (limit : Duration) (host : Host σ) :
    let r := c.wait lib limit host
    ∃ k, StopsAt lib raw limit host k r.2.2 ∧ (r.1, r.2.1) = c.settledWait limit
      (c.waitError lib raw (afterPoll lib raw limit host k)) (pollAnswer lib raw limit host k) := by
  intro r
  obtain ⟨k, hk, hpending, hsettled⟩ := exists_first lib raw limit host
  have hr : r = c.waitFrom lib limit (pollTime limit k) (atPoll lib raw limit host k) :=
    wait_reaches hi hlive hk hpending
  rw [waitFrom] at hr
  by_cases hanswer : pollAnswer lib raw limit host k = .ok .inProgress
  · have htime : pollTime limit k = limit :=
      last_of_pending hk hsettled hanswer ▸ pollTime_last limit
    rw [pollInit_inProgress hi hlive hanswer, htime] at hr
    simp only [Nat.le_refl, if_true] at hr
    refine ⟨k, stopsAt_of_same hk hpending hsettled (by rw [hr]; rfl) (by rw [hr]; rfl), ?_⟩
    rw [hr, hanswer]
    rfl
  · obtain ⟨events, hpoll⟩ := pollInit_settles hi hlive hanswer (pollTime limit k) limit
    rw [hpoll] at hr
    refine ⟨k, stopsAt_of_same hk hpending hsettled (by rw [hr]; rfl) (by rw [hr]; rfl), ?_⟩
    rw [hr]
    rfl

end Wait

theorem waitForAbort_stops (lib : Library σ) (raw : RawHandle) (limit : Duration) (host : Host σ) :
    let r := waitForAbortFrom lib raw limit .zero host
    ∃ k, StopsAt lib raw limit host k r.2 ∧
      (pollAnswer lib raw limit host k = .ok .inProgress →
        r.1 = .error (.timeout .abort limit limit)) ∧
      (pollAnswer lib raw limit host k ≠ .ok .inProgress → r.1 = .ok ()) := by
  intro r
  obtain ⟨k, hk, hpending, hsettled⟩ := exists_first lib raw limit host
  have hr : r = waitForAbortFrom lib raw limit (pollTime limit k) (atPoll lib raw limit host k) :=
    waitForAbort_reaches hk hpending
  rw [waitForAbortFrom] at hr
  dsimp only at hr
  split at hr
  · next hanswer =>
    have htime : pollTime limit k = limit :=
      last_of_pending hk hsettled hanswer ▸ pollTime_last limit
    rw [htime, if_pos (Nat.le_refl _)] at hr
    refine ⟨k, stopsAt_of_same hk hpending hsettled (by rw [hr]; rfl) (by rw [hr]; rfl), ?_, ?_⟩
    · exact fun _ => by rw [hr]
    · exact fun hother => absurd hanswer hother
  · next hanswer =>
    refine ⟨k, stopsAt_of_same hk hpending hsettled (by rw [hr]; rfl) (by rw [hr]; rfl), ?_, ?_⟩
    · exact fun hother => absurd hother hanswer
    · exact fun _ => by rw [hr]

theorem settledWait_timeout_iff (polled : Host σ) (answer : Except Status Status) :
    (∃ e, (c.settledWait limit (c.waitError lib raw polled) answer).1 = .error e ∧
      e.isTimeout = true) ↔ answer = .ok .inProgress := by
  constructor
  · rintro ⟨e, he, htimeout⟩
    rcases answer with status | status
    · cases he
      cases htimeout
    · cases status with
      | inProgress => rfl
      | success => cases he
      | _ =>
        cases he
        cases htimeout
  · rintro rfl
    exact ⟨_, rfl, rfl⟩

theorem liveHandle?_eq_some (h : c.liveHandle? = some raw) :
    c.aborted = false ∧ c.raw = some raw := by
  unfold liveHandle? at h
  split at h
  · cases h
  · next ha => exact ⟨Bool.eq_false_iff.mpr ha, h⟩

/-- The native abort of an abort, with its status and the host after it: the segments have been
released before. -/
def abortCall (lib : Library σ) (raw : RawHandle) (c : Communicator) (host : Host σ) :
    Status × Host σ :=
  (releaseSegments lib c.commId raw c.segments host).call lib (.abort raw)

/-- An abort of a live communicator leaves it aborted, for any outcome of the native abort. -/
theorem abort_eq (hlive : c.liveHandle? = some raw) (lib : Library σ) (reason : Option String)
    (host : Host σ) :
    let called := c.abortCall lib raw host
    let outcome :=
      if called.1.isFailure then
        (.error (called.2.nativeError lib .abort called.1 (some raw) (reason <|> c.failureReason)),
          called.2)
      else if c.settings.nonblocking then
        waitForAbortFrom lib raw c.settings.initTimeout .zero called.2
      else (.ok (), called.2)
    ∃ event, c.abort lib reason host = (outcome.1, c.afterAbort reason, outcome.2.emit event) := by
  obtain ⟨ha, hraw⟩ := liveHandle?_eq_some hlive
  unfold abort
  rw [if_neg (Bool.eq_false_iff.mp ha), hraw]
  exact ⟨_, rfl⟩

/-- An accepted nonblocking abort ends with the polling. -/
theorem abort_polls (hlive : c.liveHandle? = some raw) (hn : c.settings.nonblocking = true)
    (haccepted : (c.abortCall lib raw host).1.isFailure = false) (reason : Option String) :
    let polled := waitForAbortFrom lib raw c.settings.initTimeout .zero (c.abortCall lib raw host).2
    ∃ event, c.abort lib reason host =
      (polled.1, c.afterAbort reason, polled.2.emit event) := by
  obtain ⟨event, habort⟩ := abort_eq hlive lib reason host
  rw [if_neg (Bool.eq_false_iff.mp haccepted), if_pos hn] at habort
  exact ⟨event, habort⟩

/-- Both polling loops, for any library. Poll `j` is at the end of `j` intervals or at the deadline,
whichever is earlier, and before the last poll there is time for a whole pause. The loop stops at
some poll `k`, whose answer settles it; it times out iff every answer up to the last poll is
progress. The polls of an accepted nonblocking abort go the same way up to the configured deadline,
and any answer but progress ends them. -/
theorem polls_until_deadline (hlive : c.liveHandle? = some raw) (lib : Library σ) (host : Host σ) :
    (∀ (limit : Duration) (start : Host σ) (j : Nat),
      (atPoll lib raw limit start j).clock.monotonic =
        start.clock.monotonic + min (j * pollInterval.ns) limit.ns ∧
      (j < lastPoll limit → (pollTime limit j).ns < limit.ns ∧
        (pollTime limit j).ns + (pause (pollTime limit j) limit).ns ≤ limit.ns)) ∧
    (c.initialized = false → ∀ limit : Duration,
      let r := c.wait lib limit host
      let answer := pollAnswer lib raw limit host
      ∃ k, StopsAt lib raw limit host k r.2.2 ∧
        (∀ j ≤ k, r = c.waitFrom lib limit (pollTime limit j) (atPoll lib raw limit host j)) ∧
        (r.1, r.2.1) = c.settledWait limit
          (c.waitError lib raw (afterPoll lib raw limit host k)) (answer k) ∧
        ((∃ e, r.1 = .error e ∧ e.isTimeout = true) ↔
          ∀ j ≤ lastPoll limit, answer j = .ok .inProgress)) ∧
    (c.settings.nonblocking = true → (c.abortCall lib raw host).1.isFailure = false →
      ∀ reason : Option String,
      let r := c.abort lib reason host
      let aborted := (c.abortCall lib raw host).2
      let limit := c.settings.initTimeout
      let answer := pollAnswer lib raw limit aborted
      ∃ k, StopsAt lib raw limit aborted k r.2.2 ∧
        (∃ event, ∀ j ≤ k,
          let polled := waitForAbortFrom lib raw limit (pollTime limit j)
            (atPoll lib raw limit aborted j)
          r = (polled.1, c.afterAbort reason, polled.2.emit event)) ∧
        (answer k = .ok .inProgress → r.1 = .error (.timeout .abort limit limit)) ∧
        (answer k ≠ .ok .inProgress → r.1 = .ok ()) ∧
        ((∃ e, r.1 = .error e ∧ e.isTimeout = true) ↔
          ∀ j ≤ lastPoll limit, answer j = .ok .inProgress)) := by
  refine ⟨fun limit start j => ⟨?_, fun hj => ⟨(pollTime_lt_iff limit j).mpr hj, ?_⟩⟩, ?_, ?_⟩
  · rw [clock_atPoll, pollTime]
  · rw [pollTime_pause]
    exact pollTime_le limit (j + 1)
  · intro hi limit r answer
    obtain ⟨k, hstops, hsettled⟩ := wait_stops hi hlive lib limit host
    refine ⟨k, hstops, fun j hj => ?_, hsettled, ?_⟩
    · exact wait_reaches hi hlive (hstops.upTo hj).1 (hstops.upTo hj).2
    · have hresult : r.1 = (c.settledWait limit
          (c.waitError lib raw (afterPoll lib raw limit host k)) (answer k)).1 :=
        congrArg Prod.fst hsettled
      rw [hresult, settledWait_timeout_iff]
      exact hstops.expired_iff
  · intro hn haccepted reason
    obtain ⟨event, hr⟩ := abort_polls hlive hn haccepted reason
    dsimp only
    rw [hr]
    obtain ⟨k, hstops, hexpired, hanswered⟩ := waitForAbort_stops lib raw c.settings.initTimeout
      (c.abortCall lib raw host).2
    refine ⟨k, hstops.emit event, ⟨event, fun j hj => ?_⟩, hexpired, hanswered, ?_⟩
    · rw [waitForAbort_reaches (hstops.upTo hj).1 (hstops.upTo hj).2]
    · rw [← hstops.expired_iff]
      constructor
      · rintro ⟨e, he, _⟩
        by_contra hother
        rw [hanswered hother] at he
        cases he
      · exact fun hlast => ⟨_, hexpired hlast, rfl⟩

def stuckHost : Host Scripted where
  library := { comms := [(0x1000, { pending := .never })] }
  clock := ⟨0, 0⟩

theorem stuckWait_expires :
    pendingCommunicator.liveHandle? = some ⟨0x1000⟩ ∧ lastPoll ⟨25000000⟩ = 3 ∧
    (∃ e, (pendingCommunicator.wait Scripted.library ⟨25000000⟩ stuckHost).1 = .error e ∧
      e.isTimeout = true) ∧
    ¬ ∃ e, (pendingCommunicator.abort Scripted.library none stuckHost).1 = .error e ∧
      e.isTimeout = true := by
  have hlast : lastPoll ⟨25000000⟩ = 3 := by decide
  have hlive : pendingCommunicator.liveHandle? = some ⟨0x1000⟩ := rfl
  obtain ⟨_, hwait, habort⟩ := polls_until_deadline hlive Scripted.library stuckHost
  refine ⟨hlive, hlast, ?_, ?_⟩
  · obtain ⟨_, _, _, _, hexpired⟩ := hwait rfl ⟨25000000⟩
    refine hexpired.mpr fun j hj => ?_
    rw [hlast] at hj
    match j, hj with
    | 0, _ | 1, _ | 2, _ | 3, _ => rfl
  · obtain ⟨_, _, _, _, _, hexpired⟩ := habort rfl rfl none
    intro htimeout
    have hfirst := hexpired.mp htimeout 0 (Nat.zero_le _)
    cases hfirst

end RankTrace.Communicator
