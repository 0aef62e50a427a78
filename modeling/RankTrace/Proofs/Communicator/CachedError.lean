import RankTrace.Proofs.Communicator.Failing

/-!
# The cached error

Polls of a wait and checks query the asynchronous error of the library and cache a failure. A poll
also caches the status of a query that fails itself, whatever it is. An abort sets a failure if
there is none. Nothing else changes the cached error, so it is a function of the queries of a run.
-/

namespace RankTrace

/-- A query of the asynchronous error, with its answer. -/
inductive ErrorQuery
  | poll (answer : Except Status Status)
  | check (answer : Except Status Status)
  deriving DecidableEq

def Status.ofAnswer : Except Status Status → Status
  | .ok status | .error status => status

namespace ErrorQuery

def status : ErrorQuery → Status
  | poll answer | check answer => .ofAnswer answer

/-- What is kept of a query. A poll whose query fails keeps any status. -/
def kept? : ErrorQuery → Option Status
  | poll (.error status) => some status
  | poll (.ok status) | check (.ok status) | check (.error status) =>
    if status.isFailure then some status else none

/-- A query that fails, fails with an error. -/
def Candid : ErrorQuery → Prop
  | poll answer | check answer => ∀ status, answer = .error status → status.isFailure = true

theorem kept?_of_candid {q : ErrorQuery} (h : q.Candid) :
    q.kept? = if q.status.isFailure then some q.status else none := by
  cases q with
  | poll answer =>
    cases answer with
    | error status => exact (if_pos (h status rfl)).symm
    | ok status => rfl
  | check answer => cases answer <;> rfl

theorem status_of_kept? {q : ErrorQuery} {status : Status} (h : q.kept? = some status) :
    q.status = status := by
  match q with
  | poll (.error status) => exact Option.some.inj h
  | poll (.ok status) | check (.ok status) | check (.error status) =>
    simp only [kept?, Option.ite_none_right_eq_some, Option.some.injEq] at h
    exact h.2

theorem kept?_eq_inProgress {q : ErrorQuery} :
    q.kept? = some .inProgress ↔ q = .poll (.error .inProgress) := by
  constructor
  · intro h
    match q with
    | poll (.error status) =>
      cases h
      rfl
    | poll (.ok status) | check (.ok status) | check (.error status) =>
      -- a failure is kept here, and progress is none
      simp only [kept?, Option.ite_none_right_eq_some, Option.some.injEq] at h
      obtain ⟨hfailure, rfl⟩ := h
      cases hfailure
  · rintro rfl
    rfl

theorem getLast?_kept_eq_inProgress {queries : List ErrorQuery} :
    (queries.filterMap kept?).getLast? = some .inProgress ↔ ∃ earlier later,
      queries = earlier ++ .poll (.error .inProgress) :: later ∧ ∀ q ∈ later, q.kept? = none := by
  rw [List.getLast?_filterMap, List.findSome?_eq_some_iff]
  constructor
  · rintro ⟨later, q, earlier, hqueries, hkept, hnone⟩
    rw [kept?_eq_inProgress] at hkept
    subst hkept
    refine ⟨earlier.reverse, later.reverse, ?_, fun q hq => hnone q (List.mem_reverse.mp hq)⟩
    rw [← List.reverse_reverse queries, hqueries]
    simp
  · rintro ⟨earlier, later, rfl, hnone⟩
    refine ⟨later.reverse, .poll (.error .inProgress), earlier.reverse, by simp, rfl, ?_⟩
    exact fun q hq => hnone q (List.mem_reverse.mp hq)

/-- For a candid library the statuses kept are the failures observed, in the same order. -/
theorem filterMap_kept? {queries : List ErrorQuery} (h : ∀ q ∈ queries, q.Candid) :
    queries.filterMap kept? = (queries.map status).filter Status.isFailure := by
  induction queries with
  | nil => rfl
  | cons q rest ih =>
    have hrest := ih fun q hq => h q (List.mem_cons_of_mem _ hq)
    have hq := kept?_of_candid (h q List.mem_cons_self)
    rw [List.map_cons, List.filter_cons, List.filterMap_cons, hq, hrest]
    cases hfailure : q.status.isFailure <;> rfl

end ErrorQuery

/-- The steps that query the asynchronous error and keep a failure. An abort polls too, but keeps
nothing. -/
def CommEvent.asks? {σ : Type} : CommEvent σ → Option (Except Status Status → ErrorQuery)
  | poll .. => some .poll
  | check => some .check
  | _ => none

def Library.Candid {σ : Type} (lib : Library σ) : Prop :=
  ∀ raw state status, (lib.answer (.asyncError raw) state).1 = .error status →
    status.isFailure = true

def Status.orSystemError (s : Status) : Status := if s.isFailure then s else .systemError

theorem Status.isFailure_orSystemError (s : Status) : s.orSystemError.isFailure = true := by
  unfold orSystemError
  split
  · next h => exact h
  · rfl

namespace Communicator

variable {σ : Type} {lib : Library σ} {raw : RawHandle} {c c' : Communicator}
  {host host' : Host σ}

/-- A step made a query and kept its status, or made none and left the cached error unchanged. -/
def Heard (raw : RawHandle) (c : Communicator) (host : Host σ) (q : ErrorQuery) (c' : Communicator)
    (host' : Host σ) : Prop :=
  (host'.calls = .asyncError raw :: host.calls ∧ c'.asyncError = q.kept?.getD c.asyncError) ∨
    (host'.calls = host.calls ∧ c'.asyncError = c.asyncError)

theorem Coherent.heard_poll (h : c.Coherent raw) (lib : Library σ) (elapsed : Duration)
    (host : Host σ) :
    let p := c.pollInit lib elapsed host
    Heard raw c host (.poll (lib.answer (.asyncError raw) host.library).1) p.2.1 p.2.2 := by
  unfold pollInit
  by_cases hi : c.initialized = true
  · rw [if_pos hi]
    exact .inr ⟨rfl, rfl⟩
  rw [if_neg hi]
  rcases h.gone_or_live with ⟨_, hl⟩ | ⟨_, hl⟩
  · rw [hl]
    exact .inr ⟨rfl, rfl⟩
  rw [hl]
  simp only [Host.call_answer]
  rcases (lib.answer (.asyncError raw) host.library).1 with status | status
  · exact .inl ⟨rfl, rfl⟩
  · cases status <;> exact .inl ⟨rfl, rfl⟩

theorem checkForError_cached (hcached : c.asyncError ≠ .success) (lib : Library σ)
    (host : Host σ) : c.checkForError lib host = (c.asyncError, c, host) := if_pos hcached

/-- A check of a live communicator without a cached error makes a query and keeps a failure. -/
theorem Coherent.checkForError_asks (h : c.Coherent raw) (ha : c.aborted = false)
    (hempty : c.asyncError = .success) (lib : Library σ) (host : Host σ) :
    let status := Status.ofAnswer (lib.answer (.asyncError raw) host.library).1
    let r := c.checkForError lib host
    r.1 = status ∧ r.2.1 = (if status.isFailure then { c with asyncError := status } else c) ∧
      r.2.2.calls = .asyncError raw :: host.calls := by
  unfold checkForError
  rw [if_neg (not_not_intro hempty)]
  split
  · next hraw =>
    rw [h.live ha] at hraw
    cases hraw
  next x hraw =>
  obtain rfl : raw = x := Option.some.inj ((h.live ha).symm.trans hraw)
  dsimp only
  split
  all_goals
    next status hanswer =>
    rw [Host.call_answer] at hanswer
    rw [hanswer]
    by_cases hfailure : status.isFailure = true
    · rw [if_pos hfailure]
      exact ⟨rfl, (if_pos hfailure).symm, rfl⟩
    · rw [if_neg hfailure]
      exact ⟨rfl, (if_neg hfailure).symm, rfl⟩

theorem Coherent.heard_check (h : c.Coherent raw) (lib : Library σ) (host : Host σ) :
    let r := c.checkForError lib host
    Heard raw c host (.check (lib.answer (.asyncError raw) host.library).1) r.2.1 r.2.2 := by
  intro r
  by_cases hcached : c.asyncError = .success
  case neg =>
    refine .inr ?_
    show (c.checkForError lib host).2.2.calls = _ ∧ (c.checkForError lib host).2.1.asyncError = _
    rw [checkForError_cached hcached]
    exact ⟨rfl, rfl⟩
  cases ha : c.aborted with
  | true => exact absurd hcached (h.failed ha).1
  | false =>
    obtain ⟨_, hcomm, hcalls⟩ := h.checkForError_asks ha hcached lib host
    refine .inl ⟨hcalls, ?_⟩
    rw [hcomm]
    rcases (lib.answer (.asyncError raw) host.library).1 with status | status
    all_goals
      cases hfailure : status.isFailure <;>
        simp [ErrorQuery.kept?, Status.ofAnswer, hfailure]

theorem Waited.keeps_error (h : Waited c (.ok ()) c') : c'.asyncError = c.asyncError := by
  cases h
  rfl

end Communicator

namespace SharedCommunicator

open Communicator (Origin Heard)

variable {σ : Type} {raw : RawHandle} {s : SharedCommunicator σ} {lib : Library σ}

def query? (lib : Library σ) (raw : RawHandle) (s : SharedCommunicator σ) (event : CommEvent σ) :
    Option ErrorQuery :=
  if (s.step lib event).host.calls = .asyncError raw :: s.host.calls then
    event.asks?.map (· (lib.answer (.asyncError raw) s.host.library).1)
  else none

def queries (lib : Library σ) (raw : RawHandle) (s : SharedCommunicator σ) :
    List (CommEvent σ) → List ErrorQuery
  | [] => []
  | event :: rest => (s.query? lib raw event).toList ++ queries lib raw (s.step lib event) rest

theorem queries_append (lib : Library σ) (raw : RawHandle) (s : SharedCommunicator σ)
    (before after : List (CommEvent σ)) :
    s.queries lib raw (before ++ after) =
      s.queries lib raw before ++ (s.run lib before).queries lib raw after := by
  induction before generalizing s with
  | nil => rfl
  | cons event rest ih =>
    rw [List.cons_append, queries, queries, ih, List.append_assoc]
    rfl

theorem candid_query? (hlib : lib.Candid) {event : CommEvent σ} {q : ErrorQuery}
    (hq : s.query? lib raw event = some q) : q.Candid := by
  unfold query? at hq
  split at hq
  · cases event with
    | poll | check =>
      cases hq
      exact fun status => hlib raw s.host.library status
    | _ => cases hq
  · cases hq

theorem candid_queries (hlib : lib.Candid) (s : SharedCommunicator σ)
    (events : List (CommEvent σ)) : ∀ q ∈ s.queries lib raw events, q.Candid := by
  induction events generalizing s with
  | nil => exact fun q hq => (List.not_mem_nil hq).elim
  | cons event rest ih =>
    intro q hq
    rcases List.mem_append.mp hq with hq | hq
    · exact candid_query? hlib (Option.mem_toList.mp hq)
    · exact ih (s.step lib event) q hq

/-- The cached error is the last status kept, or success. After an abort it is a failure. -/
def Remembers (s : SharedCommunicator σ) (kept : List Status) : Prop :=
  s.comm.asyncError =
    if s.comm.aborted then (kept.getLast?.getD .success).orSystemError
    else kept.getLast?.getD .success

theorem query?_of_silent {event : CommEvent σ} (h : event.asks? = none) :
    s.query? lib raw event = none := by
  unfold query?
  rw [h, Option.map_none, ite_self]

theorem asyncError_of_heard {event : CommEvent σ} {ask : Except Status Status → ErrorQuery}
    (hask : event.asks? = some ask)
    (hheard : Heard raw s.comm s.host (ask (lib.answer (.asyncError raw) s.host.library).1)
      (s.step lib event).comm (s.step lib event).host) :
    (s.step lib event).comm.asyncError =
      ((s.query? lib raw event).bind ErrorQuery.kept?).getD s.comm.asyncError := by
  unfold query?
  rw [hask, Option.map_some]
  rcases hheard with ⟨hcalls, herror⟩ | ⟨hcalls, herror⟩
  · rw [if_pos hcalls, herror]
    rfl
  · rw [if_neg (by simp [hcalls]), herror]
    rfl

namespace Coherent

theorem heard_poll (h : s.Coherent raw) (lib : Library σ) (k : Nat) (elapsed : Duration) :
    Heard raw s.comm s.host (.poll (lib.answer (.asyncError raw) s.host.library).1)
      (s.poll lib k elapsed).comm (s.poll lib k elapsed).host := by
  have hheard := h.comm.heard_poll lib elapsed s.host
  unfold SharedCommunicator.poll
  split
  · rcases hp : s.comm.pollInit lib elapsed s.host with ⟨_ | result, comm, host⟩ <;>
      rw [hp] at hheard <;> exact hheard
  · exact .inr ⟨rfl, rfl⟩

theorem asyncError_of_silent (h : s.Coherent raw) (lib : Library σ) {event : CommEvent σ}
    (hne : event.isAbort = false) (hsilent : event.asks? = none) :
    (s.step lib event).comm.asyncError = s.comm.asyncError := by
  cases event with
  | poll | check => cases hsilent
  | abort => cases hne
  | enter | dump | explain | moveLibrary | moveClock => rfl
  | register ptr size =>
    rcases h.comm.register_cases lib ptr size s.host with ⟨_, heq, _⟩ | ⟨_, _, _, heq, _⟩
    · exact congrArg (·.asyncError) heq
    · exact congrArg (·.asyncError) heq
  | deregister ptr =>
    rcases h.comm.deregister_cases lib ptr s.host with ⟨heq, _⟩ | ⟨_, _, _, heq, _⟩
    · exact congrArg (·.asyncError) heq
    · exact congrArg (·.asyncError) heq
  | giveUp k elapsed limit => exact congrArg (·.asyncError) (h.giveUp k elapsed limit).1
  | look k => exact congrArg (·.asyncError) (h.look k).1
  | divide k =>
    simp only [SharedCommunicator.step, SharedCommunicator.divide]
    split <;> rfl
  | adopt k =>
    simp only [SharedCommunicator.step, SharedCommunicator.adopt]
    split <;> rfl

theorem asyncError_step (h : s.Coherent raw) (lib : Library σ) {event : CommEvent σ}
    (hne : event.isAbort = false) :
    (s.step lib event).comm.asyncError =
      ((s.query? lib raw event).bind ErrorQuery.kept?).getD s.comm.asyncError := by
  cases hsilent : event.asks? with
  | none =>
    rw [query?_of_silent hsilent]
    exact h.asyncError_of_silent lib hne hsilent
  | some ask =>
    cases event with
    | poll k elapsed => exact asyncError_of_heard rfl (h.heard_poll lib k elapsed)
    | check => exact asyncError_of_heard rfl (h.comm.heard_check lib s.host)
    | _ => cases hsilent

theorem query?_of_aborted (h : s.Coherent raw) (ha : s.comm.aborted = true) (lib : Library σ)
    (event : CommEvent σ) : s.query? lib raw event = none := by
  unfold query?
  rw [h.calls_step_of_aborted ha, if_neg (by simp)]

theorem remembers_step (h : s.Coherent raw) {kept : List Status} (hs : s.Remembers kept)
    (lib : Library σ) (event : CommEvent σ) :
    (s.step lib event).Remembers
      (kept ++ (s.query? lib raw event).toList.filterMap ErrorQuery.kept?) := by
  unfold Remembers at hs ⊢
  cases ha : s.comm.aborted with
  | true =>
    -- nothing is asked any more, and the failure that is there stays
    have hend : (s.step lib event).comm.aborted = true := (h.step_keeps lib event).2.1 ha
    have hsame : (s.step lib event).comm.asyncError = s.comm.asyncError := by
      cases hevent : event.isAbort with
      | false => rw [h.asyncError_step lib hevent, h.query?_of_aborted ha]; rfl
      | true =>
        cases event with
        | abort reason => rw [step_abort_of_aborted ha]
        | _ => cases hevent
    rw [h.query?_of_aborted ha, hsame, hs, ha, hend]
    simp
  | false =>
    rw [ha] at hs
    rcases h.step_cases lib event with ⟨⟨_, hu, _⟩, hgone⟩ | ⟨hevent, _, reason, _, hcomm, _⟩
    · have hevent : event.isAbort = false := by
        by_contra habort
        rw [hgone (by simpa using habort)] at ha
        cases ha
      have hlive : (s.step lib event).comm.aborted = false := hu.aborted_eq.trans ha
      rw [h.asyncError_step lib hevent, hlive, hs]
      cases hq : s.query? lib raw event with
      | none => simp
      | some q => cases hkept : q.kept? <;> simp [hkept]
    · have hnone : s.query? lib raw event = none := by
        cases event with
        | abort => exact query?_of_silent rfl
        | _ => cases hevent
      rw [hnone, hcomm]
      simp [Communicator.afterAbort, Status.orSystemError, hs]

theorem remembers_run (h : s.Coherent raw) {kept : List Status} (hs : s.Remembers kept)
    (lib : Library σ) (events : List (CommEvent σ)) :
    (s.run lib events).Remembers
      (kept ++ (s.queries lib raw events).filterMap ErrorQuery.kept?) := by
  induction events generalizing s kept with
  | nil =>
    rw [queries, List.filterMap_nil, List.append_nil]
    exact hs
  | cons event rest ih =>
    have hrest := ih (h.step lib event) (h.remembers_step hs lib event)
    rw [List.append_assoc, ← List.filterMap_append] at hrest
    exact hrest

end Coherent

theorem remembers_origin {c : Communicator} (h : Origin raw c) (lib : Library σ) (host : Host σ)
    (events : List (CommEvent σ)) : ((start c host).run lib events).Remembers
      (((start c host).queries lib raw events).filterMap ErrorQuery.kept?) := by
  have hfresh : (start c host).Remembers [] := by
    obtain ⟨settings, uniqueId, commId, rank, rfl⟩ := h.eq_fresh
    rfl
  exact (coherent_start h host).remembers_run hfresh lib events

theorem live_start {c : Communicator} (h : Origin raw c) (host : Host σ) :
    (start c host).comm.aborted = false := by
  obtain ⟨settings, uniqueId, commId, rank, rfl⟩ := h.eq_fresh
  rfl

/-- The cached error is the last failure observed. -/
theorem asyncError_of_failures {kept : List Status} (hs : s.Remembers kept)
    (hkept : ∀ status ∈ kept, status.isFailure = true)
    (hsome : kept ≠ [] ∨ s.comm.aborted = true) :
    s.comm.asyncError = kept.getLast?.getD .systemError := by
  unfold Remembers at hs
  rcases List.eq_nil_or_concat kept with rfl | ⟨earlier, last, rfl⟩
  · rw [hs, if_pos (hsome.resolve_left fun hne => hne rfl)]
    rfl
  · have hlast : last.isFailure = true := hkept last (by simp)
    simp [hs, Status.orSystemError, hlast]

/-- For a library whose queries fail with errors only, and otherwise answer arbitrarily. After a
failure was observed by a poll or a check, or after an abort, every check reports the last failure
observed, or a system error if there was none, without a call. A wait that succeeds does not reset
it. This holds over any interleaving of users before and after. -/
theorem observed_error_kept {c : Communicator} (h : Origin raw c) (lib : Library σ)
    (hlib : lib.Candid) (host : Host σ) (before after : List (CommEvent σ)) :
    let failures := fun events : List (CommEvent σ) =>
      (((start c host).queries lib raw events).map ErrorQuery.status).filter Status.isFailure
    let s := (start c host).run lib (before ++ after)
    let latest := (failures (before ++ after)).getLast?.getD .systemError
    (failures before ≠ [] ∨ before.any CommEvent.isAbort = true →
      latest ≠ .success ∧ latest ≠ .inProgress ∧
      (∀ (now : Library σ) (host' : Host σ),
        s.comm.checkForError now host' = (latest, s.comm, host')) ∧
      ∀ (now : Library σ) (limit : Duration) (host' : Host σ),
        let w := s.comm.wait now limit host'
        w.1 = .ok () →
          ∀ host'' : Host σ, w.2.1.checkForError now host'' = (latest, w.2.1, host'')) ∧
    (∀ operations, ∃ more, ((s.run lib more).comm, (s.run lib more).host) =
      CommOperation.applyAll lib operations s.comm s.host) := by
  intro failures s latest
  have hremembers : s.Remembers (failures (before ++ after)) := by
    have hkept := remembers_origin h lib host (before ++ after)
    rwa [ErrorQuery.filterMap_kept? (candid_queries hlib _ _)] at hkept
  have hs : s.Coherent raw := (coherent_start h host).run lib (before ++ after)
  refine ⟨fun honce => ?_, fun operations => ?_⟩
  · have hsome : failures (before ++ after) ≠ [] ∨ s.comm.aborted = true := by
      rcases honce with hheard | habort
      · left
        simp only [failures, queries_append, List.map_append, List.filter_append]
        exact List.append_ne_nil_of_left_ne_nil hheard _
      · right
        have haborted := (coherent_start h host).aborted_run lib (before ++ after)
        rw [live_start h, Bool.false_or, List.any_append, habort, Bool.true_or] at haborted
        exact haborted
    have hfailures : ∀ status ∈ failures (before ++ after), status.isFailure = true :=
      fun status hm => (List.mem_filter.mp hm).2
    have hcached : s.comm.asyncError = latest := asyncError_of_failures hremembers hfailures hsome
    have hlatest : latest.isFailure = true := by
      rcases List.eq_nil_or_concat (failures (before ++ after)) with hnil | ⟨earlier, last, hlast⟩
      · rw [show latest = .systemError by simp [latest, hnil]]
        rfl
      · rw [show latest = last by simp [latest, hlast]]
        exact hfailures last (by simp [hlast])
    obtain ⟨hsuccess, hprogress⟩ := (Status.isFailure_iff latest).mp hlatest
    refine ⟨hsuccess, hprogress, fun now host' => ?_, ?_⟩
    · rw [Communicator.checkForError_cached (hcached ▸ hsuccess), hcached]
    · intro now limit host' w hok host''
      have hwaited := (hs.comm.waited now limit host').1
      rw [hok] at hwaited
      have hkept : w.2.1.asyncError = latest := hwaited.keeps_error.trans hcached
      rw [Communicator.checkForError_cached (hkept ▸ hsuccess), hkept]
  · obtain ⟨more, _, hmore⟩ := s.run_operations lib operations
    exact ⟨more, hmore⟩

end SharedCommunicator

def Scripted.unforcedLibrary : Library Scripted :=
  { Scripted.library with
    answer := fun call s => answer call { s with forced := { s.forced with asyncError := none } } }

theorem Scripted.candid_unforcedLibrary : Scripted.unforcedLibrary.Candid := by
  intro raw s status h
  simp only [unforcedLibrary, answer, queryError] at h
  split at h
  · cases h
    rfl
  · cases h

def faultyHost : Host Scripted where
  library := { comms := [(0x1000, { error := some .remoteError })] }
  clock := ⟨0, 0⟩

def recoveredWait : List (CommEvent Scripted) :=
  [.moveLibrary { comms := [(0x1000, {})] }, .enter .initialized, .poll 0 .zero]

theorem recoveredWait_remembered :
    Communicator.Origin ⟨0x1000⟩ pendingCommunicator ∧ Scripted.unforcedLibrary.Candid ∧
    let s := (SharedCommunicator.start pendingCommunicator faultyHost).run
      Scripted.unforcedLibrary ([.check] ++ recoveredWait)
    s.comm.initialized = true ∧
      s.comm.checkForError Scripted.unforcedLibrary s.host = (.remoteError, s.comm, s.host) := by
  refine ⟨origin_pendingCommunicator, Scripted.candid_unforcedLibrary, rfl, ?_⟩
  obtain ⟨honce, _⟩ := SharedCommunicator.observed_error_kept origin_pendingCommunicator
    Scripted.unforcedLibrary Scripted.candid_unforcedLibrary faultyHost [.check] recoveredWait
  have hheard : [Status.remoteError] ≠ [] := List.cons_ne_nil _ _
  obtain ⟨_, _, hcheck, _⟩ := honce (.inl hheard)
  exact hcheck _ _

namespace SharedCommunicator

open Communicator (Origin)

variable {σ : Type} {raw : RawHandle}

/-- Progress is cached iff the communicator is live and the last status kept is that of a failing
query with progress, made by a poll of a wait. Without such a poll progress is never cached, and a
check of a live communicator makes a call and reports its answer unless a failure was observed. -/
theorem progress_cached_iff {c : Communicator} (h : Origin raw c) (lib : Library σ) (host : Host σ)
    (events : List (CommEvent σ)) :
    let s := (start c host).run lib events
    let queries := (start c host).queries lib raw events
    (s.comm.asyncError = .inProgress ↔ s.comm.aborted = false ∧ ∃ earlier later,
      queries = earlier ++ .poll (.error .inProgress) :: later ∧ ∀ q ∈ later, q.kept? = none) ∧
    (.poll (.error .inProgress) ∉ queries → s.comm.asyncError ≠ .inProgress) ∧
    (.poll (.error .inProgress) ∉ queries → s.comm.aborted = false →
      (∀ q ∈ queries, q.status = .success ∨ q.status = .inProgress) →
      ∀ (now : Library σ) (host' : Host σ), let r := s.comm.checkForError now host'
        r.1 = .ofAnswer (now.answer (.asyncError raw) host'.library).1 ∧
          r.2.2.calls = .asyncError raw :: host'.calls) ∧
    (∀ operations, ∃ more, ((s.run lib more).comm, (s.run lib more).host) =
      CommOperation.applyAll lib operations s.comm s.host) := by
  intro s queries
  have hremembers : s.Remembers (queries.filterMap ErrorQuery.kept?) :=
    remembers_origin h lib host events
  have hs : s.Coherent raw := (coherent_start h host).run lib events
  have hiff : s.comm.asyncError = .inProgress ↔ s.comm.aborted = false ∧ ∃ earlier later,
      queries = earlier ++ .poll (.error .inProgress) :: later ∧ ∀ q ∈ later, q.kept? = none := by
    rw [← ErrorQuery.getLast?_kept_eq_inProgress, hremembers]
    cases ha : s.comm.aborted with
    | true =>
      rw [if_pos rfl]
      constructor
      · intro hcached
        have hfailure := Status.isFailure_orSystemError
          (((queries.filterMap ErrorQuery.kept?).getLast?).getD .success)
        rw [hcached] at hfailure
        cases hfailure
      · rintro ⟨hlive, _⟩
        cases hlive
    | false =>
      rw [if_neg Bool.false_ne_true]
      cases (queries.filterMap ErrorQuery.kept?).getLast? <;> simp
  refine ⟨hiff, fun hnever hcached => ?_, ?_, fun operations => ?_⟩
  · obtain ⟨_, earlier, later, hqueries, _⟩ := hiff.mp hcached
    exact hnever (by simp [hqueries])
  · intro hnever ha hheard now host' r
    have hempty : s.comm.asyncError = .success := by
      rw [hremembers, ha, if_neg Bool.false_ne_true]
      cases hlast : (queries.filterMap ErrorQuery.kept?).getLast? with
      | none => rfl
      | some status =>
        obtain ⟨q, hq, hkept⟩ := List.mem_filterMap.mp (List.mem_of_getLast? hlast)
        rcases hheard q hq with hsuccess | hprogress
        · exact (ErrorQuery.status_of_kept? hkept).symm.trans hsuccess
        · -- progress is kept only of the query that was never made
          rw [← ErrorQuery.status_of_kept? hkept, hprogress] at hkept
          rw [ErrorQuery.kept?_eq_inProgress.mp hkept] at hq
          exact absurd hq hnever
    obtain ⟨hanswer, _, hcalls⟩ := hs.comm.checkForError_asks ha hempty now host'
    exact ⟨hanswer, hcalls⟩
  · obtain ⟨more, _, hmore⟩ := s.run_operations lib operations
    exact ⟨more, hmore⟩

end SharedCommunicator

def hesitantHost : Host Scripted where
  library := { forced := { asyncError := some .inProgress }, comms := [(0x1000, {})] }
  clock := ⟨0, 0⟩

/-- A check whose query failed with progress does not cache it, and the next one makes a call. -/
theorem failedCheck_asks_again :
    let s := (SharedCommunicator.start pendingCommunicator hesitantHost).run Scripted.library
      [.check]
    s.comm.asyncError ≠ .inProgress ∧
      (s.comm.checkForError Scripted.library s.host).1 = .inProgress ∧
      (s.comm.checkForError Scripted.library s.host).2.2.calls =
        [.asyncError ⟨0x1000⟩, .asyncError ⟨0x1000⟩] := by
  intro s
  have hqueries : (SharedCommunicator.start pendingCommunicator hesitantHost).queries
      Scripted.library ⟨0x1000⟩ [.check] = [.check (.error .inProgress)] := rfl
  obtain ⟨_, hcached, hfresh, _⟩ := SharedCommunicator.progress_cached_iff
    origin_pendingCommunicator Scripted.library hesitantHost [.check]
  rw [hqueries] at hcached hfresh
  obtain ⟨hanswer, hcalls⟩ := hfresh (by decide) rfl (by decide) Scripted.library s.host
  exact ⟨hcached (by decide), hanswer, hcalls⟩

/-- A poll whose query fails with progress. Every later check reports progress without a call,
although the library answers success and no failure was observed. -/
theorem failedPoll_progress_cached :
    let s := (SharedCommunicator.start pendingCommunicator hesitantHost).run Scripted.library
      [.enter .initialized, .poll 0 .zero, .moveLibrary { comms := [(0x1000, {})] }]
    s.comm.aborted = false ∧ s.comm.asyncError = .inProgress ∧
      (SharedCommunicator.start pendingCommunicator hesitantHost).queries Scripted.library ⟨0x1000⟩
        [.enter .initialized, .poll 0 .zero, .moveLibrary { comms := [(0x1000, {})] }] =
          [.poll (.error .inProgress)] ∧
      (Scripted.library.answer (.asyncError ⟨0x1000⟩) s.host.library).1 = .ok .success ∧
      s.comm.checkForError Scripted.library s.host = (.inProgress, s.comm, s.host) :=
  ⟨rfl, rfl, rfl, rfl, rfl⟩

end RankTrace
