import RankTrace.Native.Scripted
import RankTrace.Proofs.Communicator.Effects
import RankTrace.Proofs.Communicator.Users

/-!
# The life of a communicator

Invariants over any run and any library: the handle is there until the abort and does not change,
and a communicator that was waited for, or whose handle was given out, is initialized from then
on.
-/

namespace RankTrace

namespace Communicator

/-- The initial states: a communicator that was created, or split off and numbered. -/
inductive Origin (raw : RawHandle) : Communicator → Prop
  | created {τ : Type} (lib : Library τ) (settings : CommSettings) (worldSize rank : Int32)
      (id : UniqueId) (config : InitConfig) (host : Host τ) (c : Communicator)
      (hc : (create lib settings worldSize rank id config host).1 = .ok c)
      (hraw : c.raw = some raw) : Origin raw c
  | adopted {τ : Type} (parent : Communicator) (color key : Int32) (host : Host τ) :
      Origin raw (parent.adopt color key raw host).1

variable {raw : RawHandle} {c : Communicator}

theorem Origin.eq_fresh (h : Origin raw c) :
    ∃ settings uniqueId commId rank, c = fresh settings uniqueId commId rank raw := by
  cases h with
  | created lib settings worldSize rank id config host _ hc hraw =>
    unfold create at hc
    split at hc
    · cases hc
    dsimp only at hc
    split at hc
    · cases hc
    · cases hc
      cases hraw
      exact ⟨settings, some id, id.text, rank, rfl⟩
  | adopted parent color key host => exact ⟨parent.settings, none, parent.childId, key, rfl⟩

theorem coherent_fresh (settings : CommSettings) (uniqueId : Option UniqueId) (commId : String)
    (rank : Int32) (raw : RawHandle) : (fresh settings uniqueId commId rank raw).Coherent raw where
  handle := rfl
  segments := fun h => by cases h
  failure := fun h => by cases h
  blocking := fun h => by simpa [fresh] using h

end Communicator

/-- What holds for a user at each stage. -/
def CommStage.Fits (raw : RawHandle) (c : Communicator) : CommStage → Prop
  | waited => c.initialized = true
  | holding x => x = raw ∧ c.initialized = true
  | waiting | born _ | adopted _ | failed _ => True

namespace CommStage

theorem eq_of_ofReady {result : Except CommError (Option RawHandle)} {x : RawHandle}
    (h : ofReady result = .holding x) : result = .ok (some x) := by
  rcases result with _ | _ | y <;> cases h
  rfl

theorem eq_of_ofHandle {result : Except CommError RawHandle} {x : RawHandle}
    (h : ofHandle result = .holding x) : result = .ok x := by
  cases result <;> cases h
  rfl

theorem ofWait_ne (result : Except CommError Unit) (x : RawHandle) :
    ofWait result ≠ .holding x := by
  cases result <;> simp [ofWait]

theorem ofNative_ne (result : Except CommError RawHandle) (x : RawHandle) :
    ofNative result ≠ .holding x := by
  cases result <;> simp [ofNative]

end CommStage

theorem CommStage.ofNative_fits (raw : RawHandle) (c : Communicator)
    (result : Except CommError RawHandle) : (ofNative result).Fits raw c := by
  cases result <;> trivial

namespace Communicator.Coherent

variable {raw : RawHandle} {c : Communicator}

/-- A communicator that need not be waited for is initialized, or blocking and therefore
initialized. -/
theorem readyHandle_fits (h : c.Coherent raw) : (CommStage.ofReady c.readyHandle).Fits raw c := by
  unfold readyHandle liveHandle
  rcases h.gone_or_live with ⟨_, hl⟩ | ⟨_, hl⟩
  · rw [hl]
    trivial
  rw [hl]
  dsimp only
  split
  · next hready =>
    refine ⟨rfl, ?_⟩
    cases hn : c.settings.nonblocking with
    | false => exact h.blocking hn
    | true => simpa [hn] using hready
  · trivial

theorem liveHandle_fits (h : c.Coherent raw) (hi : c.initialized = true) :
    (CommStage.ofHandle c.liveHandle).Fits raw c := by
  unfold liveHandle
  rcases h.gone_or_live with ⟨_, hl⟩ | ⟨_, hl⟩
  · rw [hl]
    trivial
  · rw [hl]
    exact ⟨rfl, hi⟩

end Communicator.Coherent

namespace Communicator

variable {σ : Type} {raw : RawHandle} {c : Communicator}

theorem liveHandle_eq_ok {x : RawHandle} (h : c.liveHandle = .ok x) :
    c.aborted = false ∧ c.raw = some x := by
  unfold liveHandle liveHandle? at h
  split at h
  · next y hy =>
    cases h
    split at hy
    · cases hy
    · next ha => exact ⟨Bool.eq_false_iff.mpr ha, hy⟩
  · cases h

theorem readyHandle_eq_some {x : RawHandle} (h : c.readyHandle = .ok (some x)) :
    c.liveHandle = .ok x := by
  unfold readyHandle at h
  split at h
  · cases h
  · next y hy =>
    simp only [Except.ok.injEq] at h
    split at h
    · cases h
      exact hy
    · cases h

/-- The state of the last look is the one in which the handle is given out. -/
theorem nativeHandle_eq_ok {lib : Library σ} {host host' : Host σ} {c' : Communicator}
    {x : RawHandle} (h : c.nativeHandle lib host = (.ok x, c', host')) :
    c'.liveHandle = .ok x := by
  unfold nativeHandle at h
  split at h
  · cases h
  · next hready =>
    cases h
    exact readyHandle_eq_some hready
  · split at h
    · cases h
    · simp only [Prod.mk.injEq] at h
      obtain ⟨hlive, rfl, _⟩ := h
      exact hlive

/-- The answers of an aborted communicator: its rank and the reason, or the cached failure. No
operation makes a call, and only a dump changes the host, by a log event. -/
structure Gone (lib : Library σ) (c : Communicator) (host : Host σ) : Prop where
  handle : c.nativeHandle lib host = (.error (.aborted c.rank c.failureReason), c, host)
  split : ∀ color key config, c.split lib color key config host =
    (.error (.aborted c.rank c.failureReason), c, host)
  register : ∀ ptr size, c.register lib ptr size host =
    (.error (.aborted c.rank c.failureReason), c, host)
  deregister : ∀ ptr, c.deregister lib ptr host =
    (.error (.aborted c.rank c.failureReason), c, host)
  dump : ∃ event, c.nativeDump lib host = (.ok [], host.emit event)
  check : c.checkForError lib host = (c.asyncError, c, host)

theorem Coherent.failed (h : c.Coherent raw) (ha : c.aborted = true) :
    c.asyncError ≠ .success ∧ c.asyncError ≠ .inProgress := by
  have hf := h.failure ha
  constructor <;> intro he <;> rw [he] at hf <;> cases hf

theorem Coherent.gone (h : c.Coherent raw) (ha : c.aborted = true) (lib : Library σ)
    (host : Host σ) : c.Gone lib host := by
  have hlive : c.liveHandle = .error (.aborted c.rank c.failureReason) := by
    simp [liveHandle, liveHandle?, ha, abortedError]
  have hhandle : c.nativeHandle lib host = (.error (.aborted c.rank c.failureReason), c, host) := by
    simp [nativeHandle, readyHandle, hlive]
  constructor
  case handle => exact hhandle
  case split =>
    intro color key config
    simp [Communicator.split, hhandle]
  case register =>
    intro ptr size
    simp [Communicator.register, hlive]
  case deregister =>
    intro ptr
    simp [Communicator.deregister, hlive]
  case dump =>
    simp only [nativeDump, liveHandle?, ha, if_true]
    exact ⟨_, rfl⟩
  case check => rw [checkForError, if_pos (h.failed ha).1]

end Communicator

namespace SharedCommunicator

open Communicator (Uses Used Origin)

variable {σ : Type} {raw : RawHandle} {s : SharedCommunicator σ} {lib : Library σ}

structure Coherent (raw : RawHandle) (s : SharedCommunicator σ) : Prop where
  comm : s.comm.Coherent raw
  users : ∀ u ∈ s.users, u.stage.Fits raw s.comm

theorem fits_of_initialized {c c' : Communicator} {stage : CommStage} (h : stage.Fits raw c)
    (hc : c.initialized = true → c'.initialized = true) : stage.Fits raw c' := by
  cases stage with
  | waited => exact hc h
  | holding x => exact ⟨h.1, hc h.2⟩
  | waiting | born | adopted | failed => trivial

theorem coherent_start {c : Communicator} (h : Origin raw c) (host : Host σ) :
    (start c host).Coherent raw := by
  obtain ⟨settings, uniqueId, commId, rank, rfl⟩ := h.eq_fresh
  exact ⟨Communicator.coherent_fresh settings uniqueId commId rank raw, fun _ hu => by cases hu⟩

namespace Coherent

theorem used (h : s.Coherent raw) {c : Communicator} {host : Host σ}
    (hu : Used raw s.comm s.host c host) :
    ({ s with comm := c, host } : SharedCommunicator σ).Coherent raw := by
  obtain ⟨calls, hu, _⟩ := hu
  exact ⟨hu.coherent h.comm, fun u hm => fits_of_initialized (h.users u hm) hu.initialized⟩

theorem setStage (h : s.Coherent raw) (k : Nat) (goal : CommGoal) {stage : CommStage}
    (hfits : stage.Fits raw s.comm) : (s.setStage k goal stage).Coherent raw := by
  refine ⟨h.comm, ?_⟩
  intro u hu
  rcases List.mem_or_eq_of_mem_set hu with hu | rfl
  · exact h.users u hu
  · exact hfits

theorem addUser (h : s.Coherent raw) (goal : CommGoal) {stage : CommStage}
    (hfits : stage.Fits raw s.comm) :
    ({ s with users := s.users ++ [⟨goal, stage⟩] } : SharedCommunicator σ).Coherent raw := by
  refine ⟨h.comm, ?_⟩
  intro u hu
  rcases List.mem_append.mp hu with hu | hu
  · exact h.users u hu
  · cases List.mem_singleton.mp hu
    exact hfits

theorem enter (h : s.Coherent raw) (goal : CommGoal) : (s.enter goal).Coherent raw := by
  refine h.addUser goal ?_
  cases goal with
  | initialized => trivial
  | handle | child => exact h.comm.readyHandle_fits

theorem stage_fits (h : s.Coherent raw) {k : Nat} {goal : CommGoal} {stage : CommStage}
    (hk : s.users[k]? = some ⟨goal, stage⟩) : stage.Fits raw s.comm :=
  h.users _ (List.mem_of_getElem? hk)

theorem poll (h : s.Coherent raw) (lib : Library σ) (k : Nat) (elapsed : Duration) :
    Used raw s.comm s.host (s.poll lib k elapsed).comm (s.poll lib k elapsed).host ∧
      (s.poll lib k elapsed).Coherent raw := by
  have hpoll := h.comm.poll lib elapsed s.host
  unfold SharedCommunicator.poll
  split
  case h_2 => exact ⟨⟨[], .nothing, rfl⟩, h⟩
  next goal hk =>
  rcases hp : s.comm.pollInit lib elapsed s.host with ⟨_ | result, comm, host⟩
  all_goals
    rw [hp] at hpoll
    obtain ⟨hused, hready⟩ := hpoll
  case none => exact ⟨hused, h.used hused⟩
  case some =>
    refine ⟨hused, (h.used hused).setStage k goal ?_⟩
    cases result with
    | ok => exact hready rfl
    | error e => trivial

theorem look (h : s.Coherent raw) (k : Nat) :
    (s.look k).comm = s.comm ∧ (s.look k).host = s.host ∧ (s.look k).Coherent raw := by
  unfold SharedCommunicator.look
  split
  · exact ⟨rfl, rfl, h⟩
  · next goal _ hk => exact ⟨rfl, rfl, h.setStage k goal (h.comm.liveHandle_fits (h.stage_fits hk))⟩
  · exact ⟨rfl, rfl, h⟩

theorem giveUp (h : s.Coherent raw) (k : Nat) (elapsed limit : Duration) :
    (s.giveUp k elapsed limit).comm = s.comm ∧ (s.giveUp k elapsed limit).host = s.host ∧
      (s.giveUp k elapsed limit).Coherent raw := by
  unfold SharedCommunicator.giveUp
  split
  · next goal _ => exact ⟨rfl, rfl, h.setStage k goal trivial⟩
  · exact ⟨rfl, rfl, h⟩

theorem divide (h : s.Coherent raw) (lib : Library σ) (k : Nat) :
    Used raw s.comm s.host (s.divide lib k).comm (s.divide lib k).host ∧
      (s.divide lib k).Coherent raw := by
  unfold SharedCommunicator.divide
  split
  case h_2 => exact ⟨⟨[], .nothing, rfl⟩, h⟩
  next color key config x hk =>
  obtain ⟨rfl, hi⟩ := h.stage_fits hk
  have hused := Communicator.used_splitLocked lib x color key config hi s.host
  exact ⟨hused, (h.used hused).setStage k _ (CommStage.ofNative_fits x _ _)⟩

theorem adopt (h : s.Coherent raw) (k : Nat) :
    Used raw s.comm s.host (s.adopt k).comm (s.adopt k).host ∧ (s.adopt k).Coherent raw := by
  unfold SharedCommunicator.adopt
  split
  case h_2 => exact ⟨⟨[], .nothing, rfl⟩, h⟩
  next color key config child hk =>
  have hused : Used raw s.comm s.host (s.comm.adopt color key child s.host).2.1
      (s.comm.adopt color key child s.host).2.2 := ⟨[], .number, rfl⟩
  exact ⟨hused, (h.used hused).setStage k _ trivial⟩

theorem step_used (h : s.Coherent raw) (lib : Library σ) {event : CommEvent σ}
    (hne : event.isAbort = false) :
    Used raw s.comm s.host (s.step lib event).comm (s.step lib event).host ∧
      (s.step lib event).Coherent raw := by
  have unused {s' : SharedCommunicator σ}
      (hs : s'.comm = s.comm ∧ s'.host = s.host ∧ s'.Coherent raw) :
      Used raw s.comm s.host s'.comm s'.host ∧ s'.Coherent raw := by
    obtain ⟨hcomm, hhost, h'⟩ := hs
    rw [hcomm, hhost]
    exact ⟨⟨[], .nothing, rfl⟩, h'⟩
  have direct {c : Communicator} {host : Host σ} (hu : Used raw s.comm s.host c host) :
      Used raw s.comm s.host c host ∧
        ({ s with comm := c, host } : SharedCommunicator σ).Coherent raw := ⟨hu, h.used hu⟩
  cases event with
  | enter goal => exact unused ⟨rfl, rfl, h.enter goal⟩
  | poll k elapsed => exact h.poll lib k elapsed
  | giveUp k elapsed limit => exact unused (h.giveUp k elapsed limit)
  | look k => exact unused (h.look k)
  | divide k => exact h.divide lib k
  | adopt k => exact h.adopt k
  | abort reason => cases hne
  | check => exact direct (h.comm.check lib s.host)
  | register ptr size => exact direct (h.comm.register lib ptr size s.host)
  | deregister ptr => exact direct (h.comm.deregister lib ptr s.host)
  | dump => exact direct (h.comm.dump lib s.host)
  | explain reason => exact direct ⟨[], .explain reason, rfl⟩
  | moveLibrary library => exact direct ⟨[], .nothing, rfl⟩
  | moveClock clock => exact direct ⟨[], .nothing, rfl⟩

theorem step_abort_of_aborted (ha : s.comm.aborted = true) (lib : Library σ)
    (reason : Option String) : s.step lib (.abort reason) = s := by
  simp [SharedCommunicator.step, Communicator.abort, ha]

/-- A step uses the communicator, or aborts a live one. -/
theorem step_cases (h : s.Coherent raw) (lib : Library σ) (event : CommEvent σ) :
    (Used raw s.comm s.host (s.step lib event).comm (s.step lib event).host ∧
      (event.isAbort = true → s.comm.aborted = true)) ∨
    (event.isAbort = true ∧ s.comm.aborted = false ∧ ∃ reason polls,
      (s.step lib event).comm = s.comm.afterAbort reason ∧
      (s.step lib event).host.calls = .replicate polls (.asyncError raw) ++ .abort raw ::
        ((s.comm.segments.map fun row => .deregisterSegment raw row.2).reverse ++
          s.host.calls)) := by
  cases hevent : event.isAbort with
  | false => exact .inl ⟨(h.step_used lib hevent).1, fun he => by cases he⟩
  | true =>
    cases event with
    | abort reason =>
      cases ha : s.comm.aborted with
      | true =>
        rw [step_abort_of_aborted ha]
        exact .inl ⟨⟨[], .nothing, rfl⟩, fun _ => rfl⟩
      | false =>
        obtain ⟨hcomm, polls, hcalls⟩ := h.comm.abort ha lib reason s.host
        exact .inr ⟨rfl, rfl, reason, polls, hcomm, hcalls⟩
    | _ => cases hevent

theorem step (h : s.Coherent raw) (lib : Library σ) (event : CommEvent σ) :
    (s.step lib event).Coherent raw := by
  cases hevent : event.isAbort with
  | false => exact (h.step_used lib hevent).2
  | true =>
    cases event with
    | abort reason =>
      cases ha : s.comm.aborted with
      | true =>
        rw [step_abort_of_aborted ha]
        exact h
      | false =>
        have hcomm : (s.step lib (.abort reason)).comm = s.comm.afterAbort reason :=
          (h.comm.abort ha lib reason s.host).1
        refine ⟨hcomm ▸ h.comm.afterAbort reason, ?_⟩
        rw [hcomm]
        exact fun u hu => fits_of_initialized (h.users u hu) id
    | _ => cases hevent

theorem run (h : s.Coherent raw) (lib : Library σ) (events : List (CommEvent σ)) :
    (s.run lib events).Coherent raw :=
  run_induction (fun _ event h => h.step lib event) h events

/-- The fields that no step changes or resets. -/
theorem step_keeps (h : s.Coherent raw) (lib : Library σ) (event : CommEvent σ) :
    (s.comm.initialized = true → (s.step lib event).comm.initialized = true) ∧
    (s.comm.aborted = true → (s.step lib event).comm.aborted = true) ∧
    (s.step lib event).comm.rank = s.comm.rank ∧
    (s.step lib event).comm.settings = s.comm.settings := by
  rcases h.step_cases lib event with ⟨⟨_, hu, _⟩, _⟩ | ⟨_, ha, reason, _, hcomm, _⟩
  · exact ⟨hu.initialized, fun ha => hu.aborted_eq.trans ha, hu.fixed⟩
  · rw [hcomm]
    exact ⟨id, fun _ => rfl, rfl, rfl⟩

end Coherent

/-- After a change of one stage, a held handle was held before or is given out by the change. -/
theorem holding_of_setStage {j k : Nat} {goal goal' : CommGoal} {stage : CommStage} {x : RawHandle}
    (hk : (s.setStage j goal' stage).users[k]? = some ⟨goal, .holding x⟩) :
    s.users[k]? = some ⟨goal, .holding x⟩ ∨ stage = .holding x := by
  simp only [SharedCommunicator.setStage, List.getElem?_set] at hk
  split at hk
  · split at hk
    · cases hk
      exact .inr rfl
    · cases hk
  · exact .inl hk

/-- A handle is given out by a look at the current state. -/
theorem step_holding (lib : Library σ) (s : SharedCommunicator σ) (event : CommEvent σ) {k : Nat}
    {goal : CommGoal} {x : RawHandle}
    (hk : (s.step lib event).users[k]? = some ⟨goal, .holding x⟩) :
    s.users[k]? = some ⟨goal, .holding x⟩ ∨ (s.step lib event).comm.liveHandle = .ok x := by
  cases event with
  | enter goal' =>
    simp only [SharedCommunicator.step, SharedCommunicator.enter, List.getElem?_append,
      List.getElem?_singleton] at hk
    split at hk
    · exact .inl hk
    split at hk
    · obtain ⟨rfl, hstage⟩ := CommUser.mk.inj (Option.some.inj hk)
      cases goal' with
      | initialized => cases hstage
      | handle | child =>
        exact .inr (Communicator.readyHandle_eq_some (CommStage.eq_of_ofReady hstage))
    · cases hk
  | poll j elapsed =>
    simp only [SharedCommunicator.step, SharedCommunicator.poll] at hk
    split at hk
    · split at hk
      · exact .inl hk
      · exact .inl ((holding_of_setStage hk).resolve_right (CommStage.ofWait_ne _ x))
    · exact .inl hk
  | giveUp j elapsed limit =>
    simp only [SharedCommunicator.step, SharedCommunicator.giveUp] at hk
    split at hk
    · exact .inl ((holding_of_setStage hk).resolve_right (by simp))
    · exact .inl hk
  | look j =>
    simp only [SharedCommunicator.step, SharedCommunicator.look] at hk ⊢
    split at hk
    · exact .inl hk
    · exact (holding_of_setStage hk).imp_right CommStage.eq_of_ofHandle
    · exact .inl hk
  | divide j =>
    simp only [SharedCommunicator.step, SharedCommunicator.divide] at hk
    split at hk
    · exact .inl ((holding_of_setStage hk).resolve_right (CommStage.ofNative_ne _ x))
    · exact .inl hk
  | adopt j =>
    simp only [SharedCommunicator.step, SharedCommunicator.adopt] at hk
    split at hk
    · exact .inl ((holding_of_setStage hk).resolve_right (by simp))
    · exact .inl hk
  | abort | check | register | deregister | dump | explain | moveLibrary | moveClock =>
    exact .inl hk

theorem Coherent.nativeHandle_eq_ok (h : s.Coherent raw) {host host' : Host σ} {x : RawHandle}
    {c : Communicator} (hx : s.comm.nativeHandle lib host = (.ok x, c, host')) :
    c.initialized = true ∧ c.aborted = false ∧ c.raw = some x := by
  let s' : SharedCommunicator σ := { s with host }
  obtain ⟨events, _, hrun⟩ := run_handle lib s' (show CommGoal.handle ≠ .initialized by simp)
  have hs' : s'.Coherent raw := ⟨h.comm, h.users⟩
  have hend := hs'.run lib events
  simp only [hrun, s', hx] at hend
  have hfits := hend.users ⟨.handle, .holding x⟩ (by simp [CommStage.ofHandle])
  exact ⟨hfits.2, Communicator.liveHandle_eq_ok (Communicator.nativeHandle_eq_ok hx)⟩

theorem run_fixed (h : s.Coherent raw) (lib : Library σ) (events : List (CommEvent σ)) :
    (s.run lib events).comm.rank = s.comm.rank ∧
      (s.run lib events).comm.settings = s.comm.settings := by
  induction events generalizing s with
  | nil => exact ⟨rfl, rfl⟩
  | cons event rest ih =>
    obtain ⟨_, _, hrank, hsettings⟩ := h.step_keeps lib event
    obtain ⟨hrank', hsettings'⟩ := ih (h.step lib event)
    exact ⟨hrank'.trans hrank, hsettings'.trans hsettings⟩

/-- For any library and any interleaving of users. A communicator has no handle iff it is aborted,
and never a handle other than its own. An aborted one has no segments and a failure for its cached
error, and a blocking one is initialized. No step resets `initialized` or `aborted` or restores the
handle. Every operation on an aborted communicator fails without a call. A handle is given out only
in a state that is initialized and live. -/
theorem aborted_iff_raw_none_and_monotone {c : Communicator} (h : Origin raw c) (lib : Library σ)
    (host : Host σ) (events : List (CommEvent σ)) :
    let s := (start c host).run lib events
    (s.comm.aborted = true ↔ s.comm.raw = none) ∧
    (s.comm.raw = none ∨ s.comm.raw = some raw) ∧
    (s.comm.aborted = true → s.comm.segments = [] ∧
      s.comm.asyncError ≠ .success ∧ s.comm.asyncError ≠ .inProgress) ∧
    (c.settings.nonblocking = false → s.comm.initialized = true) ∧
    s.comm.rank = c.rank ∧
    (∀ event : CommEvent σ, let s' := s.step lib event
      (s.comm.initialized = true → s'.comm.initialized = true) ∧
      (s.comm.aborted = true → s'.comm.aborted = true) ∧
      (s'.comm.raw = s.comm.raw ∨ s'.comm.raw = none)) ∧
    (s.comm.aborted = true → ∀ host : Host σ, s.comm.Gone lib host) ∧
    (∀ (host host' : Host σ) (x : RawHandle) (c' : Communicator),
      s.comm.nativeHandle lib host = (.ok x, c', host') →
      c'.initialized = true ∧ c'.aborted = false ∧ c'.raw = some x) ∧
    (∀ (event : CommEvent σ) (k : Nat) (goal : CommGoal) (x : RawHandle),
      let s' := s.step lib event
      s'.users[k]? = some ⟨goal, .holding x⟩ → s.users[k]? = some ⟨goal, .holding x⟩ ∨
        s'.comm.initialized = true ∧ s'.comm.aborted = false ∧ s'.comm.raw = some x) ∧
    (∀ operations, ∃ more, ((s.run lib more).comm, (s.run lib more).host) =
      CommOperation.applyAll lib operations s.comm s.host) := by
  intro s
  have hstart : (start c host).Coherent raw := coherent_start h host
  have hs : s.Coherent raw := hstart.run lib events
  obtain ⟨hrank, hsettings⟩ := run_fixed hstart lib events
  refine ⟨?_, ?_, fun ha => ⟨hs.comm.segments ha, hs.comm.failed ha⟩,
    fun hn => hs.comm.blocking ((congrArg _ hsettings).trans hn), hrank, ?_,
    fun ha host => hs.comm.gone ha lib host, fun _ _ _ _ hx => hs.nativeHandle_eq_ok hx, ?_, ?_⟩
  · rw [hs.comm.handle]
    split <;> simp_all
  · rw [hs.comm.handle]
    split
    · exact .inl rfl
    · exact .inr rfl
  · intro event
    obtain ⟨hi, ha, _, _⟩ := hs.step_keeps lib event
    refine ⟨hi, ha, ?_⟩
    rw [(hs.step lib event).comm.handle]
    cases ha' : (s.step lib event).comm.aborted with
    | true => exact .inr rfl
    | false =>
      have hlive : s.comm.aborted = false := by
        rw [← Bool.not_eq_true]
        intro hgone
        rw [ha hgone] at ha'
        cases ha'
      exact .inl (hs.comm.live hlive).symm
  · intro event k goal x s' hk
    refine (step_holding lib s event hk).imp_right fun hlive => ?_
    exact ⟨((hs.step lib event).stage_fits hk).2, Communicator.liveHandle_eq_ok hlive⟩
  · intro operations
    obtain ⟨more, _, hmore⟩ := s.run_operations lib operations
    exact ⟨more, hmore⟩

end SharedCommunicator

def pendingCommunicator : Communicator :=
  .fresh (.withoutBlocking none) (some (.ofNat 1)) (UniqueId.ofNat 1).text 0 ⟨0x1000⟩

def pendingHost : Host Scripted where
  library := { initPolls := .never }
  clock := ⟨0, 0⟩

def abandonedWait : List (CommEvent Scripted) :=
  [.enter .handle, .poll 0 .zero, .abort (some "stop"), .poll 0 .zero]

theorem origin_pendingCommunicator : Communicator.Origin ⟨0x1000⟩ pendingCommunicator :=
  .created Scripted.library (.withoutBlocking none) 2 0 (.ofNat 1) {} pendingHost _ rfl rfl

theorem abandonedWait_gone :
    Communicator.Origin ⟨0x1000⟩ pendingCommunicator ∧
    let s := (SharedCommunicator.start pendingCommunicator pendingHost).run Scripted.library
      abandonedWait
    s.comm.raw = none ∧ s.comm.nativeHandle Scripted.library pendingHost =
      (.error (.aborted 0 (some "stop")), s.comm, pendingHost) := by
  refine ⟨origin_pendingCommunicator, ?_⟩
  obtain ⟨hraw, _, _, _, _, _, hgone, _⟩ := SharedCommunicator.aborted_iff_raw_none_and_monotone
    origin_pendingCommunicator Scripted.library pendingHost abandonedWait
  exact ⟨hraw.mp rfl, (hgone rfl pendingHost).handle⟩

end RankTrace
