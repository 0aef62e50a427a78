import RankTrace.Communicator.Abort
import RankTrace.Communicator.Split

/-!
# Many users of one communicator

Every locked part of an operation is one event. A wait releases the lock between two polls; asking
for the handle releases it before and after a wait, and a split once more before its native call.
Any user may make any event at any time, and operations in sequence are runs of these events.

The calls that the host keeps are those of this communicator. Other changes of the library and of
the clock are an event of their own, without a restriction.
-/

namespace RankTrace

inductive CommGoal
  | initialized
  | handle
  | child (color key : Int32) (config : InitConfig)

inductive CommStage
  | waiting
  | waited
  | holding (raw : RawHandle)
  | born (child : RawHandle)
  | adopted (child : Communicator)
  | failed (error : CommError)

structure CommUser where
  goal : CommGoal
  stage : CommStage

structure SharedCommunicator (σ : Type) where
  comm : Communicator
  host : Host σ
  users : List CommUser := []

/-- One step of one user, of the library or of the clock. Users go by their place in the list. -/
inductive CommEvent (σ : Type)
  | enter (goal : CommGoal)
  | poll (k : Nat) (elapsed : Duration)
  | giveUp (k : Nat) (elapsed limit : Duration)
  | look (k : Nat)
  | divide (k : Nat)
  | adopt (k : Nat)
  | abort (reason : Option String)
  | check
  | register (ptr size : UInt64)
  | deregister (ptr : UInt64)
  | dump
  | explain (reason : String)
  | moveLibrary (library : σ)
  | moveClock (clock : Clock)

def CommEvent.isAbort {σ : Type} : CommEvent σ → Bool
  | abort _ => true
  | _ => false

namespace CommStage

def ofReady : Except CommError (Option RawHandle) → CommStage
  | .ok (some raw) => holding raw
  | .ok none => waiting
  | .error e => failed e

def ofWait : Except CommError Unit → CommStage
  | .ok () => waited
  | .error e => failed e

def ofHandle : Except CommError RawHandle → CommStage
  | .ok raw => holding raw
  | .error e => failed e

def ofNative : Except CommError RawHandle → CommStage
  | .ok child => born child
  | .error e => failed e

def ofSplit : Except CommError Communicator → CommStage
  | .ok child => adopted child
  | .error e => failed e

end CommStage

namespace SharedCommunicator

variable {σ : Type}

def start (c : Communicator) (host : Host σ) : SharedCommunicator σ where
  comm := c
  host := { host with calls := [] }

def setStage (s : SharedCommunicator σ) (k : Nat) (goal : CommGoal) (stage : CommStage) :
    SharedCommunicator σ :=
  { s with users := s.users.set k ⟨goal, stage⟩ }

def enter (s : SharedCommunicator σ) (goal : CommGoal) : SharedCommunicator σ :=
  let stage := match goal with
    | .initialized => .waiting
    | .handle | .child .. => .ofReady s.comm.readyHandle
  { s with users := s.users ++ [⟨goal, stage⟩] }

def poll (lib : Library σ) (s : SharedCommunicator σ) (k : Nat) (elapsed : Duration) :
    SharedCommunicator σ :=
  match s.users[k]? with
  | some ⟨goal, .waiting⟩ =>
    match s.comm.pollInit lib elapsed s.host with
    | (none, comm, host) => { s with comm, host }
    | (some result, comm, host) => { s with comm, host }.setStage k goal (.ofWait result)
  | _ => s

/-- A user may find the deadline passed at any time between two polls. -/
def giveUp (s : SharedCommunicator σ) (k : Nat) (elapsed limit : Duration) : SharedCommunicator σ :=
  match s.users[k]? with
  | some ⟨goal, .waiting⟩ =>
    s.setStage k goal (.failed (.timeout .initialization elapsed limit))
  | _ => s

def look (s : SharedCommunicator σ) (k : Nat) : SharedCommunicator σ :=
  match s.users[k]? with
  | some ⟨.initialized, _⟩ => s
  | some ⟨goal, .waited⟩ => s.setStage k goal (.ofHandle s.comm.liveHandle)
  | _ => s

def divide (lib : Library σ) (s : SharedCommunicator σ) (k : Nat) : SharedCommunicator σ :=
  match s.users[k]? with
  | some ⟨.child color key config, .holding raw⟩ =>
    let (result, host) := s.comm.splitLocked lib raw color key config s.host
    { s with host }.setStage k (.child color key config) (.ofNative result)
  | _ => s

def adopt (s : SharedCommunicator σ) (k : Nat) : SharedCommunicator σ :=
  match s.users[k]? with
  | some ⟨.child color key config, .born child⟩ =>
    let (child, comm, host) := s.comm.adopt color key child s.host
    { s with comm, host }.setStage k (.child color key config) (.adopted child)
  | _ => s

def step (lib : Library σ) (s : SharedCommunicator σ) : CommEvent σ → SharedCommunicator σ
  | .enter goal => s.enter goal
  | .poll k elapsed => s.poll lib k elapsed
  | .giveUp k elapsed limit => s.giveUp k elapsed limit
  | .look k => s.look k
  | .divide k => s.divide lib k
  | .adopt k => s.adopt k
  | .abort reason =>
    let (_, comm, host) := s.comm.abort lib reason s.host
    { s with comm, host }
  | .check =>
    let (_, comm, host) := s.comm.checkForError lib s.host
    { s with comm, host }
  | .register ptr size =>
    let (_, comm, host) := s.comm.register lib ptr size s.host
    { s with comm, host }
  | .deregister ptr =>
    let (_, comm, host) := s.comm.deregister lib ptr s.host
    { s with comm, host }
  | .dump => { s with host := (s.comm.nativeDump lib s.host).2 }
  | .explain reason => { s with comm := s.comm.setFailureReason reason }
  | .moveLibrary library => { s with host := { s.host with library } }
  | .moveClock clock => { s with host := { s.host with clock } }

def run (lib : Library σ) (s : SharedCommunicator σ) (events : List (CommEvent σ)) :
    SharedCommunicator σ :=
  events.foldl (step lib) s

theorem run_append (lib : Library σ) (s : SharedCommunicator σ)
    (before after : List (CommEvent σ)) :
    s.run lib (before ++ after) = (s.run lib before).run lib after :=
  List.foldl_append

theorem run_induction {lib : Library σ} {P : SharedCommunicator σ → Prop}
    (hstep : ∀ s event, P s → P (s.step lib event)) {s : SharedCommunicator σ} (h : P s)
    (events : List (CommEvent σ)) : P (s.run lib events) :=
  List.foldlRecOn events _ h fun s hs event _ => hstep s event hs

end SharedCommunicator

/-- An operation that a user makes from its beginning to its end. -/
inductive CommOperation
  | wait (limit : Duration)
  | handle
  | split (color key : Int32) (config : InitConfig)
  | abort (reason : Option String)
  | check
  | register (ptr size : UInt64)
  | deregister (ptr : UInt64)
  | dump
  | explain (reason : String)

namespace CommOperation

variable {σ : Type}

def isAbort : CommOperation → Bool
  | abort _ => true
  | _ => false

def apply (lib : Library σ) (c : Communicator) (host : Host σ) :
    CommOperation → Communicator × Host σ
  | wait limit => (c.wait lib limit host).2
  | handle => (c.nativeHandle lib host).2
  | split color key config => (c.split lib color key config host).2
  | abort reason => (c.abort lib reason host).2
  | check => (c.checkForError lib host).2
  | register ptr size => (c.register lib ptr size host).2
  | deregister ptr => (c.deregister lib ptr host).2
  | dump => (c, (c.nativeDump lib host).2)
  | explain reason => (c.setFailureReason reason, host)

def applyAll (lib : Library σ) (operations : List CommOperation) (c : Communicator)
    (host : Host σ) : Communicator × Host σ :=
  operations.foldl (fun state operation => operation.apply lib state.1 state.2) (c, host)

end CommOperation

namespace SharedCommunicator

variable {σ : Type} {s : SharedCommunicator σ}

theorem step_poll_none {lib : Library σ} {k : Nat} {goal : CommGoal} {elapsed : Duration}
    {c : Communicator} {host : Host σ} (hk : s.users[k]? = some ⟨goal, .waiting⟩)
    (hp : s.comm.pollInit lib elapsed s.host = (none, c, host)) :
    s.step lib (.poll k elapsed) = { s with comm := c, host } := by
  simp [step, poll, hk, hp]

theorem step_poll_some {lib : Library σ} {k : Nat} {goal : CommGoal} {elapsed : Duration}
    {result : Except CommError Unit} {c : Communicator} {host : Host σ}
    (hk : s.users[k]? = some ⟨goal, .waiting⟩)
    (hp : s.comm.pollInit lib elapsed s.host = (some result, c, host)) :
    s.step lib (.poll k elapsed) = { s with comm := c, host }.setStage k goal (.ofWait result) := by
  simp [step, poll, hk, hp]

/-- A wait is a run of polls and pauses. -/
theorem run_waitFrom (lib : Library σ) (limit elapsed : Duration) {k : Nat} {goal : CommGoal}
    (hk : s.users[k]? = some ⟨goal, .waiting⟩) :
    let w := s.comm.waitFrom lib limit elapsed s.host
    ∃ events : List (CommEvent σ), events.any CommEvent.isAbort = false ∧ s.run lib events =
      { s with comm := w.2.1, host := w.2.2 }.setStage k goal (.ofWait w.1) := by
  generalize hc : s.comm = c
  generalize hh : s.host = host
  fun_induction Communicator.waitFrom lib limit elapsed c host generalizing s with
  | case1 elapsed c host result c' host' hp =>
    subst hc hh
    exact ⟨[.poll k elapsed], rfl, step_poll_some hk hp⟩
  | case2 elapsed c host c' host' hp hlimit =>
    subst hc hh
    refine ⟨[.poll k elapsed, .giveUp k elapsed limit], rfl, ?_⟩
    simp only [run, List.foldl_cons, List.foldl_nil, step_poll_none hk hp]
    simp [step, giveUp, hk, CommStage.ofWait]
  | case3 elapsed c host c' host' hp hlimit rest =>
    rename_i ih
    subst hc hh
    let paused : SharedCommunicator σ := { s with comm := c', host := host'.sleep rest }
    obtain ⟨events, habort, hrun⟩ := ih (s := paused) hk rfl rfl
    refine ⟨.poll k elapsed :: .moveClock (host'.clock.advance rest) :: events, habort, ?_⟩
    simp only [run, List.foldl_cons, step_poll_none hk hp]
    exact hrun

theorem run_wait (lib : Library σ) (s : SharedCommunicator σ) (limit : Duration) :
    let w := s.comm.wait lib limit s.host
    ∃ events : List (CommEvent σ), events.any CommEvent.isAbort = false ∧ s.run lib events =
      { comm := w.2.1, host := w.2.2, users := s.users ++ [⟨.initialized, .ofWait w.1⟩] } := by
  have hk : (s.enter .initialized).users[s.users.length]? = some ⟨.initialized, .waiting⟩ := by
    simp [enter]
  obtain ⟨events, habort, hrun⟩ := run_waitFrom lib limit .zero hk
  refine ⟨.enter .initialized :: events, habort, ?_⟩
  simp only [run, List.foldl_cons]
  exact hrun.trans (by simp [enter, setStage, Communicator.wait])

theorem enter_handle {goal : CommGoal} (hgoal : goal ≠ .initialized) :
    s.enter goal = { s with users := s.users ++ [⟨goal, .ofReady s.comm.readyHandle⟩] } := by
  cases goal with
  | initialized => exact absurd rfl hgoal
  | handle => rfl
  | child => rfl

theorem step_look {lib : Library σ} {k : Nat} {goal : CommGoal} (hgoal : goal ≠ .initialized)
    (hk : s.users[k]? = some ⟨goal, .waited⟩) :
    s.step lib (.look k) = s.setStage k goal (.ofHandle s.comm.liveHandle) := by
  cases goal with
  | initialized => exact absurd rfl hgoal
  | handle => simp [step, look, hk]
  | child => simp [step, look, hk]

theorem run_handle (lib : Library σ) (s : SharedCommunicator σ) {goal : CommGoal}
    (hgoal : goal ≠ .initialized) :
    let w := s.comm.nativeHandle lib s.host
    ∃ events : List (CommEvent σ), events.any CommEvent.isAbort = false ∧ s.run lib events =
      { comm := w.2.1, host := w.2.2, users := s.users ++ [⟨goal, .ofHandle w.1⟩] } := by
  have henter := enter_handle (s := s) hgoal
  rcases hready : s.comm.readyHandle with e | _ | raw
  case error | ok.some =>
    refine ⟨[.enter goal], rfl, henter.trans ?_⟩
    simp [Communicator.nativeHandle, hready, CommStage.ofReady, CommStage.ofHandle]
  case ok.none =>
    rw [hready] at henter
    let entered := s.enter goal
    have hk : entered.users[s.users.length]? = some ⟨goal, .waiting⟩ := by
      simp [entered, henter, CommStage.ofReady]
    obtain ⟨events, habort, hrun⟩ := run_waitFrom lib s.comm.settings.initTimeout .zero hk
    have hcomm : entered.comm = s.comm := by simp [entered, henter]
    have hhost : entered.host = s.host := by simp [entered, henter]
    rw [hcomm, hhost] at hrun
    rcases hw : s.comm.waitFrom lib s.comm.settings.initTimeout .zero s.host with ⟨_ | _, c, host⟩
    case error =>
      refine ⟨.enter goal :: events, habort, hrun.trans ?_⟩
      simp [hw, entered, henter, setStage, Communicator.nativeHandle, hready, Communicator.wait,
        CommStage.ofWait, CommStage.ofHandle]
    case ok =>
      -- the wait has succeeded, and the handle is looked at again
      let waited : SharedCommunicator σ :=
        { comm := c, host, users := s.users ++ [⟨goal, .waited⟩] }
      have hwaited : s.run lib (.enter goal :: events) = waited := by
        refine hrun.trans ?_
        simp [hw, entered, henter, setStage, CommStage.ofWait, waited]
      have hk' : waited.users[s.users.length]? = some ⟨goal, .waited⟩ := by simp [waited]
      have hlook : waited.step lib (.look s.users.length) = _ := step_look hgoal hk'
      refine ⟨.enter goal :: events ++ [.look s.users.length], ?_, ?_⟩
      · simp [habort, CommEvent.isAbort]
      · rw [run_append, hwaited]
        refine hlook.trans ?_
        simp [waited, setStage, Communicator.nativeHandle, hready, Communicator.wait, hw]

theorem run_split (lib : Library σ) (s : SharedCommunicator σ) (color key : Int32)
    (config : InitConfig) :
    let w := s.comm.split lib color key config s.host
    ∃ events : List (CommEvent σ), events.any CommEvent.isAbort = false ∧ s.run lib events =
      { comm := w.2.1, host := w.2.2,
        users := s.users ++ [⟨.child color key config, .ofSplit w.1⟩] } := by
  let goal : CommGoal := .child color key config
  obtain ⟨events, habort, hrun⟩ := run_handle lib s (show goal ≠ .initialized by simp [goal])
  rcases hw : s.comm.nativeHandle lib s.host with ⟨_ | raw, c, host⟩
  case error =>
    refine ⟨events, habort, hrun.trans ?_⟩
    simp [hw, Communicator.split, CommStage.ofHandle, CommStage.ofSplit, goal]
  case ok =>
    let k := s.users.length
    have hdivide : (s.run lib events).step lib (.divide k) =
        { comm := c, host := (c.splitLocked lib raw color key config host).2,
          users := s.users ++
            [⟨goal, .ofNative (c.splitLocked lib raw color key config host).1⟩] } := by
      rw [hrun]
      simp [hw, step, divide, k, goal, CommStage.ofHandle, setStage]
    rcases hs : c.splitLocked lib raw color key config host with ⟨_ | child, host'⟩
    case error =>
      refine ⟨events ++ [.divide k], by simp [habort, CommEvent.isAbort], ?_⟩
      rw [run_append]
      refine hdivide.trans ?_
      simp [hs, Communicator.split, hw, CommStage.ofNative, CommStage.ofSplit, goal]
    case ok =>
      refine ⟨events ++ [.divide k, .adopt k], by simp [habort, CommEvent.isAbort], ?_⟩
      rw [run_append]
      simp only [run, List.foldl_cons, List.foldl_nil] at hdivide ⊢
      rw [hdivide]
      simp [hs, step, adopt, k, goal, CommStage.ofNative, CommStage.ofSplit, setStage,
        Communicator.split, hw]

/-- Every operation is a run, with an abort iff it is an abort. -/
theorem run_operation (lib : Library σ) (s : SharedCommunicator σ) (operation : CommOperation) :
    ∃ events : List (CommEvent σ), events.any CommEvent.isAbort = operation.isAbort ∧
      ((s.run lib events).comm, (s.run lib events).host) =
        operation.apply lib s.comm s.host := by
  cases operation with
  | wait limit =>
    obtain ⟨events, habort, hrun⟩ := s.run_wait lib limit
    exact ⟨events, habort, by rw [hrun]; rfl⟩
  | handle =>
    obtain ⟨events, habort, hrun⟩ := s.run_handle lib (show CommGoal.handle ≠ .initialized by simp)
    exact ⟨events, habort, by rw [hrun]; rfl⟩
  | split color key config =>
    obtain ⟨events, habort, hrun⟩ := s.run_split lib color key config
    exact ⟨events, habort, by rw [hrun]; rfl⟩
  | abort reason => exact ⟨[.abort reason], rfl, rfl⟩
  | check => exact ⟨[.check], rfl, rfl⟩
  | register ptr size => exact ⟨[.register ptr size], rfl, rfl⟩
  | deregister ptr => exact ⟨[.deregister ptr], rfl, rfl⟩
  | dump => exact ⟨[.dump], rfl, rfl⟩
  | explain reason => exact ⟨[.explain reason], rfl, rfl⟩

theorem run_operations (lib : Library σ) (s : SharedCommunicator σ)
    (operations : List CommOperation) :
    ∃ events : List (CommEvent σ),
      events.any CommEvent.isAbort = operations.any CommOperation.isAbort ∧
      ((s.run lib events).comm, (s.run lib events).host) =
        CommOperation.applyAll lib operations s.comm s.host := by
  induction operations generalizing s with
  | nil => exact ⟨[], rfl, rfl⟩
  | cons operation rest ih =>
    obtain ⟨first, habort, hfirst⟩ := s.run_operation lib operation
    obtain ⟨later, habort', hlater⟩ := ih (s.run lib first)
    refine ⟨first ++ later, by simp [habort, habort'], ?_⟩
    rw [run_append, hlater, CommOperation.applyAll, CommOperation.applyAll, List.foldl_cons,
      ← hfirst]

end SharedCommunicator

end RankTrace
