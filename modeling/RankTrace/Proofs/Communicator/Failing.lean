import RankTrace.Proofs.Communicator.Aborting
import RankTrace.Proofs.Communicator.Joining

/-!
# Operations that fail

An operation that fails leaves the communicator unchanged, except for its initialization: a wait
whose query fails caches the error, and a split that first has to wait may fail after the wait has
succeeded. A refusal of a rank or a world size makes no call.
-/

namespace RankTrace

def CommError.isOutOfWorld : CommError → Bool
  | invalidRank .. | invalidBootstrap _ => true
  | _ => false

namespace Communicator

variable {σ : Type} {lib : Library σ} {raw : RawHandle} {c : Communicator} {host : Host σ}
  {e : CommError}

theorem register_error {ptr size : UInt64} (he : (c.register lib ptr size host).1 = .error e) :
    (c.register lib ptr size host).2.1 = c := by
  revert he
  unfold register
  split
  · exact fun _ => rfl
  split
  · exact fun _ => rfl
  split
  · exact fun _ => rfl
  dsimp only
  split
  · exact fun _ => rfl
  · exact nofun

theorem deregister_error {ptr : UInt64} (he : (c.deregister lib ptr host).1 = .error e) :
    (c.deregister lib ptr host).2.1 = c := by
  revert he
  unfold deregister
  split
  · exact fun _ => rfl
  split
  · exact fun _ => rfl
  split
  · exact fun _ => rfl
  dsimp only
  split
  · exact nofun
  · exact fun _ => rfl

def OnlyPolls (raw : RawHandle) (host host' : Host σ) : Prop :=
  ∃ polls, host'.calls = .replicate polls (.asyncError raw) ++ host.calls

theorem OnlyPolls.refl (raw : RawHandle) (host : Host σ) : OnlyPolls raw host host := ⟨0, rfl⟩

/-- The effect of a wait. Success sets `initialized`, and the status of a failing query is
cached. -/
inductive Waited (c : Communicator) : Except CommError Unit → Communicator → Prop
  | ready : Waited c (.ok ()) { c with initialized := true }
  | expired (elapsed limit : Duration) :
      Waited c (.error (.timeout .initialization elapsed limit)) c
  | gone (ha : c.aborted = true) : Waited c (.error c.abortedError) c
  | refused (status : Status) (version detail : String) :
      Waited c (.error (.native .initialization status version detail))
        { c with asyncError := status }

theorem Waited.of_settled (limit : Duration) (polled : Host σ) (answer : Except Status Status) :
    let settled := c.settledWait limit (c.waitError lib raw polled) answer
    Waited c settled.1 settled.2 := by
  rcases answer with status | status
  · exact .refused status _ _
  · cases status with
    | inProgress => exact .expired limit limit
    | success => exact .ready
    | _ => exact .refused _ _ _

theorem Waited.of_error {c' : Communicator} (h : Waited c (.error e) c') :
    (∃ asyncError, c' = { c with asyncError }) ∧
      (e.isTimeout = true ∨ e.isAborted = true → c' = c) := by
  cases h with
  | expired => exact ⟨⟨_, rfl⟩, fun _ => rfl⟩
  | gone => exact ⟨⟨_, rfl⟩, fun _ => rfl⟩
  | refused =>
    refine ⟨⟨_, rfl⟩, ?_⟩
    rintro (htimeout | haborted)
    · cases htimeout
    · cases haborted

theorem Coherent.waited (h : c.Coherent raw) (lib : Library σ) (limit : Duration) (host : Host σ) :
    let r := c.wait lib limit host
    Waited c r.1 r.2.1 ∧ OnlyPolls raw host r.2.2 := by
  cases hi : c.initialized with
  | true =>
    have hr : c.wait lib limit host = (.ok (), c, host) := by
      rw [wait, waitFrom, pollInit, if_pos hi]
    rw [hr]
    have hready := Waited.ready (c := c)
    rw [← hi] at hready
    exact ⟨hready, .refl raw host⟩
  | false =>
    rcases h.gone_or_live with ⟨ha, hl⟩ | ⟨_, hl⟩
    · have hr : c.wait lib limit host = (.error c.abortedError, c, host) := by
        rw [wait, waitFrom, pollInit, if_neg (Bool.eq_false_iff.mp hi), hl]
      rw [hr]
      exact ⟨.gone ha, .refl raw host⟩
    · obtain ⟨k, hstops, hsettled⟩ := wait_stops hi hl lib limit host
      obtain ⟨hresult, hcomm⟩ := Prod.mk.inj hsettled
      refine ⟨?_, k + 1, hstops.calls⟩
      rw [hresult, hcomm]
      exact .of_settled limit _ _

theorem Coherent.eq_raw (h : c.Coherent raw) {x : RawHandle} (hx : c.liveHandle = .ok x) :
    x = raw := by
  obtain ⟨ha, hraw⟩ := liveHandle_eq_ok hx
  exact Option.some.inj (hraw.symm.trans (h.live ha))

structure Sought (raw : RawHandle) (c : Communicator) (result : Except CommError RawHandle)
    (c' : Communicator) : Prop where
  state : ∃ initialized asyncError, c' = { c with initialized, asyncError }
  settled : c.initialized = true ∨ c.settings.nonblocking = false → c' = c
  handle : ∀ x, result = .ok x → x = raw ∧ c'.aborted = false

theorem Coherent.sought (h : c.Coherent raw) (lib : Library σ) (host : Host σ) :
    let r := c.nativeHandle lib host
    Sought raw c r.1 r.2.1 ∧ OnlyPolls raw host r.2.2 := by
  unfold nativeHandle
  split
  · exact ⟨⟨⟨_, _, rfl⟩, fun _ => rfl, nofun⟩, .refl raw host⟩
  · next x hready =>
    refine ⟨⟨⟨_, _, rfl⟩, fun _ => rfl, ?_⟩, .refl raw host⟩
    rintro _ ⟨⟩
    have hlive := readyHandle_eq_some hready
    exact ⟨h.eq_raw hlive, (liveHandle_eq_ok hlive).1⟩
  · next hready =>
    -- it has to be waited for, so it is neither initialized nor blocking
    have hpending : ¬ (c.initialized = true ∨ c.settings.nonblocking = false) := by
      unfold readyHandle at hready
      split at hready
      · cases hready
      · intro hsettled
        rcases hsettled with hi | hn
        · simp [hi] at hready
        · simp [hn] at hready
    obtain ⟨hwaited, hpolls⟩ := h.waited lib c.settings.initTimeout host
    rcases hw : c.wait lib c.settings.initTimeout host with ⟨_ | _, c', host'⟩
    all_goals
      rw [hw] at hwaited hpolls
      dsimp only at hwaited
      refine ⟨⟨?_, fun hsettled => absurd hsettled hpending, ?_⟩, hpolls⟩
    · cases hwaited <;> exact ⟨_, _, rfl⟩
    · exact nofun
    · cases hwaited
      exact ⟨_, _, rfl⟩
    · intro x hx
      cases hwaited
      have h' : Coherent raw { c with initialized := true } := { h with blocking := fun _ => rfl }
      exact ⟨h'.eq_raw hx, (liveHandle_eq_ok hx).1⟩

/-- No child was made: the calls are polls, with at most one split at the end that was refused. -/
def Childless (lib : Library σ) (raw : RawHandle) (color key : Int32) (config : InitConfig)
    (host : Host σ) (e : CommError) (host' : Host σ) : Prop :=
  OnlyPolls raw host host' ∨ ∃ polled status version detail, OnlyPolls raw host polled ∧
    let asked := polled.call lib (.split raw color key config)
    asked.1 = .error status ∧ host' = asked.2 ∧ e = .native .split status version detail

theorem Coherent.split_error (h : c.Coherent raw) {color key : Int32} {config : InitConfig}
    (he : (c.split lib color key config host).1 = .error e) :
    let r := c.split lib color key config host
    (∃ initialized asyncError, r.2.1 = { c with initialized, asyncError }) ∧
    (c.initialized = true ∨ c.settings.nonblocking = false → r.2.1 = c) ∧
    Childless lib raw color key (effectiveConfig c.settings config) host e r.2.2 := by
  obtain ⟨hsought, hpolls⟩ := h.sought lib host
  revert he
  unfold split
  rcases hn : c.nativeHandle lib host with ⟨_ | x, c', host'⟩
  all_goals
    rw [hn] at hsought hpolls
  case error => exact fun _ => ⟨hsought.state, hsought.settled, .inl hpolls⟩
  case ok =>
    obtain ⟨rfl, ha⟩ := hsought.handle x rfl
    have hsettings : c'.settings = c.settings := by
      obtain ⟨_, _, heq⟩ := hsought.state
      exact congrArg (·.settings) heq
    unfold splitLocked
    dsimp only
    rw [if_neg (Bool.eq_false_iff.mp ha), hsettings]
    rcases hasked : host'.call lib (.split x color key (effectiveConfig c.settings config)) with
      ⟨status | child, host''⟩
    · rintro ⟨⟩
      refine ⟨hsought.state, hsought.settled, .inr ⟨host', status, _, _, hpolls, ?_, ?_, rfl⟩⟩
      · rw [hasked]
      · rw [hasked]
    · exact nofun

/-- A creation is refused for its rank iff the rank is outside the world. -/
theorem create_refused_iff (lib : Library σ) (settings : CommSettings) (worldSize rank : Int32)
    (id : UniqueId) (config : InitConfig) (host : Host σ) :
    (∃ e, (create lib settings worldSize rank id config host).1 = .error e ∧
      e.isOutOfWorld = true) ↔ rank < 0 ∨ worldSize ≤ rank := by
  constructor
  · rintro ⟨e, he, hout⟩
    by_contra hinside
    revert he
    unfold create
    rw [if_neg hinside]
    dsimp only
    split
    · rintro ⟨⟩
      cases hout
    · exact nofun
  · intro houtside
    rw [create_outside houtside]
    exact ⟨_, rfl, rfl⟩

structure Releasable (lib : Library σ) (raw : RawHandle) (c : Communicator) (ptr : UInt64)
    (segment : SegmentHandle) (host : Host σ) : Prop where
  retry : lib.supportsRegistration host.library = true →
    (c.deregister lib ptr host).2.2.calls = .deregisterSegment raw segment :: host.calls
  abort : ∀ reason, ∃ polls releases, .deregisterSegment raw segment ∈ releases ∧
    (c.abort lib reason host).2.2.calls =
      .replicate polls (.asyncError raw) ++ .abort raw :: (releases ++ host.calls)

theorem Coherent.releasable (h : c.Coherent raw) (ha : c.aborted = false)
    (hkeys : (c.segments.map Prod.fst).Nodup) {ptr : UInt64} {segment : SegmentHandle}
    (hrow : (ptr, segment) ∈ c.segments) (lib : Library σ) (host : Host σ) :
    c.Releasable lib raw ptr segment host where
  retry := by
    intro hsupported
    have hlive : c.liveHandle = .ok raw := by
      rcases h.gone_or_live with ⟨hgone, _⟩ | ⟨_, hl⟩
      · rw [ha] at hgone
        cases hgone
      · rw [liveHandle, hl]
    have hlookup : c.segments.lookup ptr = some segment := Table.lookup_of_mem hkeys hrow
    unfold Communicator.deregister
    rw [hlive]
    simp only [hsupported, hlookup, Bool.not_true, Bool.false_eq_true, if_false]
    split <;> rfl
  abort := by
    intro reason
    obtain ⟨_, polls, hcalls⟩ := h.abort ha lib reason host
    refine ⟨polls, _, ?_, hcalls⟩
    exact List.mem_reverse.mpr (List.mem_map_of_mem hrow)

end Communicator

theorem Bootstrap.join_refused {σ : Type} {b : Bootstrap} {rank : UInt64} (h : ¬ b.Admits rank)
    (lib : Library σ) (settings : CommSettings) (config : InitConfig) (host : Host σ) :
    ∃ e, b.join lib settings rank config host = (.error e, host) ∧ e.isOutOfWorld = true := by
  by_cases hworld : b.worldSize.toNat ≤ maxInt32
  · have hrank : b.worldSize ≤ rank := UInt64.not_lt.mp fun hroom => h ⟨hroom, hworld⟩
    obtain ⟨shown, worldSize, _, _, heq⟩ := join_outside hworld hrank lib settings config host
    exact ⟨_, heq, rfl⟩
  · exact ⟨_, join_oversized (Nat.lt_of_not_le hworld) lib settings rank config host, rfl⟩

theorem Bootstrap.join_refused_iff {σ : Type} (b : Bootstrap) (lib : Library σ)
    (settings : CommSettings) (rank : UInt64) (config : InitConfig) (host : Host σ) :
    (∃ e, (b.join lib settings rank config host).1 = .error e ∧ e.isOutOfWorld = true) ↔
      ¬ b.Admits rank := by
  constructor
  · rintro ⟨e, he, hout⟩ hadmits
    obtain ⟨worldSize, key, _, _, _, hok, herror⟩ :=
      join_admitted hadmits lib settings config host
    rcases hanswer : (lib.answer (.initRank worldSize key b.uniqueId
      { config with blocking := !settings.nonblocking }) host.library).1 with status | raw
    · rw [herror status hanswer] at he
      cases he
      cases hout
    · rw [hok raw hanswer] at he
      cases he
  · intro hno
    obtain ⟨e, heq, hout⟩ := join_refused hno lib settings config host
    exact ⟨e, congrArg Prod.fst heq, hout⟩

namespace SharedCommunicator

open Communicator (Origin Childless)
open NativeCall (ReleasedFirst)

variable {σ : Type} {raw : RawHandle}

/-- A segment of the table, after any events. -/
theorem Coherent.stays_releasable {s : SharedCommunicator σ} (h : s.Coherent raw)
    (hkeys : (s.comm.segments.map Prod.fst).Nodup) {ptr : UInt64} {segment : SegmentHandle}
    (hrow : (ptr, segment) ∈ s.comm.segments) (lib : Library σ) (later : List (CommEvent σ)) :
    let last := s.run lib later
    ∃ since, last.host.calls = since ++ s.host.calls ∧ ReleasedFirst raw segment since ∧
      (last.comm.aborted = false →
        ((ptr, segment) ∈ last.comm.segments ∨ .deregisterSegment raw segment ∈ since) ∧
        ((ptr, segment) ∈ last.comm.segments →
          last.comm.Releasable lib raw ptr segment last.host)) := by
  intro last
  have hfollows : s.Follows raw ptr segment [] :=
    ⟨NativeCall.releasedFirst_nil, fun _ => .inl hrow⟩
  obtain ⟨since, hcalls, hreleased, hheld⟩ := h.follows_run hkeys hfollows lib later
  rw [List.append_nil] at hreleased hheld
  refine ⟨since, hcalls, hreleased, fun ha => ⟨hheld ha, fun hthere => ?_⟩⟩
  exact (h.run lib later).comm.releasable ha (h.nodup_run hkeys lib later) hthere lib last.host

/-- In any reachable state and for any library. A failing registration, deregistration or dump
leaves the communicator unchanged. A failing split makes no child, and changes the communicator only
by the initialization that it waited for. A failing wait changes the cached error only, and not even
that after a timeout or an abort. A refusal of a rank or a world size makes no call.

After a failing deregistration the segment stays in the table of a live communicator until a later
call asks for its release. While it is there, the next deregistration makes that call, and so does
an abort, before the native abort. -/
theorem failures_leave_no_trace {c₀ : Communicator} (h : Origin raw c₀) (earlier : Library σ)
    (host₀ : Host σ) (events : List (CommEvent σ)) (lib : Library σ) (host : Host σ) :
    let s := (start c₀ host₀).run earlier events
    let c := s.comm
    (∀ ptr size e, let r := c.register lib ptr size host
      r.1 = .error e → r.2.1 = c) ∧
    (∀ ptr e, let r := c.deregister lib ptr host
      r.1 = .error e → r.2.1 = c ∧
      ∀ segment, c.segments.lookup ptr = some segment → ∀ later : List (CommEvent σ),
        let last := ({ s with host := r.2.2 } : SharedCommunicator σ).run lib later
        ∃ since, last.host.calls = since ++ r.2.2.calls ∧ ReleasedFirst raw segment since ∧
          (last.comm.aborted = false →
            ((ptr, segment) ∈ last.comm.segments ∨ .deregisterSegment raw segment ∈ since) ∧
            ((ptr, segment) ∈ last.comm.segments →
              last.comm.Releasable lib raw ptr segment last.host))) ∧
    (CommOperation.dump.apply lib c host).1 = c ∧
    (∀ color key config e, let r := c.split lib color key config host
      r.1 = .error e →
        (∃ initialized asyncError, r.2.1 = { c with initialized, asyncError }) ∧
        (c.initialized = true ∨ c.settings.nonblocking = false → r.2.1 = c) ∧
        Childless lib raw color key { config with blocking := !c.settings.nonblocking } host e
          r.2.2) ∧
    (∀ limit e, let r := c.wait lib limit host
      r.1 = .error e → (∃ asyncError, r.2.1 = { c with asyncError }) ∧
        (e.isTimeout = true ∨ e.isAborted = true → r.2.1 = c)) ∧
    (∀ settings worldSize rank id config,
      let r := Communicator.create lib settings worldSize rank id config host
      ((∃ e, r.1 = .error e ∧ e.isOutOfWorld = true) ↔ rank < 0 ∨ worldSize ≤ rank) ∧
        ((∃ e, r.1 = .error e ∧ e.isOutOfWorld = true) → r.2 = host)) ∧
    (∀ (b : Bootstrap) settings rank config, let r := b.join lib settings rank config host
      ((∃ e, r.1 = .error e ∧ e.isOutOfWorld = true) ↔ ¬ b.Admits rank) ∧
        ((∃ e, r.1 = .error e ∧ e.isOutOfWorld = true) → r.2 = host)) := by
  intro s c
  have hs : s.Coherent raw := (coherent_start h host₀).run earlier events
  have hkeys : (c.segments.map Prod.fst).Nodup := by
    refine (coherent_start h host₀).nodup_run ?_ earlier events
    obtain ⟨settings, uniqueId, commId, rank, rfl⟩ := h.eq_fresh
    exact List.nodup_nil
  refine ⟨fun ptr size e => Communicator.register_error, ?_, rfl,
    fun color key config e => hs.comm.split_error, ?_, ?_, ?_⟩
  · intro ptr e r he
    have hsame : r.2.1 = c := Communicator.deregister_error he
    refine ⟨hsame, ?_⟩
    intro segment hlookup later last
    have hfailed : ({ s with host := r.2.2 } : SharedCommunicator σ).Coherent raw :=
      ⟨hs.comm, hs.users⟩
    exact hfailed.stays_releasable hkeys (Table.mem_of_lookup hlookup) lib later
  · intro limit e r he
    obtain ⟨hwaited, _⟩ := hs.comm.waited lib limit host
    exact (show Communicator.Waited c (.error e) r.2.1 from he ▸ hwaited).of_error
  · intro settings worldSize rank id config r
    have hiff := Communicator.create_refused_iff lib settings worldSize rank id config host
    refine ⟨hiff, fun hrefused => ?_⟩
    exact congrArg Prod.snd
      (Communicator.create_outside (hiff.mp hrefused) lib settings id config host)
  · intro b settings rank config r
    have hiff := b.join_refused_iff lib settings rank config host
    refine ⟨hiff, fun hrefused => ?_⟩
    obtain ⟨_, heq, _⟩ := Bootstrap.join_refused (hiff.mp hrefused) lib settings config host
    exact congrArg Prod.snd heq

end SharedCommunicator

/-- A refused release; the next deregistration of the pointer asks for the same segment. -/
theorem refusedRelease_retried :
    let s := (SharedCommunicator.start createdCommunicator createdHost).run Scripted.library
      [.register 0x2000 64]
    let r := s.comm.deregister Scripted.library 0x2000 refusingHost
    let last := ({ s with host := r.2.2 } : SharedCommunicator Scripted).run Scripted.library
      [.moveLibrary { comms := [(0x1000, {})] }]
    (∃ e, r.1 = .error e) ∧ r.2.1 = s.comm ∧
      (last.comm.deregister Scripted.library 0x2000 last.host).2.2.calls =
        .deregisterSegment ⟨0x1000⟩ ⟨0x2000 ^^^ Scripted.segmentMask⟩ :: last.host.calls := by
  intro s r last
  obtain ⟨_, hderegister, _⟩ := SharedCommunicator.failures_leave_no_trace
    origin_createdCommunicator Scripted.library createdHost [.register 0x2000 64]
    Scripted.library refusingHost
  obtain ⟨hsame, hlater⟩ := hderegister 0x2000 _ rfl
  obtain ⟨_, _, _, hlive⟩ := hlater ⟨0x2000 ^^^ Scripted.segmentMask⟩ rfl
    [.moveLibrary { comms := [(0x1000, {})] }]
  obtain ⟨_, hreleasable⟩ := hlive rfl
  exact ⟨⟨_, rfl⟩, hsame, (hreleasable List.mem_cons_self).retry rfl⟩

end RankTrace
