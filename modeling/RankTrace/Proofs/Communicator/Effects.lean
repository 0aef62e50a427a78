import RankTrace.Communicator.Abort
import RankTrace.Communicator.Split
import RankTrace.Table

/-!
# What a locked step of a communicator does

Every locked step but an abort is one of eight: it looks, explains, numbers a child, asks the
library about the live handle, or changes the initialization, the cached error or the table of
segments with the one call that goes with it. Every other fact about single steps is derived from
this list. An abort is a step of its own: the releases, the native abort, and the polls.
-/

namespace RankTrace

namespace NativeCall

def comm? : NativeCall → Option RawHandle
  | uniqueId | initRank .. => none
  | split comm .. | asyncError comm | abort comm | registerSegment comm .. |
    deregisterSegment comm _ | dump comm => some comm

def isAbort : NativeCall → Bool
  | abort _ => true
  | _ => false

def isSplit : NativeCall → Bool
  | split .. => true
  | _ => false

structure Plain (raw : RawHandle) (call : NativeCall) : Prop where
  comm : call.comm? = some raw
  no_abort : call.isAbort = false
  no_split : call.isSplit = false

end NativeCall

namespace Communicator

/-- The invariant of a communicator with this handle. -/
structure Coherent (raw : RawHandle) (c : Communicator) : Prop where
  handle : c.raw = if c.aborted then none else some raw
  segments : c.aborted = true → c.segments = []
  failure : c.aborted = true → c.asyncError.isFailure = true
  blocking : c.settings.nonblocking = false → c.initialized = true

inductive Uses (raw : RawHandle) (c : Communicator) : List NativeCall → Communicator → Prop
  | nothing : Uses raw c [] c
  | explain (reason : String) : Uses raw c [] (c.setFailureReason reason)
  | number : Uses raw c [] { c with splits := c.splits + 1 }
  | ask {call : NativeCall} (live : c.aborted = false) (plain : call.Plain raw) :
      Uses raw c [call] c
  | ready (live : c.aborted = false) : Uses raw c [.asyncError raw] { c with initialized := true }
  | fail (live : c.aborted = false) (status : Status) :
      Uses raw c [.asyncError raw] { c with asyncError := status }
  | table {call : NativeCall} (live : c.aborted = false) (plain : call.Plain raw)
      (segments : List (UInt64 × SegmentHandle)) : Uses raw c [call] { c with segments }
  | divide (live : c.aborted = false) (ready : c.initialized = true) (color key : Int32)
      (config : InitConfig) : Uses raw c [.split raw color key config] c

variable {σ : Type} {raw : RawHandle} {c c' : Communicator} {calls : List NativeCall}
  {host : Host σ}

namespace Uses

theorem coherent (hu : Uses raw c calls c') (h : c.Coherent raw) : c'.Coherent raw := by
  cases hu with
  | nothing | explain | number | ask | divide => exact { h with }
  | ready => exact { h with blocking := fun _ => rfl }
  | fail live => exact { h with failure := fun ha => absurd ha (by simp [live]) }
  | table live => exact { h with segments := fun ha => absurd ha (by simp [live]) }

theorem aborted_eq (hu : Uses raw c calls c') : c'.aborted = c.aborted := by
  cases hu <;> rfl

theorem initialized (hu : Uses raw c calls c') (h : c.initialized = true) :
    c'.initialized = true := by
  cases hu with
  | ready => rfl
  | nothing | explain | number | ask | fail | table | divide => exact h

theorem fixed (hu : Uses raw c calls c') : c'.rank = c.rank ∧ c'.settings = c.settings := by
  cases hu <;> exact ⟨rfl, rfl⟩

theorem calls_of_aborted (hu : Uses raw c calls c') (h : c.aborted = true) : calls = [] := by
  cases hu with
  | nothing | explain | number => rfl
  | ask live | ready live | fail live | table live | divide live =>
    rw [h] at live
    cases live

/-- Every call names the handle, none is an abort, and a split is called only while the communicator
is initialized and live. -/
theorem of_mem (hu : Uses raw c calls c') {call : NativeCall} (hm : call ∈ calls) :
    call.comm? = some raw ∧ call.isAbort = false ∧
      (call.isSplit = true → c.initialized = true ∧ c.aborted = false) := by
  cases hu with
  | nothing | explain | number => cases hm
  | ask live plain | table live plain =>
    cases List.mem_singleton.mp hm
    exact ⟨plain.comm, plain.no_abort, fun h => absurd h (by simp [plain.no_split])⟩
  | ready | fail =>
    cases List.mem_singleton.mp hm
    exact ⟨rfl, rfl, fun h => by cases h⟩
  | divide live ready =>
    cases List.mem_singleton.mp hm
    exact ⟨rfl, rfl, fun _ => ⟨ready, live⟩⟩

end Uses

def Used (raw : RawHandle) (c : Communicator) (host : Host σ) (c' : Communicator)
    (host' : Host σ) : Prop :=
  ∃ calls, Uses raw c calls c' ∧ host'.calls = calls ++ host.calls

namespace Coherent

theorem live (h : c.Coherent raw) (ha : c.aborted = false) : c.raw = some raw := by
  rw [h.handle, ha]
  rfl

theorem gone_or_live (h : c.Coherent raw) :
    c.aborted = true ∧ c.liveHandle? = none ∨ c.aborted = false ∧ c.liveHandle? = some raw := by
  unfold liveHandle?
  by_cases ha : c.aborted = true
  · exact .inl ⟨ha, if_pos ha⟩
  · have hlive := Bool.eq_false_iff.mpr ha
    exact .inr ⟨hlive, (if_neg ha).trans (h.live hlive)⟩

theorem poll (h : c.Coherent raw) (lib : Library σ) (elapsed : Duration) (host : Host σ) :
    let p := c.pollInit lib elapsed host
    Used raw c host p.2.1 p.2.2 ∧ (p.1 = some (.ok ()) → p.2.1.initialized = true) := by
  unfold pollInit
  by_cases hi : c.initialized = true
  case pos =>
    rw [if_pos hi]
    exact ⟨⟨[], .nothing, rfl⟩, fun _ => hi⟩
  rw [if_neg hi]
  rcases h.gone_or_live with ⟨_, hl⟩ | ⟨ha, hl⟩
  · rw [hl]
    exact ⟨⟨[], .nothing, rfl⟩, fun hp => by cases hp⟩
  · rw [hl]
    dsimp only
    split
    · exact ⟨⟨_, .ready ha, rfl⟩, fun _ => rfl⟩
    · exact ⟨⟨_, .ask ha ⟨rfl, rfl, rfl⟩, rfl⟩, fun hp => by cases hp⟩
    · exact ⟨⟨_, .fail ha _, rfl⟩, fun hp => by cases hp⟩
    · exact ⟨⟨_, .fail ha _, rfl⟩, fun hp => by cases hp⟩

theorem check (h : c.Coherent raw) (lib : Library σ) (host : Host σ) :
    Used raw c host (c.checkForError lib host).2.1 (c.checkForError lib host).2.2 := by
  unfold checkForError
  split
  · exact ⟨[], .nothing, rfl⟩
  split
  · exact ⟨[], .nothing, rfl⟩
  next x hx =>
  have ha : c.aborted = false := by
    cases ha : c.aborted with
    | true => simp [h.handle, ha] at hx
    | false => rfl
  obtain rfl : x = raw := by simpa [h.handle, ha] using hx.symm
  -- the answer inside and the one outside are taken alike
  dsimp only
  split
  all_goals
    split
    · exact ⟨_, .fail ha _, rfl⟩
    · exact ⟨_, .ask ha ⟨rfl, rfl, rfl⟩, rfl⟩

theorem register (h : c.Coherent raw) (lib : Library σ) (ptr size : UInt64) (host : Host σ) :
    Used raw c host (c.register lib ptr size host).2.1 (c.register lib ptr size host).2.2 := by
  unfold Communicator.register liveHandle
  rcases h.gone_or_live with ⟨_, hl⟩ | ⟨ha, hl⟩
  · rw [hl]
    exact ⟨[], .nothing, rfl⟩
  rw [hl]
  dsimp only
  split
  · exact ⟨[], .nothing, rfl⟩
  split
  · exact ⟨[], .nothing, rfl⟩
  split
  · exact ⟨_, .ask ha ⟨rfl, rfl, rfl⟩, rfl⟩
  · exact ⟨_, .table ha ⟨rfl, rfl, rfl⟩ _, rfl⟩

theorem deregister (h : c.Coherent raw) (lib : Library σ) (ptr : UInt64) (host : Host σ) :
    Used raw c host (c.deregister lib ptr host).2.1 (c.deregister lib ptr host).2.2 := by
  unfold Communicator.deregister liveHandle
  rcases h.gone_or_live with ⟨_, hl⟩ | ⟨ha, hl⟩
  · rw [hl]
    exact ⟨[], .nothing, rfl⟩
  rw [hl]
  dsimp only
  split
  · exact ⟨[], .nothing, rfl⟩
  split
  · exact ⟨[], .nothing, rfl⟩
  split
  · exact ⟨_, .table ha ⟨rfl, rfl, rfl⟩ _, rfl⟩
  · exact ⟨_, .ask ha ⟨rfl, rfl, rfl⟩, rfl⟩

theorem dump (h : c.Coherent raw) (lib : Library σ) (host : Host σ) :
    Used raw c host c (c.nativeDump lib host).2 := by
  unfold nativeDump
  rcases h.gone_or_live with ⟨_, hl⟩ | ⟨ha, hl⟩
  · rw [hl]
    exact ⟨[], .nothing, rfl⟩
  · rw [hl]
    dsimp only
    split <;> exact ⟨_, .ask ha ⟨rfl, rfl, rfl⟩, rfl⟩

end Coherent

/-- The handle may have been given out long before: the lock is taken again and the state is checked
before the native call. -/
theorem used_splitLocked (lib : Library σ) (raw : RawHandle) (color key : Int32)
    (config : InitConfig) (hi : c.initialized = true) (host : Host σ) :
    Used raw c host c (c.splitLocked lib raw color key config host).2 := by
  unfold splitLocked
  split
  · exact ⟨[], .nothing, rfl⟩
  · next ha =>
    have ha : c.aborted = false := by simpa using ha
    dsimp only
    split <;> exact ⟨_, .divide ha hi color key _, rfl⟩

/-- A poll changes `initialized` and the cached error only. -/
theorem pollInit_eq (lib : Library σ) (elapsed : Duration) (c : Communicator) (host : Host σ) :
    ∃ initialized asyncError,
      (c.pollInit lib elapsed host).2.1 = { c with initialized, asyncError } := by
  unfold pollInit
  split
  · exact ⟨_, _, rfl⟩
  · split
    · exact ⟨_, _, rfl⟩
    · dsimp only
      split <;> exact ⟨_, _, rfl⟩

theorem checkForError_eq (lib : Library σ) (c : Communicator) (host : Host σ) :
    ∃ asyncError, (c.checkForError lib host).2.1 = { c with asyncError } := by
  unfold checkForError
  split
  · exact ⟨_, rfl⟩
  · split
    · exact ⟨_, rfl⟩
    · dsimp only
      split <;> split <;> exact ⟨_, rfl⟩

theorem pollInit_segments (lib : Library σ) (elapsed : Duration) (c : Communicator)
    (host : Host σ) : (c.pollInit lib elapsed host).2.1.segments = c.segments := by
  obtain ⟨_, _, heq⟩ := c.pollInit_eq lib elapsed host
  rw [heq]

theorem checkForError_segments (lib : Library σ) (c : Communicator) (host : Host σ) :
    (c.checkForError lib host).2.1.segments = c.segments := by
  obtain ⟨_, heq⟩ := c.checkForError_eq lib host
  rw [heq]

/-- A segment is added with the answer of the library, under a new pointer. -/
theorem Coherent.register_cases (h : c.Coherent raw) (lib : Library σ) (ptr size : UInt64)
    (host : Host σ) :
    let answer := lib.answer (.registerSegment raw ptr size) host.library
    let r := c.register lib ptr size host
    (r.1 ≠ .ok () ∧ r.2.1 = c ∧ (r.2.2.library = host.library ∨
      ∃ status, answer.1 = .error status ∧ r.2.2.library = answer.2)) ∨
    ∃ segment, answer.1 = .ok segment ∧ c.segments.lookup ptr = none ∧
      r.2.1 = { c with segments := c.segments ++ [(ptr, segment)] } ∧
      r.2.2.library = answer.2 := by
  intro answer r
  unfold r Communicator.register liveHandle
  rcases h.gone_or_live with ⟨_, hl⟩ | ⟨_, hl⟩
  · rw [hl]
    exact .inl ⟨nofun, rfl, .inl rfl⟩
  rw [hl]
  dsimp only
  split
  · exact .inl ⟨nofun, rfl, .inl rfl⟩
  split
  · exact .inl ⟨nofun, rfl, .inl rfl⟩
  next hnew =>
  split
  · next status hanswer => exact .inl ⟨nofun, rfl, .inr ⟨status, hanswer, rfl⟩⟩
  · next segment hanswer =>
    exact .inr ⟨segment, hanswer, Option.not_isSome_iff_eq_none.mp hnew, rfl, rfl⟩

/-- A segment is removed after the library has released it. -/
theorem Coherent.deregister_cases (h : c.Coherent raw) (lib : Library σ) (ptr : UInt64)
    (host : Host σ) :
    let answer := fun segment => lib.answer (.deregisterSegment raw segment) host.library
    let r := c.deregister lib ptr host
    (r.2.1 = c ∧ (r.2.2.library = host.library ∨
      ∃ segment, (answer segment).1 ≠ .success ∧ r.2.2.library = (answer segment).2)) ∨
    ∃ segment, c.segments.lookup ptr = some segment ∧ (answer segment).1 = .success ∧
      r.2.1 = { c with segments := c.segments.filter (·.1 != ptr) } ∧
      r.2.2.calls = .deregisterSegment raw segment :: host.calls ∧
      r.2.2.library = (answer segment).2 := by
  intro answer r
  unfold r Communicator.deregister liveHandle
  rcases h.gone_or_live with ⟨_, hl⟩ | ⟨_, hl⟩
  · rw [hl]
    exact .inl ⟨rfl, .inl rfl⟩
  rw [hl]
  dsimp only
  split
  · exact .inl ⟨rfl, .inl rfl⟩
  split
  · exact .inl ⟨rfl, .inl rfl⟩
  next segment hsegment =>
  split
  · next hstatus =>
    have hanswer : (answer segment).1 = .success := by simpa [Status.isSuccess] using hstatus
    exact .inr ⟨segment, hsegment, hanswer, rfl, rfl, rfl⟩
  · next hstatus =>
    have hanswer : (answer segment).1 ≠ .success := by simpa [Status.isSuccess] using hstatus
    exact .inl ⟨rfl, .inr ⟨segment, hanswer, rfl⟩⟩

theorem calls_releaseSegments (lib : Library σ) (commId : String) (raw : RawHandle)
    (segments : List (UInt64 × SegmentHandle)) (host : Host σ) :
    (releaseSegments lib commId raw segments host).calls =
      (segments.map fun row => .deregisterSegment raw row.2).reverse ++ host.calls := by
  induction segments generalizing host with
  | nil => rfl
  | cons row rest ih =>
    obtain ⟨ptr, segment⟩ := row
    simp only [releaseSegments, ih, List.map_cons, List.reverse_cons, List.append_assoc,
      List.singleton_append]
    split <;> rfl

/-- Polling after an abort makes polls and pauses only. -/
theorem waitForAbortFrom_induction {lib : Library σ} {P : Host σ → Prop}
    (hcall : ∀ host, P host → P (host.call lib (.asyncError raw)).2)
    (hsleep : ∀ host d, P host → P (host.sleep d)) (limit elapsed : Duration) {host : Host σ}
    (h : P host) : P (waitForAbortFrom lib raw limit elapsed host).2 := by
  induction hleft : limit.ns - elapsed.ns using Nat.strongRecOn generalizing elapsed host with
  | ind left ih =>
    rw [waitForAbortFrom]
    dsimp only
    split
    case h_2 => exact hcall host h
    split
    case isTrue => exact hcall host h
    next hlimit =>
    have hpause := pause_pos hlimit
    have hless : limit.ns - (elapsed.ns + (pause elapsed limit).ns) < left := by omega
    exact ih _ hless ⟨elapsed.ns + (pause elapsed limit).ns⟩
      (hsleep _ (pause elapsed limit) (hcall host h)) rfl

theorem calls_waitForAbortFrom (lib : Library σ) (raw : RawHandle) (limit elapsed : Duration)
    (host : Host σ) : ∃ polls, (waitForAbortFrom lib raw limit elapsed host).2.calls =
      .replicate polls (.asyncError raw) ++ host.calls := by
  refine waitForAbortFrom_induction (P := fun h : Host σ => ∃ polls,
    h.calls = .replicate polls (.asyncError raw) ++ host.calls) ?_ ?_ limit elapsed ⟨0, rfl⟩
  · rintro h ⟨polls, hpolls⟩
    refine ⟨polls + 1, ?_⟩
    rw [Host.call_calls, hpolls, List.replicate_succ, List.cons_append]
  · rintro h d ⟨polls, hpolls⟩
    exact ⟨polls, hpolls⟩

theorem calls_nativeAbort (lib : Library σ) (raw : RawHandle) (reason : Option String)
    (c : Communicator) (host : Host σ) : ∃ polls, (nativeAbort lib raw reason c host).2.calls =
      .replicate polls (.asyncError raw) ++ .abort raw :: host.calls := by
  unfold nativeAbort
  dsimp only
  split
  · exact ⟨0, rfl⟩
  split
  · exact calls_waitForAbortFrom lib raw _ _ _
  · exact ⟨0, rfl⟩

/-- The effect of an abort on a live communicator and its calls: the releases, the native abort, the
polls. -/
theorem Coherent.abort (h : c.Coherent raw) (ha : c.aborted = false) (lib : Library σ)
    (reason : Option String) (host : Host σ) :
    (c.abort lib reason host).2.1 = c.afterAbort reason ∧
    ∃ polls, (c.abort lib reason host).2.2.calls =
      .replicate polls (.asyncError raw) ++ .abort raw ::
        ((c.segments.map fun row => .deregisterSegment raw row.2).reverse ++ host.calls) := by
  unfold Communicator.abort
  rw [if_neg (Bool.eq_false_iff.mp ha)]
  split
  · next hraw =>
    rw [h.live ha] at hraw
    cases hraw
  · next x hraw =>
    obtain rfl : raw = x := by simpa [h.live ha] using hraw
    refine ⟨rfl, ?_⟩
    obtain ⟨polls, hpolls⟩ := calls_nativeAbort lib raw reason c
      (releaseSegments lib c.commId raw c.segments host)
    rw [calls_releaseSegments] at hpolls
    exact ⟨polls, hpolls⟩

theorem Coherent.afterAbort (h : c.Coherent raw) (reason : Option String) :
    (c.afterAbort reason).Coherent raw where
  handle := rfl
  segments := fun _ => rfl
  failure := by
    intro _
    unfold Communicator.afterAbort
    dsimp only
    split
    · next hf => exact hf
    · rfl
  blocking := h.blocking

end Communicator

end RankTrace
