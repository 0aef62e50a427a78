import RankTrace.Proofs.Trace.Steps

/-!
# Many threads on one recorder

Every locked part of an operation is one event: recording, a snapshot, setting ranks, and each half
of a retirement. A retirement that has taken markers waits for the device between its halves, and
operations that the device records meanwhile are events of their own. Any thread may make any event
at any time, and the device may change its mind at any time.

Ids are natural numbers, as in the recorder: the results hold for runs that record fewer than
`2 ^ 64` operations, before a counter of 64 bits wraps. The history is for statements only; no event
reads it.
-/

namespace RankTrace

inductive RetiringStage
  | claimed (start stop : MarkerId)
  /-- The device has been asked. What it records meanwhile is still to come. -/
  | asked (reply : Reply (Except ProbeError Single)) (meanwhile : List Issued)
  | finished

structure Retiring where
  id : Nat
  stage : RetiringStage

inductive RetiringNote
  | recorded (id : Nat) (op : Issued)
  | probed (id : Nat) (start stop : MarkerId) (reply : Reply (Except ProbeError Single))
  | committed (id : Nat) (duration : Single)

/-- A recorder that threads share, the device, and all retirements that have taken markers. -/
structure SharedRecorder (δ : Type) where
  recorder : Recorder
  device : δ
  retiring : List Retiring := []
  history : List RetiringNote := []

/-- One step of one thread, or of the device. Retirements go by their place in the list. -/
inductive ThreadEvent (δ : Type)
  | record (m : Recorder.Moment) (op : Issued)
  | snapshot (now : Int64)
  | setRanks (group : GroupName) (ranks : List UInt64)
  | claim (now : Int64) (id : Option Nat) (withDuration : Bool)
  | probe (k : Nat)
  | recordMeanwhile (k : Nat) (m : Recorder.Moment)
  | commit (k : Nat)
  | moveDevice (d : δ)

namespace SharedRecorder

variable {δ : Type}

def start (capacity : Nat) (captureStacks : Bool) (d : δ) : SharedRecorder δ where
  recorder := .new capacity captureStacks
  device := d

def record (s : SharedRecorder δ) (m : Recorder.Moment) (op : Issued) : SharedRecorder δ :=
  match s.recorder.record m op with
  | (none, recorder) => { s with recorder }
  | (some id, recorder) => { s with recorder, history := .recorded id op :: s.history }

/-- The first half of retiring. Nothing happens without an id or with a disabled recorder. -/
def claim (dev : Device δ) (s : SharedRecorder δ) (now : Int64) (id : Option Nat)
    (withDuration : Bool) : SharedRecorder δ :=
  match id with
  | none => s
  | some id =>
    if !s.recorder.isEnabled then s
    else
      match s.recorder.claim dev now id withDuration s.device with
      | (.markers start stop, recorder, device) =>
        { s with recorder, device, retiring := s.retiring ++ [⟨id, .claimed start stop⟩] }
      | (_, recorder, device) => { s with recorder, device }

def probe (dev : Device δ) (s : SharedRecorder δ) (k : Nat) : SharedRecorder δ :=
  match s.retiring[k]? with
  | some ⟨id, .claimed start stop⟩ =>
    let (reply, meanwhile, device) := dev.probe start stop s.device
    { s with
      device
      retiring := s.retiring.set k ⟨id, .asked reply meanwhile⟩
      history := .probed id start stop reply :: s.history }
  | _ => s

def recordMeanwhile (s : SharedRecorder δ) (k : Nat) (m : Recorder.Moment) : SharedRecorder δ :=
  match s.retiring[k]? with
  | some ⟨id, .asked reply (op :: rest)⟩ =>
    { s with retiring := s.retiring.set k ⟨id, .asked reply rest⟩ }.record m op
  | _ => s

def commit (s : SharedRecorder δ) (k : Nat) : SharedRecorder δ :=
  match s.retiring[k]? with
  | some ⟨id, .asked reply []⟩ =>
    let s := { s with retiring := s.retiring.set k ⟨id, .finished⟩ }
    match reply with
    | .answered (.ok duration) =>
      { s with
        recorder := (s.recorder.commit id duration).2
        history := .committed id duration :: s.history }
    | _ => s
  | _ => s

def step (dev : Device δ) (s : SharedRecorder δ) : ThreadEvent δ → SharedRecorder δ
  | .record m op => s.record m op
  | .snapshot now =>
    let (_, recorder, device) := s.recorder.snapshot dev now s.device
    { s with recorder, device }
  | .setRanks group ranks => { s with recorder := s.recorder.setRanks group ranks }
  | .claim now id withDuration => s.claim dev now id withDuration
  | .probe k => s.probe dev k
  | .recordMeanwhile k m => s.recordMeanwhile k m
  | .commit k => s.commit k
  | .moveDevice d => { s with device := d }

def run (dev : Device δ) (s : SharedRecorder δ) (events : List (ThreadEvent δ)) :
    SharedRecorder δ :=
  events.foldl (step dev) s

theorem run_induction {dev : Device δ} {P : SharedRecorder δ → Prop}
    (hstep : ∀ s event, P s → P (s.step dev event)) {s : SharedRecorder δ} (h : P s)
    (events : List (ThreadEvent δ)) : P (s.run dev events) :=
  List.foldlRecOn events _ h fun s hs event _ => hstep s event hs

theorem record_recorder (s : SharedRecorder δ) (m : Recorder.Moment) (op : Issued) :
    (s.record m op).recorder = (s.recorder.record m op).2 := by
  unfold record
  split <;> next heq => rw [heq]

theorem record_device (s : SharedRecorder δ) (m : Recorder.Moment) (op : Issued) :
    (s.record m op).device = s.device := by
  unfold record
  split <;> rfl

theorem record_retiring (s : SharedRecorder δ) (m : Recorder.Moment) (op : Issued) :
    (s.record m op).retiring = s.retiring := by
  unfold record
  split <;> rfl

theorem run_recordMeanwhile (dev : Device δ) (m : Recorder.Moment) (ops : List Issued)
    {s : SharedRecorder δ} {k id : Nat} {reply : Reply (Except ProbeError Single)}
    (hk : s.retiring[k]? = some ⟨id, .asked reply ops⟩) :
    let s' := s.run dev (.replicate ops.length (.recordMeanwhile k m))
    s'.recorder = s.recorder.recordAll m ops ∧ s'.device = s.device ∧
      s'.retiring[k]? = some ⟨id, .asked reply []⟩ := by
  induction ops generalizing s with
  | nil => exact ⟨rfl, rfl, hk⟩
  | cons op rest ih =>
    let between : SharedRecorder δ :=
      { s with retiring := s.retiring.set k ⟨id, .asked reply rest⟩ }
    have hstep : s.step dev (.recordMeanwhile k m) = between.record m op := by
      simp only [step, recordMeanwhile, hk, between]
    have hlt := (List.getElem?_eq_some_iff.mp hk).1
    have hk' : (between.record m op).retiring[k]? = some ⟨id, .asked reply rest⟩ := by
      rw [record_retiring]
      exact List.getElem?_set_self hlt
    obtain ⟨hrecorder, hdevice, hretiring⟩ := ih hk'
    simp only [List.length_cons, List.replicate_succ, run, List.foldl_cons, hstep]
    refine ⟨hrecorder.trans ?_, hdevice.trans ?_, hretiring⟩
    · rw [record_recorder]
      rfl
    · rw [record_device]

/-- One retirement from its first half to its second, at place `k`, while the device records `n`
operations and nobody else does anything. -/
def undisturbed (k n : Nat) (m : Recorder.Moment) (id : Option Nat) (withDuration : Bool) :
    List (ThreadEvent δ) :=
  .claim m.now id withDuration :: .probe k :: (.replicate n (.recordMeanwhile k m) ++ [.commit k])

theorem run_undisturbed_of_no_markers {dev : Device δ} {s s' : SharedRecorder δ}
    {m : Recorder.Moment} {id : Option Nat} {w : Bool} {k : Nat}
    (hclaim : s.claim dev m.now id w = s') (hk : s'.retiring[k]? = none) :
    s.run dev (undisturbed k 0 m id w) = s' := by
  simp [undisturbed, run, step, hclaim, probe, commit, hk]

theorem claim_of_markers {dev : Device δ} {s : SharedRecorder δ} {now : Int64} {id : Nat} {w : Bool}
    {start stop : MarkerId} {r : Recorder} {d : δ} (henabled : s.recorder.isEnabled)
    (hr : s.recorder.claim dev now id w s.device = (.markers start stop, r, d)) :
    s.claim dev now (some id) w = { s with
      recorder := r, device := d, retiring := s.retiring ++ [⟨id, .claimed start stop⟩] } := by
  simp [claim, henabled, hr]

/-- An undisturbed retirement is a run of its two halves and the records between them. -/
theorem run_undisturbed (dev : Device δ) (s : SharedRecorder δ) (m : Recorder.Moment)
    (id : Option Nat) (w : Bool) :
    ∃ n, let s' := s.run dev (undisturbed s.retiring.length n m id w)
      s'.recorder = (s.recorder.retire dev m id w s.device).2.1 ∧
      s'.device = (s.recorder.retire dev m id w s.device).2.2 := by
  have hnone : s.retiring[s.retiring.length]? = none := List.getElem?_eq_none (Nat.le_refl _)
  cases id with
  | none => exact ⟨0, by rw [run_undisturbed_of_no_markers rfl hnone]; exact ⟨rfl, rfl⟩⟩
  | some id =>
    by_cases henabled : s.recorder.isEnabled
    case neg =>
      have hclaim : s.claim dev m.now (some id) w = s := by simp [claim, henabled]
      refine ⟨0, ?_⟩
      rw [run_undisturbed_of_no_markers hclaim hnone]
      simp [Recorder.retire, henabled]
    simp only [Recorder.retire, henabled, Bool.not_true, Bool.false_eq_true, ↓reduceIte]
    rcases hr : s.recorder.claim dev m.now id w s.device with ⟨_ | _ | _ | ⟨start, stop⟩, r, d⟩
    case skipped | unwound | done =>
      have hclaim : s.claim dev m.now (some id) w = { s with recorder := r, device := d } := by
        simp [claim, henabled, hr]
      exact ⟨0, by rw [run_undisturbed_of_no_markers hclaim hnone]; exact ⟨rfl, rfl⟩⟩
    case markers =>
      rcases hp : dev.probe start stop d with ⟨reply, ops, d'⟩
      let k := s.retiring.length
      let asked : SharedRecorder δ :=
        { recorder := r, device := d', retiring := s.retiring ++ [⟨id, .asked reply ops⟩],
          history := .probed id start stop reply :: s.history }
      have hprobe : (s.step dev (.claim m.now (some id) w)).step dev (.probe k) = asked := by
        simp [step, probe, claim_of_markers henabled hr, k, asked, hp]
      have hasked : asked.retiring[k]? = some ⟨id, .asked reply ops⟩ := by simp [asked, k]
      obtain ⟨hrecorder, hdevice, hretiring⟩ := run_recordMeanwhile dev m ops hasked
      have hrun : s.run dev (undisturbed k ops.length m (some id) w) =
          (asked.run dev (.replicate ops.length (.recordMeanwhile k m))).commit k := by
        simp only [undisturbed, run, List.foldl_cons, List.foldl_append, List.foldl_nil, hprobe]
        rfl
      refine ⟨ops.length, ?_⟩
      rw [hrun]
      rcases reply with (_ | duration) | _
      case answered.error | unwound => simp [commit, hretiring, hrecorder, hdevice, hp, asked]
      case answered.ok =>
        simp only [commit, hretiring, hrecorder, hdevice, hp, asked]
        rcases (r.recordAll m ops).commit id duration with ⟨_ | _, r'⟩ <;> exact ⟨rfl, rfl⟩

end SharedRecorder

end RankTrace
