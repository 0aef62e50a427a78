import RankTrace.Proofs.Trace.Threads

/-!
# Retiring among other threads

Ids are unique and a retirement takes the markers of its entry away, so at most one retirement of an
id asks the device, with the markers recorded under that id, and at most one duration is committed
for it. Nothing is written if the entry was overwritten meanwhile.
-/

namespace RankTrace

namespace Retiring

def isClaimed (id : Nat) : Retiring → Bool
  | ⟨i, .claimed ..⟩ => i == id
  | _ => false

def isAsked (id : Nat) : Retiring → Bool
  | ⟨i, .asked ..⟩ => i == id
  | _ => false

theorem eq_of_isClaimed {id : Nat} {t : Retiring} (h : t.isClaimed id = true) :
    ∃ start stop, t = ⟨id, .claimed start stop⟩ := by
  obtain ⟨i, stage⟩ := t
  cases stage with
  | claimed start stop =>
    obtain rfl : i = id := by simpa [isClaimed] using h
    exact ⟨start, stop, rfl⟩
  | asked => cases h
  | finished => cases h

end Retiring

namespace RetiringNote

def isRecorded (id : Nat) : RetiringNote → Bool
  | recorded i _ => i == id
  | _ => false

def isProbed (id : Nat) : RetiringNote → Bool
  | probed i .. => i == id
  | _ => false

def isCommitted (id : Nat) : RetiringNote → Bool
  | committed i _ => i == id
  | _ => false

theorem eq_of_isRecorded {id : Nat} {note : RetiringNote} (h : note.isRecorded id = true) :
    ∃ op, note = .recorded id op := by
  cases note with
  | recorded i op =>
    obtain rfl : i = id := by simpa [isRecorded] using h
    exact ⟨op, rfl⟩
  | probed => cases h
  | committed => cases h

theorem eq_of_isProbed {id : Nat} {note : RetiringNote} (h : note.isProbed id = true) :
    ∃ start stop reply, note = .probed id start stop reply := by
  cases note with
  | probed i start stop reply =>
    obtain rfl : i = id := by simpa [isProbed] using h
    exact ⟨start, stop, reply, rfl⟩
  | recorded => cases h
  | committed => cases h

end RetiringNote

namespace SharedRecorder

variable {δ : Type} {dev : Device δ} {s s' : SharedRecorder δ}

def RecordedWith (s : SharedRecorder δ) (id : Nat) (start stop : MarkerId) : Prop :=
  ∃ op, .recorded id op ∈ s.history ∧ op.start = some start ∧ op.stop = some stop

def NoteFounded (s : SharedRecorder δ) : RetiringNote → Prop
  | .recorded .. => True
  | .probed id start stop _ => s.RecordedWith id start stop
  | .committed id duration =>
    ∃ start stop, .probed id start stop (.answered (.ok duration)) ∈ s.history

def RetiringFounded (s : SharedRecorder δ) : Retiring → Prop
  | ⟨id, .claimed start stop⟩ => s.RecordedWith id start stop
  | ⟨id, .asked reply _⟩ => ∃ start stop, .probed id start stop reply ∈ s.history
  | ⟨_, .finished⟩ => True

/-- An entry has only the markers it was recorded with, and only a committed duration. -/
structure EntryFounded (s : SharedRecorder δ) (e : Entry) : Prop where
  recorded : ∃ op, .recorded e.id op ∈ s.history ∧
    (∀ m, e.start = some m → op.start = some m) ∧ (∀ m, e.stop = some m → op.stop = some m)
  committed : ∀ duration, e.duration = some duration → .committed e.id duration ∈ s.history

/-- How many threads hold the markers of an id before asking, or have asked. -/
def taken (s : SharedRecorder δ) (id : Nat) : Nat :=
  s.retiring.countP (Retiring.isClaimed id) + s.history.countP (RetiringNote.isProbed id)

/-- How often the device is being asked about an id, or has answered. -/
def answered (s : SharedRecorder δ) (id : Nat) : Nat :=
  s.retiring.countP (Retiring.isAsked id) + s.history.countP (RetiringNote.isCommitted id)

structure Consistent (s : SharedRecorder δ) : Prop where
  layout : s.recorder.Layout
  notes : ∀ note ∈ s.history, s.NoteFounded note
  retiring : ∀ t ∈ s.retiring, s.RetiringFounded t
  entries : ∀ e ∈ s.recorder.slots, s.EntryFounded e
  recorded_lt : ∀ id op, .recorded id op ∈ s.history → id < s.recorder.nextId
  recorded_once : ∀ id, s.history.countP (RetiringNote.isRecorded id) ≤ 1
  taken_once : ∀ id, s.taken id ≤ 1
  taken_cleared : ∀ e ∈ s.recorder.slots, 0 < s.taken e.id → e.start = none
  answered_le : ∀ id, s.answered id ≤ s.history.countP (RetiringNote.isProbed id)

theorem consistent_start (capacity : Nat) (captureStacks : Bool) (d : δ) :
    (start capacity captureStacks d).Consistent where
  layout := Recorder.layout_new capacity captureStacks
  notes := by simp [start]
  retiring := by simp [start]
  entries := by simp [start, Recorder.new]
  recorded_lt := by simp [start]
  recorded_once := by simp [start]
  taken_once := by simp [start, taken]
  taken_cleared := by simp [start, Recorder.new]
  answered_le := by simp [start, answered]

section Growing

variable (hsub : s.history ⊆ s'.history)
include hsub

theorem RecordedWith.mono {id : Nat} {start stop : MarkerId} (h : s.RecordedWith id start stop) :
    s'.RecordedWith id start stop := by
  obtain ⟨op, hm, hop⟩ := h
  exact ⟨op, hsub hm, hop⟩

theorem NoteFounded.mono {note : RetiringNote} (h : s.NoteFounded note) : s'.NoteFounded note := by
  cases note with
  | recorded => trivial
  | probed => exact RecordedWith.mono hsub h
  | committed =>
    obtain ⟨start, stop, hm⟩ := h
    exact ⟨start, stop, hsub hm⟩

theorem RetiringFounded.mono {t : Retiring} (h : s.RetiringFounded t) : s'.RetiringFounded t := by
  obtain ⟨id, stage⟩ := t
  cases stage with
  | claimed => exact RecordedWith.mono hsub h
  | asked =>
    obtain ⟨start, stop, hm⟩ := h
    exact ⟨start, stop, hsub hm⟩
  | finished => trivial

theorem EntryFounded.mono {e : Entry} (h : s.EntryFounded e) : s'.EntryFounded e := by
  obtain ⟨op, hm, hop⟩ := h.recorded
  exact ⟨⟨op, hsub hm, hop⟩, fun duration hd => hsub (h.committed duration hd)⟩

end Growing

theorem Consistent.notes_cons (h : s.Consistent) {note : RetiringNote}
    (hs : s'.history = note :: s.history) (hnote : s'.NoteFounded note) :
    ∀ n ∈ s'.history, s'.NoteFounded n := by
  intro n hn
  rw [hs] at hn
  rcases List.mem_cons.mp hn with rfl | hn
  · exact hnote
  · exact (h.notes n hn).mono (by simp [hs])

/-- Only a recorded id can have been taken. -/
theorem Consistent.lt_of_taken (h : s.Consistent) {id : Nat} (ht : 0 < s.taken id) :
    id < s.recorder.nextId := by
  have hr : ∃ start stop, s.RecordedWith id start stop := by
    rcases Nat.eq_zero_or_pos (s.retiring.countP (Retiring.isClaimed id)) with hz | hpos
    · have hpos : 0 < s.history.countP (RetiringNote.isProbed id) := by
        unfold taken at ht
        omega
      obtain ⟨note, hm, hnote⟩ := List.countP_pos_iff.mp hpos
      obtain ⟨start, stop, reply, rfl⟩ := RetiringNote.eq_of_isProbed hnote
      exact ⟨start, stop, h.notes _ hm⟩
    · obtain ⟨t, hm, hclaimed⟩ := List.countP_pos_iff.mp hpos
      obtain ⟨start, stop, rfl⟩ := Retiring.eq_of_isClaimed hclaimed
      exact ⟨start, stop, h.retiring _ hm⟩
  obtain ⟨_, _, op, hm, _⟩ := hr
  exact h.recorded_lt id op hm

theorem Consistent.recorded_fresh (h : s.Consistent) :
    s.history.countP (RetiringNote.isRecorded s.recorder.nextId) = 0 := by
  rw [List.countP_eq_zero]
  intro note hm hnote
  obtain ⟨op, rfl⟩ := RetiringNote.eq_of_isRecorded hnote
  exact absurd (h.recorded_lt _ op hm) (Nat.lt_irrefl _)

/-- A change of the ring in which no entry is new, no duration changes and markers only go. -/
structure Weakens (r r' : Recorder) : Prop where
  layout : r'.Layout
  nextId : r'.nextId = r.nextId
  entries : ∀ e' ∈ r'.slots, ∃ e ∈ r.slots, e'.id = e.id ∧ e'.duration = e.duration ∧
    (∀ m, e'.start = some m → e.start = some m) ∧ (∀ m, e'.stop = some m → e.stop = some m)

theorem Consistent.weaken (h : s.Consistent) {r : Recorder} (hw : Weakens s.recorder r) (d : δ) :
    { s with recorder := r, device := d }.Consistent := by
  refine { h with layout := hw.layout, entries := ?_, recorded_lt := ?_, taken_cleared := ?_ }
  · intro e' he'
    obtain ⟨e, he, hid, hdur, hstart, hstop⟩ := hw.entries e' he'
    obtain ⟨⟨op, hm, hs, ht⟩, hcommitted⟩ := h.entries e he
    refine ⟨⟨op, hid ▸ hm, fun m hm => hs m (hstart m hm), fun m hm => ht m (hstop m hm)⟩, ?_⟩
    intro duration hd
    rw [hid]
    exact hcommitted duration (hdur ▸ hd)
  · intro id op hm
    rw [hw.nextId]
    exact h.recorded_lt id op hm
  · intro e' he' ht
    obtain ⟨e, he, hid, _, hstart, _⟩ := hw.entries e' he'
    have hnone := h.taken_cleared e he (hid ▸ ht)
    cases hs : e'.start with
    | none => rfl
    | some m =>
      have hsome := hstart m hs
      rw [hnone] at hsome
      cases hsome

theorem Weakens.setSlot {r : Recorder} (h : r.Layout) {id : Nat} {e e' : Entry}
    (hs : r.slot? id = some e) (hid : e'.id = e.id) (hd : e'.duration = e.duration)
    (hstart : ∀ m, e'.start = some m → e.start = some m)
    (hstop : ∀ m, e'.stop = some m → e.stop = some m) : Weakens r (r.setSlot id e') := by
  obtain ⟨hm, he⟩ := Recorder.mem_of_slot hs
  refine ⟨h.setSlot hs (hid.trans he), rfl, ?_⟩
  intro x hx
  rcases h.mem_setSlot hs hx with rfl | ⟨hx, _⟩
  · exact ⟨e, hm, hid, hd, hstart, hstop⟩
  · exact ⟨x, hx, rfl, rfl, fun _ h => h, fun _ h => h⟩

theorem Weakens.snapshot {r : Recorder} (h : r.Layout) (dev : Device δ) (now : Int64) (d : δ) :
    Weakens r (r.snapshot dev now d).2.1 := by
  refine ⟨h.snapshot dev now d, ?_, ?_⟩
  · rcases Recorder.snapshot_recorder dev now r d with he | he <;> rw [he]
  · rcases Recorder.snapshot_recorder dev now r d with he | he
    · rw [he]
      exact fun e hm => ⟨e, hm, rfl, rfl, fun _ h => h, fun _ h => h⟩
    · rw [he]
      intro e' he'
      obtain ⟨e, hm, hobs⟩ := Recorder.mem_observeAll he'
      rw [hobs.same]
      exact ⟨e, hm, rfl, rfl, fun _ h => h, fun _ h => h⟩

theorem Weakens.setRanks {r : Recorder} (h : r.Layout) (group : GroupName) (ranks : List UInt64) :
    Weakens r (r.setRanks group ranks) := by
  have same (e : Entry) (he : e ∈ r.slots) : ∃ e' ∈ r.slots, e.id = e'.id ∧
      e.duration = e'.duration ∧ (∀ m, e.start = some m → e'.start = some m) ∧
      (∀ m, e.stop = some m → e'.stop = some m) :=
    ⟨e, he, rfl, rfl, fun _ h => h, fun _ h => h⟩
  unfold Recorder.setRanks
  split
  · exact ⟨h.congr rfl rfl rfl rfl, rfl, same⟩
  · exact ⟨h, rfl, same⟩

theorem Consistent.record (h : s.Consistent) (m : Recorder.Moment) (op : Issued) :
    (s.record m op).Consistent := by
  unfold SharedRecorder.record
  by_cases hpos : 0 < s.recorder.capacity
  case neg =>
    rw [Recorder.record_disabled (by omega)]
    exact h
  have hlayout := h.layout.record m op
  have hnext := Recorder.record_nextId hpos m op
  have hmem {e : Entry} (he : e ∈ (s.recorder.record m op).2.slots) :=
    h.layout.mem_record hpos he
  rcases hr : s.recorder.record m op with ⟨id, r⟩
  obtain rfl : id = some s.recorder.nextId := by
    rw [Recorder.record_eq hpos] at hr
    exact (Prod.mk.inj hr).1.symm
  rw [hr] at hlayout hnext hmem
  let s' : SharedRecorder δ :=
    { s with recorder := r, history := .recorded s.recorder.nextId op :: s.history }
  have hsub : s.history ⊆ s'.history := List.subset_cons_self _ _
  have htaken (id : Nat) : s'.taken id = s.taken id := by
    simp [s', taken, RetiringNote.isProbed]
  show s'.Consistent
  constructor
  case layout => exact hlayout
  case notes => exact h.notes_cons rfl trivial
  case retiring => exact fun t ht => (h.retiring t ht).mono hsub
  case entries =>
    intro e he
    rcases hmem he with rfl | he
    · exact ⟨⟨op, List.mem_cons_self, fun _ hm => hm, fun _ hm => hm⟩, fun _ hd => by cases hd⟩
    · exact (h.entries e he).mono hsub
  case recorded_lt =>
    intro id op' hm
    rw [show s'.recorder.nextId = s.recorder.nextId + 1 from hnext]
    rcases List.mem_cons.mp hm with heq | hm
    · cases heq
      omega
    · have := h.recorded_lt id op' hm
      omega
  case recorded_once =>
    intro id
    have hfresh := h.recorded_fresh
    simp only [s', List.countP_cons, RetiringNote.isRecorded]
    by_cases hid : s.recorder.nextId = id
    · subst hid
      simp [hfresh]
    · simpa [hid] using h.recorded_once id
  case taken_once => exact fun id => htaken id ▸ h.taken_once id
  case taken_cleared =>
    intro e he ht
    rw [htaken] at ht
    rcases hmem he with rfl | he
    · exact absurd (h.lt_of_taken ht) (Nat.lt_irrefl _)
    · exact h.taken_cleared e he ht
  case answered_le =>
    intro id
    simpa [s', answered, List.countP_cons, RetiringNote.isProbed, RetiringNote.isCommitted]
      using h.answered_le id

/-- A claim is of an entry that no thread has claimed. -/
theorem Consistent.addClaim (h : s.Consistent) {id : Nat} {start stop : MarkerId}
    (hr : s.RecordedWith id start stop) (ht : s.taken id = 0)
    (hcleared : ∀ e ∈ s.recorder.slots, e.id = id → e.start = none) :
    ({ s with retiring := s.retiring ++ [⟨id, .claimed start stop⟩] } :
      SharedRecorder δ).Consistent := by
  let s' : SharedRecorder δ := { s with retiring := s.retiring ++ [⟨id, .claimed start stop⟩] }
  have htaken (i : Nat) : s'.taken i = s.taken i + if id = i then 1 else 0 := by
    simp only [s', taken, List.countP_append, List.countP_singleton, Retiring.isClaimed, beq_iff_eq]
    omega
  have hsub : s.history ⊆ s'.history := List.Subset.refl _
  refine { h with
    entries := fun e he => (h.entries e he).mono hsub
    retiring := ?_, taken_once := ?_, taken_cleared := ?_, answered_le := ?_ }
  · intro t hm
    rcases List.mem_append.mp hm with hm | hm
    · exact h.retiring t hm
    · cases List.mem_singleton.mp hm
      exact hr
  · intro i
    have hone := h.taken_once i
    show s'.taken i ≤ 1
    rw [htaken]
    split
    · next hid =>
      subst hid
      omega
    · exact hone
  · intro e he hpos
    by_cases hid : id = e.id
    · exact hcleared e he hid.symm
    · have hpos : 0 < s'.taken e.id := hpos
      rw [htaken, if_neg hid] at hpos
      exact h.taken_cleared e he hpos
  · intro i
    simpa [answered, List.countP_append, Retiring.isAsked] using h.answered_le i

theorem Consistent.claim (h : s.Consistent) (dev : Device δ) (now : Int64) (id : Option Nat)
    (w : Bool) : (s.claim dev now id w).Consistent := by
  unfold SharedRecorder.claim
  split
  · exact h
  next id =>
  split
  · exact h
  rcases Recorder.claim_cases dev now id w s.recorder s.device with
    ⟨_, he⟩ | ⟨e, e', d', hs, hobs, he | he⟩
  · rw [he]
    exact h
  · -- a call unwound: the entry was polled and stays open
    rw [he]
    have hsame := hobs.same
    exact h.weaken (.setSlot h.layout hs hobs.id_eq (by rw [hsame])
      (by rw [hsame]; exact fun _ h => h)
      (by rw [hsame]; exact fun _ h => h)) d'
  · rw [he]
    have hclosed : Weakens s.recorder (s.recorder.setSlot id e'.close) :=
      .setSlot h.layout hs hobs.id_eq (by rw [hobs.same]; rfl) (fun _ h => by cases h)
        (fun _ h => by cases h)
    rcases e'.claimed_cases w with hc | ⟨start, stop, hc, hstart, hstop, _⟩
    · rw [hc]
      exact h.weaken hclosed d'
    · rw [hc]
      obtain ⟨hm, rfl⟩ := Recorder.mem_of_slot hs
      have hstart' : e.start = some start := by rw [← hstart, hobs.same]
      have hstop' : e.stop = some stop := by rw [← hstop, hobs.same]
      obtain ⟨op, hrec, hop, hop'⟩ := (h.entries e hm).recorded
      have hzero : s.taken e.id = 0 := by
        rcases Nat.eq_zero_or_pos (s.taken e.id) with hz | hpos
        · exact hz
        · rw [h.taken_cleared e hm hpos] at hstart'
          cases hstart'
      refine (h.weaken hclosed d').addClaim ⟨op, hrec, hop _ hstart', hop' _ hstop'⟩ hzero ?_
      intro x hx hid
      rcases h.layout.mem_setSlot hs hx with rfl | ⟨_, hne⟩
      · rfl
      · exact absurd hid hne

theorem countP_stage {threads : List Retiring} {k : Nat} {t : Retiring}
    (hk : threads[k]? = some t) (t' : Retiring) (p : Retiring → Bool) :
    (threads.set k t').countP p + (if p t then 1 else 0) =
      threads.countP p + (if p t' then 1 else 0) := by
  obtain ⟨hlt, ht⟩ := List.getElem?_eq_some_iff.mp hk
  have hle : (if p threads[k] then 1 else 0) ≤ threads.countP p :=
    List.boole_getElem_le_countP hlt
  rw [List.countP_set hlt, ← ht]
  omega

theorem Consistent.probe (h : s.Consistent) (dev : Device δ) (k : Nat) :
    (s.probe dev k).Consistent := by
  unfold SharedRecorder.probe
  split
  case h_2 => exact h
  next id start stop hk =>
  have hrec : s.RecordedWith id start stop := h.retiring _ (List.mem_of_getElem? hk)
  rcases dev.probe start stop s.device with ⟨reply, meanwhile, device⟩
  let s' : SharedRecorder δ := { s with
    device
    retiring := s.retiring.set k ⟨id, .asked reply meanwhile⟩
    history := .probed id start stop reply :: s.history }
  have hsub : s.history ⊆ s'.history := List.subset_cons_self _ _
  have htaken (i : Nat) : s'.taken i = s.taken i := by
    have hcount := countP_stage hk ⟨id, .asked reply meanwhile⟩ (Retiring.isClaimed i)
    simp only [Retiring.isClaimed, beq_iff_eq, Bool.false_eq_true, ↓reduceIte] at hcount
    simp only [s', taken, List.countP_cons, RetiringNote.isProbed, beq_iff_eq]
    omega
  show s'.Consistent
  constructor
  case layout => exact h.layout
  case notes => exact h.notes_cons rfl (RecordedWith.mono hsub hrec)
  case retiring =>
    intro t hm
    rcases List.mem_or_eq_of_mem_set hm with hm | rfl
    · exact (h.retiring t hm).mono hsub
    · exact ⟨start, stop, List.mem_cons_self⟩
  case entries => exact fun e he => (h.entries e he).mono hsub
  case recorded_lt =>
    intro i op hm
    rcases List.mem_cons.mp hm with heq | hm
    · cases heq
    · exact h.recorded_lt i op hm
  case recorded_once =>
    intro i
    simpa [s', RetiringNote.isRecorded] using h.recorded_once i
  case taken_once => exact fun i => htaken i ▸ h.taken_once i
  case taken_cleared => exact fun e he ht => h.taken_cleared e he (htaken e.id ▸ ht)
  case answered_le =>
    intro i
    have hle := h.answered_le i
    have hcount := countP_stage hk ⟨id, .asked reply meanwhile⟩ (Retiring.isAsked i)
    simp only [Retiring.isAsked, beq_iff_eq, Bool.false_eq_true, ↓reduceIte] at hcount
    simp only [answered] at hle
    simp only [s', answered, List.countP_cons, RetiringNote.isProbed, RetiringNote.isCommitted,
      beq_iff_eq, Bool.false_eq_true, ↓reduceIte]
    omega

theorem Consistent.setStage (h : s.Consistent) {k id : Nat}
    {reply : Reply (Except ProbeError Single)} {meanwhile : List Issued} {stage : RetiringStage}
    (hk : s.retiring[k]? = some ⟨id, .asked reply meanwhile⟩)
    (hstage : stage = .finished ∨ ∃ rest, stage = .asked reply rest) :
    ({ s with retiring := s.retiring.set k ⟨id, stage⟩ } : SharedRecorder δ).Consistent := by
  let s' : SharedRecorder δ := { s with retiring := s.retiring.set k ⟨id, stage⟩ }
  have hnot (i : Nat) : Retiring.isClaimed i ⟨id, stage⟩ = false := by
    rcases hstage with rfl | ⟨rest, rfl⟩ <;> rfl
  have htaken (i : Nat) : s'.taken i = s.taken i := by
    have hcount := countP_stage hk ⟨id, stage⟩ (Retiring.isClaimed i)
    rw [hnot] at hcount
    simp only [Retiring.isClaimed, Bool.false_eq_true, ↓reduceIte] at hcount
    simp only [s', taken]
    omega
  have hsub : s.history ⊆ s'.history := List.Subset.refl _
  refine { h with
    entries := fun e he => (h.entries e he).mono hsub
    retiring := ?_, taken_once := ?_, taken_cleared := ?_, answered_le := ?_ }
  · intro t hm
    rcases List.mem_or_eq_of_mem_set hm with hm | rfl
    · exact h.retiring t hm
    · have hasked := h.retiring _ (List.mem_of_getElem? hk)
      rcases hstage with rfl | ⟨rest, rfl⟩
      · trivial
      · exact hasked
  · exact fun i => htaken i ▸ h.taken_once i
  · exact fun e he ht => h.taken_cleared e he (htaken e.id ▸ ht)
  · intro i
    have hle := h.answered_le i
    have hcount := countP_stage hk ⟨id, stage⟩ (Retiring.isAsked i)
    have hone : (if Retiring.isAsked i ⟨id, stage⟩ then 1 else 0) ≤ if id = i then 1 else 0 := by
      rcases hstage with rfl | ⟨rest, rfl⟩ <;> simp [Retiring.isAsked]
    simp only [Retiring.isAsked, beq_iff_eq] at hcount hone
    simp only [answered] at hle ⊢
    omega

theorem Consistent.recorder_commit (h : s.Consistent) (id : Nat) (duration : Single) :
    (s.recorder.commit id duration).2 = { s.recorder with slots := s.recorder.slots.map fun e =>
      if e.id = id then { e with duration := some duration } else e } := by
  rcases Recorder.commit_cases id duration s.recorder with ⟨hs, he⟩ | ⟨e, hs, he⟩
  · rw [he, h.layout.map_eq_self hs]
  · rw [he]
    exact h.layout.setSlot_eq_map hs fun e => { e with duration := some duration }

theorem Consistent.mem_commit (h : s.Consistent) {id : Nat} {duration : Single} {e : Entry}
    (he : e ∈ (s.recorder.commit id duration).2.slots) : ∃ x ∈ s.recorder.slots,
      e = x ∨ x.id = id ∧ e = { x with duration := some duration } := by
  rw [h.recorder_commit id duration] at he
  obtain ⟨x, hx, rfl⟩ := List.mem_map.mp he
  refine ⟨x, hx, ?_⟩
  by_cases hid : x.id = id
  · exact .inr ⟨hid, if_pos hid⟩
  · exact .inl (if_neg hid)

/-- A commit is of a duration that the device has answered and that is not committed yet. -/
theorem Consistent.addCommit (h : s.Consistent) {id : Nat} {duration : Single}
    (hprobed : ∃ start stop, .probed id start stop (.answered (.ok duration)) ∈ s.history)
    (hroom : s.answered id < s.history.countP (RetiringNote.isProbed id)) :
    ({ s with
      recorder := (s.recorder.commit id duration).2
      history := .committed id duration :: s.history } : SharedRecorder δ).Consistent := by
  let s' : SharedRecorder δ := { s with
    recorder := (s.recorder.commit id duration).2
    history := .committed id duration :: s.history }
  have hsub : s.history ⊆ s'.history := List.subset_cons_self _ _
  have htaken (i : Nat) : s'.taken i = s.taken i := by
    simp [s', taken, RetiringNote.isProbed]
  show s'.Consistent
  constructor
  case layout => exact h.layout.commit id duration
  case notes =>
    obtain ⟨start, stop, hm⟩ := hprobed
    exact h.notes_cons rfl ⟨start, stop, hsub hm⟩
  case retiring => exact fun t ht => (h.retiring t ht).mono hsub
  case entries =>
    intro e he
    obtain ⟨x, hx, rfl | ⟨hid, rfl⟩⟩ := h.mem_commit he
    · exact (h.entries e hx).mono hsub
    · refine ⟨((h.entries x hx).mono hsub).recorded, fun d hd => ?_⟩
      cases hd
      rw [hid]
      exact List.mem_cons_self
  case recorded_lt =>
    intro i op hm
    rw [show s'.recorder.nextId = s.recorder.nextId from Recorder.commit_nextId ..]
    rcases List.mem_cons.mp hm with heq | hm
    · cases heq
    · exact h.recorded_lt i op hm
  case recorded_once =>
    intro i
    simpa [s', RetiringNote.isRecorded] using h.recorded_once i
  case taken_once => exact fun i => htaken i ▸ h.taken_once i
  case taken_cleared =>
    intro e he ht
    rw [htaken] at ht
    obtain ⟨x, hx, rfl | ⟨_, rfl⟩⟩ := h.mem_commit he
    · exact h.taken_cleared e hx ht
    · exact h.taken_cleared x hx ht
  case answered_le =>
    intro i
    have hle := h.answered_le i
    simp only [answered] at hle hroom
    simp only [s', answered, List.countP_cons, RetiringNote.isProbed, RetiringNote.isCommitted,
      beq_iff_eq, Bool.false_eq_true, ↓reduceIte]
    split
    · next hid =>
      subst hid
      omega
    · omega

theorem Consistent.commit (h : s.Consistent) (k : Nat) : (s.commit k).Consistent := by
  unfold SharedRecorder.commit
  split
  case h_2 => exact h
  next id reply hk =>
  have hover := h.setStage hk (.inl rfl)
  dsimp only
  split
  case h_2 => exact hover
  next duration =>
  refine hover.addCommit (h.retiring _ (List.mem_of_getElem? hk)) ?_
  -- the retirement that is over was among those that were asking
  have hle := h.answered_le id
  have hcount := countP_stage hk ⟨id, .finished⟩ (Retiring.isAsked id)
  simp only [Retiring.isAsked, beq_self_eq_true, Bool.false_eq_true, ↓reduceIte] at hcount
  simp only [answered] at hle ⊢
  omega

theorem Consistent.step (h : s.Consistent) (dev : Device δ) (event : ThreadEvent δ) :
    (s.step dev event).Consistent := by
  cases event with
  | record m op => exact h.record m op
  | snapshot now => exact h.weaken (.snapshot h.layout dev now s.device) _
  | setRanks group ranks => exact h.weaken (.setRanks h.layout group ranks) s.device
  | claim now id w => exact h.claim dev now id w
  | probe k => exact h.probe dev k
  | recordMeanwhile k m =>
    simp only [SharedRecorder.step, SharedRecorder.recordMeanwhile]
    split
    · next hk => exact (h.setStage hk (.inr ⟨_, rfl⟩)).record m _
    · exact h
  | commit k => exact h.commit k
  | moveDevice d =>
    exact h.weaken ⟨h.layout, rfl, fun e he => ⟨e, he, rfl, rfl, fun _ h => h, fun _ h => h⟩⟩ d

theorem step_capacity (dev : Device δ) (s : SharedRecorder δ) (event : ThreadEvent δ) :
    (s.step dev event).recorder.capacity = s.recorder.capacity := by
  cases event with
  | record m op => simp [SharedRecorder.step, record_recorder]
  | snapshot now => simp [SharedRecorder.step]
  | setRanks group ranks => simp [SharedRecorder.step]
  | claim now id w =>
    simp only [SharedRecorder.step, SharedRecorder.claim]
    split
    · rfl
    next id =>
    split
    · rfl
    have hcapacity := s.recorder.claim_capacity dev now id w s.device
    split <;> next hr => simpa [hr] using hcapacity
  | probe k =>
    simp only [SharedRecorder.step, SharedRecorder.probe]
    split <;> rfl
  | recordMeanwhile k m =>
    simp only [SharedRecorder.step, SharedRecorder.recordMeanwhile]
    split
    · simp [record_recorder]
    · rfl
  | commit k =>
    simp only [SharedRecorder.step, SharedRecorder.commit]
    split
    · split <;> simp
    · rfl
  | moveDevice d => rfl

/-- The second half of retiring writes an answer of the device, or changes nothing. -/
theorem commit_recorder (s : SharedRecorder δ) (k : Nat) :
    (s.commit k).recorder = s.recorder ∨ ∃ id duration,
      s.retiring[k]? = some ⟨id, .asked (.answered (.ok duration)) []⟩ ∧
      (s.commit k).recorder = (s.recorder.commit id duration).2 := by
  unfold SharedRecorder.commit
  split
  · next hk =>
    dsimp only
    split
    · exact .inr ⟨_, _, hk, rfl⟩
    · exact .inl rfl
  · exact .inl rfl

theorem Consistent.exists_id_iff (h : s.Consistent) (id : Nat) :
    (∃ e ∈ s.recorder.slots, e.id = id) ↔ s.recorder.Holds id := by
  constructor
  · rintro ⟨e, he, rfl⟩
    exact h.layout.holds_of_mem he
  · intro hid
    obtain ⟨e, _, hs⟩ := h.layout.slot_of_holds hid
    exact ⟨e, Recorder.mem_of_slot hs⟩

/-- Retiring an id that was overwritten or never given changes nothing. -/
theorem Consistent.claim_of_not_holds (h : s.Consistent) (dev : Device δ) (now : Int64) {id : Nat}
    (w : Bool) (hid : ¬ s.recorder.Holds id) : s.claim dev now (some id) w = s := by
  have hs := h.layout.slot_eq_none_iff.mpr hid
  unfold SharedRecorder.claim
  dsimp only
  split
  · rfl
  · rcases Recorder.claim_cases dev now id w s.recorder s.device with ⟨_, he⟩ | ⟨e, _, _, he, _⟩
    · rw [he]
    · rw [hs] at he
      cases he

/-- For any threads and device. The ring holds the last ids. The second half of a retirement changes
at most the duration of the entry with its id, and nothing if that was overwritten. The duration is
the answer of the device about the markers recorded under the id, which is asked for at most once
and written at most once. Retiring an id that was overwritten or not given is the identity. An
undisturbed retirement is one of these runs. -/
theorem retirement_among_threads (dev : Device δ) (capacity : Nat) (captureStacks : Bool) (d : δ)
    (events : List (ThreadEvent δ)) :
    let s := (start capacity captureStacks d).run dev events
    s.recorder.capacity = capacity ∧
    (∀ id, (∃ e ∈ s.recorder.slots, e.id = id) ↔ s.recorder.Holds id) ∧
    (∀ k, (s.step dev (.commit k)).recorder = s.recorder ∨ ∃ id duration,
      s.retiring[k]? = some ⟨id, .asked (.answered (.ok duration)) []⟩) ∧
    (∀ k id duration, s.retiring[k]? = some ⟨id, .asked (.answered (.ok duration)) []⟩ →
      (s.step dev (.commit k)).recorder = { s.recorder with
        slots := s.recorder.slots.map fun e =>
          if e.id = id then { e with duration := some duration } else e } ∧
      (¬ s.recorder.Holds id → (s.step dev (.commit k)).recorder = s.recorder)) ∧
    (∀ id duration, .committed id duration ∈ s.history → ∃ start stop,
      s.RecordedWith id start stop ∧
      .probed id start stop (.answered (.ok duration)) ∈ s.history) ∧
    (∀ e ∈ s.recorder.slots, ∀ duration, e.duration = some duration →
      .committed e.id duration ∈ s.history) ∧
    (∀ id, s.history.countP (RetiringNote.isRecorded id) ≤ 1 ∧
      s.history.countP (RetiringNote.isProbed id) ≤ 1 ∧
      s.history.countP (RetiringNote.isCommitted id) ≤ 1) ∧
    (∀ now id w, ¬ s.recorder.Holds id → s.step dev (.claim now (some id) w) = s) ∧
    (∀ m id w, ∃ n, let s' := s.run dev (undisturbed s.retiring.length n m id w)
      s'.recorder = (s.recorder.retire dev m id w s.device).2.1 ∧
      s'.device = (s.recorder.retire dev m id w s.device).2.2) := by
  intro s
  have h : s.Consistent :=
    run_induction (fun _ event h => h.step dev event) (consistent_start capacity captureStacks d)
      events
  refine ⟨?_, h.exists_id_iff, ?_, ?_, ?_, fun e he => (h.entries e he).committed, ?_,
    fun now id w => h.claim_of_not_holds dev now w, s.run_undisturbed dev⟩
  · exact run_induction (P := fun s => s.recorder.capacity = capacity)
      (fun _ event h => (step_capacity dev _ event).trans h) rfl events
  · intro k
    rcases s.commit_recorder k with he | ⟨id, duration, hk, _⟩
    · exact .inl he
    · exact .inr ⟨id, duration, hk⟩
  · intro k id duration hk
    have hcommit : (s.step dev (.commit k)).recorder = (s.recorder.commit id duration).2 := by
      simp [SharedRecorder.step, SharedRecorder.commit, hk]
    refine ⟨hcommit.trans (h.recorder_commit id duration), fun hid => hcommit.trans ?_⟩
    rcases Recorder.commit_cases id duration s.recorder with ⟨_, he⟩ | ⟨e, he, _⟩
    · rw [he]
    · rw [h.layout.slot_eq_none_iff.mpr hid] at he
      cases he
  · intro id duration hm
    obtain ⟨a, z, hp⟩ := h.notes _ hm
    exact ⟨a, z, h.notes _ hp, hp⟩
  · intro id
    have htaken := h.taken_once id
    have hanswered := h.answered_le id
    unfold taken at htaken
    unfold answered at hanswered
    exact ⟨h.recorded_once id, by omega, by omega⟩

end SharedRecorder

end RankTrace
