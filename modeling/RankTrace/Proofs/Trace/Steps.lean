import RankTrace.Proofs.Trace.Layout

/-!
# What a locked step does

Each step under the lock of a recorder, for any device: which entries it may change, and in which
fields. A poll only stamps what is unknown and has a marker. The first half of retiring polls one
entry and closes it, the second half sets its duration. All of them keep the layout of the ring.
-/

namespace RankTrace

variable {δ : Type} {dev : Device δ} {now : Int64} {d : δ}

namespace Entry

def Stamped (now : Int64) (known : Option Int64) (marker : Option MarkerId)
    (after : Option Int64) : Prop :=
  after = known ∨ known = none ∧ marker.isSome ∧ after = some now

structure Observed (now : Int64) (e e' : Entry) : Prop where
  same : e' = { e with started := e'.started, completed := e'.completed }
  started : Stamped now e.started e.start e'.started
  completed : Stamped now e.completed e.stop e'.completed

def close (e : Entry) : Entry := { e.clearMarkers with retired := true }

def claimed (withDuration : Bool) (e : Entry) : Recorder.Claim :=
  match e.start, e.stop with
  | some start, some stop =>
    if withDuration && e.completed.isSome then .markers start stop else .done
  | _, _ => .done

/-- Markers are taken only from a completed entry that has both. -/
theorem claimed_cases (w : Bool) (e : Entry) : e.claimed w = .done ∨
    ∃ start stop, e.claimed w = .markers start stop ∧
      e.start = some start ∧ e.stop = some stop ∧ e.completed.isSome := by
  unfold claimed
  split
  · next start stop hstart hstop =>
    split
    · next hw => exact .inr ⟨start, stop, rfl, hstart, hstop, by simp_all⟩
    · exact .inl rfl
  · exact .inl rfl

theorem stamp_stamped {known after : Option Int64} {marker : Option MarkerId} {d' : δ}
    (h : stamp dev now known marker d = (.answered after, d')) :
    Stamped now known marker after := by
  unfold stamp at h
  split at h
  · next m =>
    split at h
    · next fired _ _ =>
      cases h
      cases fired
      · exact .inl rfl
      · exact .inr ⟨rfl, rfl, rfl⟩
    · cases h
  · cases h
    exact .inl rfl

theorem Observed.refl (now : Int64) (e : Entry) : Observed now e e :=
  ⟨rfl, .inl rfl, .inl rfl⟩

theorem Observed.id_eq {e e' : Entry} (h : Observed now e e') : e'.id = e.id := by
  rw [h.same]

/-- Stamps made before a call unwinds are kept, so the entry is polled in either case. -/
theorem observe_observed (dev : Device δ) (now : Int64) (e : Entry) (d : δ) :
    Observed now e (e.observe dev now d).2.1 := by
  unfold observe
  split
  · exact .refl now e
  · next hs =>
    dsimp only
    split
    · exact ⟨rfl, stamp_stamped hs, .inl rfl⟩
    · next hc => exact ⟨rfl, stamp_stamped hs, stamp_stamped hc⟩

end Entry

namespace Recorder

variable {r : Recorder} {id : Nat} {w : Bool}

/-- The first half of retiring finds no entry, unwinds after a poll, or closes the polled entry. -/
theorem claim_cases (dev : Device δ) (now : Int64) (id : Nat) (w : Bool) (r : Recorder) (d : δ) :
    (r.slot? id = none ∧ r.claim dev now id w d = (.skipped, r, d)) ∨
    ∃ e e' d', r.slot? id = some e ∧ e.Observed now e' ∧
      (r.claim dev now id w d = (.unwound, r.setSlot id e', d') ∨
        r.claim dev now id w d = (e'.claimed w, r.setSlot id e'.close, d')) := by
  cases hs : r.slot? id with
  | none => exact .inl ⟨rfl, by simp [claim, hs]⟩
  | some e =>
    refine .inr ⟨e, (e.observe dev now d).2.1, (e.observe dev now d).2.2, rfl,
      Entry.observe_observed dev now e d, ?_⟩
    rcases ho : e.observe dev now d with ⟨reply, e', d'⟩
    cases reply with
    | answered a =>
      refine .inr ?_
      simp only [claim, hs, ho]
      rfl
    | unwound => exact .inl (by simp only [claim, hs, ho])

/-- The second half of retiring sets the duration of the entry with the id, if it is there. -/
theorem commit_cases (id : Nat) (duration : Single) (r : Recorder) :
    (r.slot? id = none ∧ r.commit id duration = (false, r)) ∨
    ∃ e, r.slot? id = some e ∧
      r.commit id duration = (true, r.setSlot id { e with duration := some duration }) := by
  cases hs : r.slot? id with
  | none => exact .inl ⟨rfl, by simp [commit, hs]⟩
  | some e => exact .inr ⟨e, rfl, by simp [commit, hs]⟩

theorem ids_observeAll (dev : Device δ) (now : Int64) (es : List Entry) (d : δ) :
    (observeAll dev now es d).2.1.map (·.id) = es.map (·.id) := by
  induction es generalizing d with
  | nil => rfl
  | cons e rest ih =>
    have hobs := Entry.observe_observed dev now e d
    rcases ho : e.observe dev now d with ⟨reply, e', d'⟩
    rw [ho] at hobs
    have hid : e'.id = e.id := hobs.id_eq
    cases reply with
    | answered a => simp [observeAll, ho, hid, ih]
    | unwound => simp [observeAll, ho, hid]

/-- After a snapshot an entry was polled, or is unchanged behind a call that unwound. -/
theorem mem_observeAll {es : List Entry} {e' : Entry}
    (h : e' ∈ (observeAll dev now es d).2.1) : ∃ e ∈ es, e.Observed now e' := by
  induction es generalizing d with
  | nil => cases h
  | cons e rest ih =>
    have hobs := Entry.observe_observed dev now e d
    rcases ho : e.observe dev now d with ⟨reply, x, d'⟩
    rw [ho] at hobs
    cases reply with
    | answered a =>
      simp only [observeAll, ho, List.mem_cons] at h
      rcases h with rfl | h
      · exact ⟨e, List.mem_cons_self, hobs⟩
      · obtain ⟨y, hy, hobs'⟩ := ih h
        exact ⟨y, List.mem_cons_of_mem _ hy, hobs'⟩
    | unwound =>
      simp only [observeAll, ho, List.mem_cons] at h
      rcases h with rfl | h
      · exact ⟨e, List.mem_cons_self, hobs⟩
      · exact ⟨e', List.mem_cons_of_mem _ h, .refl now e'⟩

@[simp] theorem claim_capacity (dev : Device δ) (now : Int64) (id : Nat) (w : Bool) (r : Recorder)
    (d : δ) : (r.claim dev now id w d).2.1.capacity = r.capacity := by
  rcases claim_cases dev now id w r d with ⟨_, he⟩ | ⟨_, _, _, _, _, he | he⟩
  · rw [he]
  · rw [he]
    rfl
  · rw [he]
    rfl

@[simp] theorem commit_capacity (id : Nat) (duration : Single) (r : Recorder) :
    (r.commit id duration).2.capacity = r.capacity := by
  rcases commit_cases id duration r with ⟨_, he⟩ | ⟨_, _, he⟩
  · rw [he]
  · rw [he]
    rfl

@[simp] theorem commit_nextId (id : Nat) (duration : Single) (r : Recorder) :
    (r.commit id duration).2.nextId = r.nextId := by
  rcases commit_cases id duration r with ⟨_, he⟩ | ⟨_, _, he⟩
  · rw [he]
  · rw [he]
    rfl

@[simp] theorem setRanks_capacity (group : GroupName) (ranks : List UInt64) (r : Recorder) :
    (r.setRanks group ranks).capacity = r.capacity := by
  unfold setRanks
  split <;> rfl

/-- A snapshot changes slots only, by polls. -/
theorem snapshot_recorder (dev : Device δ) (now : Int64) (r : Recorder) (d : δ) :
    (r.snapshot dev now d).2.1 = r ∨
      (r.snapshot dev now d).2.1 = { r with slots := (observeAll dev now r.slots d).2.1 } := by
  unfold snapshot
  split
  · exact .inl rfl
  · rcases observeAll dev now r.slots d with ⟨reply, slots, d'⟩
    cases reply <;> exact .inr rfl

@[simp] theorem snapshot_capacity (dev : Device δ) (now : Int64) (r : Recorder) (d : δ) :
    (r.snapshot dev now d).2.1.capacity = r.capacity := by
  rcases snapshot_recorder dev now r d with he | he <;> rw [he]

namespace Layout

theorem claim (h : Layout r) (dev : Device δ) (now : Int64) (id : Nat) (w : Bool) (d : δ) :
    Layout (r.claim dev now id w d).2.1 := by
  rcases claim_cases dev now id w r d with ⟨_, he⟩ | ⟨e, e', d', hs, hobs, he | he⟩
  · rw [he]
    exact h
  · rw [he]
    exact h.setSlot hs (hobs.id_eq.trans (mem_of_slot hs).2)
  · rw [he]
    exact h.setSlot hs (hobs.id_eq.trans (mem_of_slot hs).2)

theorem commit (h : Layout r) (id : Nat) (duration : Single) :
    Layout (r.commit id duration).2 := by
  rcases commit_cases id duration r with ⟨_, he⟩ | ⟨e, hs, he⟩
  · rw [he]
    exact h
  · rw [he]
    exact h.setSlot hs (mem_of_slot hs).2

theorem snapshot (h : Layout r) (dev : Device δ) (now : Int64) (d : δ) :
    Layout (r.snapshot dev now d).2.1 := by
  rcases snapshot_recorder dev now r d with he | he
  · rw [he]
    exact h
  · rw [he]
    exact h.congr rfl rfl rfl (ids_observeAll dev now r.slots d)

end Layout

end Recorder

end RankTrace
