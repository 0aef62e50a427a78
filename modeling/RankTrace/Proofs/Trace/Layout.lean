import RankTrace.Trace.Recorder

/-!
# The layout of the ring

Ids count up, so the ring holds the last `capacity` ids, each in the slot of its remainder. Which
id sits where depends on the count alone. An operation that keeps the ids of the slots keeps the
layout, whatever else it does to the entries.
-/

namespace RankTrace.Recorder

/-- The slots hold the latest ids, and the cursor is at the oldest one once all are taken. -/
structure Layout (r : Recorder) : Prop where
  length_slots : r.slots.length = min r.nextId r.capacity
  cursor : r.nextSlot = if r.nextId < r.capacity then 0 else r.nextId % r.capacity
  id_mod : ∀ k e, r.slots[k]? = some e → e.id % r.capacity = k
  id_lt : ∀ e ∈ r.slots, e.id < r.nextId
  id_recent : ∀ e ∈ r.slots, r.nextId ≤ e.id + r.capacity

/-- Ids that have been given and not been overwritten. -/
def Holds (r : Recorder) (id : Nat) : Prop := id < r.nextId ∧ r.nextId ≤ id + r.capacity

theorem layout_new (capacity : Nat) (captureStacks : Bool) :
    Layout (new capacity captureStacks) := by
  constructor
  case cursor =>
    simp only [new, Nat.zero_mod]
    exact (ite_self _).symm
  all_goals simp [new]

/-- Ids with one remainder that are less than the capacity apart are equal. -/
theorem eq_of_mod_eq {a b c : Nat} (h : a % c = b % c) (hab : a < b + c) (hba : b < a + c) :
    a = b := by
  rcases Nat.le_total a b with hle | hle
  · have hz := Nat.sub_mod_eq_zero_of_mod_eq h.symm
    rw [Nat.mod_eq_of_lt (by omega)] at hz
    omega
  · have hz := Nat.sub_mod_eq_zero_of_mod_eq h
    rw [Nat.mod_eq_of_lt (by omega)] at hz
    omega

def nextEntry (m : Moment) (op : Issued) (r : Recorder) : Entry :=
  Entry.ofIssued r.nextId m.now (if r.captureStacks then some m.stack else none) op

variable {r : Recorder} {e e' : Entry} {id : Nat}

theorem record_eq (hpos : 0 < r.capacity) (m : Moment) (op : Issued) :
    r.record m op = (some r.nextId,
      { r.push (r.nextEntry m op) with
        statuses := r.statuses.setNew op.groupId op.status
        nextId := r.nextId + 1 }) := by
  simp only [record, isEnabled, hpos, decide_true, Bool.not_true, Bool.false_eq_true, ↓reduceIte,
    push, nextEntry]
  split <;> rfl

@[simp] theorem push_capacity (r : Recorder) (e : Entry) : (r.push e).capacity = r.capacity := by
  unfold push
  split <;> rfl

@[simp] theorem push_captureStacks (r : Recorder) (e : Entry) :
    (r.push e).captureStacks = r.captureStacks := by
  unfold push
  split <;> rfl

theorem record_disabled (hzero : r.capacity = 0) (m : Moment) (op : Issued) :
    r.record m op = (none, r) := by
  simp [record, isEnabled, hzero]

@[simp] theorem record_capacity (r : Recorder) (m : Moment) (op : Issued) :
    (r.record m op).2.capacity = r.capacity := by
  by_cases hpos : 0 < r.capacity
  · simp [record_eq hpos]
  · simp [record_disabled (show r.capacity = 0 by omega)]

@[simp] theorem record_captureStacks (r : Recorder) (m : Moment) (op : Issued) :
    (r.record m op).2.captureStacks = r.captureStacks := by
  by_cases hpos : 0 < r.capacity
  · simp [record_eq hpos]
  · simp [record_disabled (show r.capacity = 0 by omega)]

theorem record_nextId (hpos : 0 < r.capacity) (m : Moment) (op : Issued) :
    (r.record m op).2.nextId = r.nextId + 1 := by
  rw [record_eq hpos]

theorem mem_of_slot (h : r.slot? id = some e) : e ∈ r.slots ∧ e.id = id := by
  unfold slot? at h
  split at h
  · next x hx =>
    split at h
    · next hid =>
      cases h
      exact ⟨List.mem_of_getElem? hx, hid⟩
    · cases h
  · cases h

theorem setSlot_setSlot (r : Recorder) (id : Nat) (e e' : Entry) :
    (r.setSlot id e).setSlot id e' = r.setSlot id e' := by
  simp [setSlot]

theorem slot_setSlot (hs : r.slot? id = some e) (hid : e'.id = id) :
    (r.setSlot id e').slot? id = some e' := by
  have hlt : id % r.capacity < r.slots.length := by
    rcases Nat.lt_or_ge (id % r.capacity) r.slots.length with hlt | hge
    · exact hlt
    · rw [slot?, List.getElem?_eq_none hge] at hs
      cases hs
  simp [slot?, setSlot, hlt, hid]

namespace Layout

theorem slot_eq_some_iff (h : Layout r) : r.slot? id = some e ↔ e ∈ r.slots ∧ e.id = id := by
  constructor
  · exact mem_of_slot
  · rintro ⟨hm, rfl⟩
    obtain ⟨k, hk⟩ := List.getElem?_of_mem hm
    have hmod := h.id_mod k e hk
    simp [slot?, hmod, hk]

theorem eq_of_id (h : Layout r) (he : e ∈ r.slots) (he' : e' ∈ r.slots) (hid : e.id = e'.id) :
    e = e' := by
  have h₁ := h.slot_eq_some_iff.mpr ⟨he, hid⟩
  have h₂ := h.slot_eq_some_iff.mpr ⟨he', rfl⟩
  exact Option.some.inj (h₁.symm.trans h₂)

theorem holds_of_mem (h : Layout r) (he : e ∈ r.slots) : r.Holds e.id :=
  ⟨h.id_lt e he, h.id_recent e he⟩

theorem slot_of_holds (h : Layout r) (hid : r.Holds id) :
    ∃ e, r.slots[id % r.capacity]? = some e ∧ r.slot? id = some e := by
  obtain ⟨hlt, hrec⟩ := hid
  have hpos : 0 < r.capacity := by omega
  have hk : id % r.capacity < r.slots.length := by
    have := Nat.mod_lt id hpos
    have := Nat.mod_le id r.capacity
    rw [h.length_slots]
    omega
  refine ⟨r.slots[id % r.capacity], List.getElem?_eq_getElem hk, ?_⟩
  have hmem := List.getElem_mem hk
  have hmod := h.id_mod _ _ (List.getElem?_eq_getElem hk)
  have hlt' := h.id_lt _ hmem
  have hrec' := h.id_recent _ hmem
  exact h.slot_eq_some_iff.mpr ⟨hmem, eq_of_mod_eq hmod (by omega) (by omega)⟩

theorem slot_eq_none_iff (h : Layout r) : r.slot? id = none ↔ ¬ r.Holds id := by
  constructor
  · intro hn hh
    obtain ⟨e, _, he⟩ := h.slot_of_holds hh
    rw [hn] at he
    cases he
  · intro hn
    cases hs : r.slot? id with
    | none => rfl
    | some e =>
      obtain ⟨hm, rfl⟩ := mem_of_slot hs
      exact absurd (h.holds_of_mem hm) hn

theorem congr {r' : Recorder} (h : Layout r) (hc : r'.capacity = r.capacity)
    (hn : r'.nextId = r.nextId) (hs : r'.nextSlot = r.nextSlot)
    (hids : r'.slots.map (·.id) = r.slots.map (·.id)) : Layout r' := by
  have same : ∀ (k : Nat) (e' : Entry), r'.slots[k]? = some e' →
      ∃ e : Entry, r.slots[k]? = some e ∧ e.id = e'.id := by
    intro k e' he'
    have hk : (r.slots.map (·.id))[k]? = some e'.id := by rw [← hids]; simp [he']
    simpa using hk
  have mem : ∀ e' ∈ r'.slots, ∃ e ∈ r.slots, e.id = e'.id := by
    intro e' he'
    obtain ⟨k, hk⟩ := List.getElem?_of_mem he'
    obtain ⟨e, he, hid⟩ := same k e' hk
    exact ⟨e, List.mem_of_getElem? he, hid⟩
  constructor
  · have hlen := congrArg List.length hids
    simp only [List.length_map] at hlen
    rw [hlen, hn, hc, h.length_slots]
  · rw [hs, hn, hc, h.cursor]
  · intro k e' he'
    obtain ⟨e, he, hid⟩ := same k e' he'
    rw [hc, ← hid, h.id_mod k e he]
  · intro e' he'
    obtain ⟨e, he, hid⟩ := mem e' he'
    rw [hn, ← hid]
    exact h.id_lt e he
  · intro e' he'
    obtain ⟨e, he, hid⟩ := mem e' he'
    rw [hn, hc, ← hid]
    exact h.id_recent e he

theorem slots_setSlot (h : Layout r) (hs : r.slot? id = some e) :
    (r.setSlot id e').slots = r.slots.map fun x => if x.id = id then e' else x := by
  obtain ⟨hm, hid⟩ := mem_of_slot hs
  obtain ⟨k, hk⟩ := List.getElem?_of_mem hm
  have hke : id % r.capacity = k := by rw [← hid]; exact h.id_mod k e hk
  apply List.ext_getElem?
  intro j
  simp only [setSlot, hke, List.getElem?_set, List.getElem?_map]
  by_cases hj : k = j
  · subst hj
    have hlt := (List.getElem?_eq_some_iff.mp hk).1
    rw [hk]
    simp [hlt, hid]
  · cases hx : r.slots[j]? with
    | none => simp [hj]
    | some x =>
      have hne : x.id ≠ id := by
        intro hxid
        have := h.id_mod j x hx
        rw [hxid, hke] at this
        exact hj this
      simp [hj, hne]

theorem mem_setSlot (h : Layout r) (hs : r.slot? id = some e) {x : Entry}
    (hx : x ∈ (r.setSlot id e').slots) : x = e' ∨ x ∈ r.slots ∧ x.id ≠ id := by
  rw [h.slots_setSlot hs] at hx
  obtain ⟨y, hy, rfl⟩ := List.mem_map.mp hx
  by_cases hid : y.id = id
  · exact .inl (by simp [hid])
  · exact .inr (by simp [hid, hy])

/-- Changing the entry of an id is a map over the slots. -/
theorem setSlot_eq_map (h : Layout r) (hs : r.slot? id = some e) (f : Entry → Entry) :
    r.setSlot id (f e) =
      { r with slots := r.slots.map fun x => if x.id = id then f x else x } := by
  have hslots : (r.setSlot id (f e)).slots =
      r.slots.map fun x => if x.id = id then f x else x := by
    rw [h.slots_setSlot hs]
    apply List.map_congr_left
    intro x hx
    split
    · next hid =>
      obtain ⟨he, hid'⟩ := mem_of_slot hs
      rw [h.eq_of_id hx he (hid.trans hid'.symm)]
    · rfl
  rw [← hslots]
  rfl

theorem map_eq_self (h : Layout r) (hs : r.slot? id = none) (f : Entry → Entry) :
    { r with slots := r.slots.map fun x => if x.id = id then f x else x } = r := by
  have hslots : r.slots.map (fun x => if x.id = id then f x else x) = r.slots := by
    have same : ∀ x ∈ r.slots, (if x.id = id then f x else x) = x := by
      intro x hx
      rw [if_neg]
      intro hid
      have := h.slot_eq_some_iff.mpr ⟨hx, hid⟩
      rw [hs] at this
      cases this
    rw [List.map_congr_left same, List.map_id']
  rw [hslots]

theorem setSlot (h : Layout r) (hs : r.slot? id = some e) (hid : e'.id = id) :
    Layout (r.setSlot id e') := by
  refine h.congr rfl rfl rfl ?_
  rw [h.slots_setSlot hs, List.map_map]
  apply List.map_congr_left
  intro x _
  by_cases hx : x.id = id <;> simp [hx, hid]

/-- A new entry goes into the slot of its id, whether that is taken or not. -/
theorem slots_push (h : Layout r) (hpos : 0 < r.capacity) (e : Entry) (k : Nat) :
    (r.push e).slots[k]? = if k = r.nextId % r.capacity then some e else r.slots[k]? := by
  have hlen := h.length_slots
  have hcur := h.cursor
  unfold push
  split
  · next hroom =>
    have hslot : r.nextId % r.capacity = r.slots.length := by
      rw [Nat.mod_eq_of_lt (by omega)]
      omega
    rw [hslot, List.getElem?_append]
    by_cases hk : k < r.slots.length
    · simp [hk, show k ≠ r.slots.length by omega]
    · by_cases hk' : k = r.slots.length
      · simp [hk']
      · simp [hk, hk', show k - r.slots.length ≠ 0 by omega]
  · next hfull =>
    have hslot : r.nextSlot = r.nextId % r.capacity := by
      rw [hcur, if_neg (by omega)]
    have := Nat.mod_lt r.nextId hpos
    rw [hslot, List.getElem?_set]
    by_cases hk : r.nextId % r.capacity = k
    · simp [hk, show k < r.slots.length by omega]
    · simp [hk, Ne.symm hk]

theorem getElem?_record (h : Layout r) (hpos : 0 < r.capacity) (m : Moment) (op : Issued)
    (k : Nat) :
    (r.record m op).2.slots[k]? =
      if k = r.nextId % r.capacity then some (r.nextEntry m op) else r.slots[k]? := by
  rw [record_eq hpos]
  exact h.slots_push hpos _ k

theorem length_record (h : Layout r) (hpos : 0 < r.capacity) (m : Moment) (op : Issued) :
    (r.record m op).2.slots.length = min (r.nextId + 1) r.capacity := by
  have hlen := h.length_slots
  simp only [record_eq hpos, push]
  split
  · simp only [List.length_append, List.length_cons, List.length_nil]
    omega
  · simp only [List.length_set]
    omega

/-- The cursor starts to move when all slots are taken. -/
theorem nextSlot_record (h : Layout r) (hpos : 0 < r.capacity) (m : Moment) (op : Issued) :
    (r.record m op).2.nextSlot =
      if r.nextId + 1 < r.capacity then 0 else (r.nextId + 1) % r.capacity := by
  have hlen := h.length_slots
  have hcur := h.cursor
  simp only [record_eq hpos, push]
  split
  · next hroom =>
    simp only [hcur, if_pos (show r.nextId < r.capacity by omega)]
    split
    · rfl
    · rw [show r.nextId + 1 = r.capacity by omega, Nat.mod_self]
  · next hfull =>
    simp only [hcur, if_neg (show ¬ r.nextId < r.capacity by omega)]
    rw [if_neg (by omega), Nat.mod_add_mod]

theorem record (h : Layout r) (m : Moment) (op : Issued) : Layout (r.record m op).2 := by
  by_cases hpos : 0 < r.capacity
  case neg => simpa [Recorder.record, isEnabled, hpos] using h
  have hget := h.getElem?_record hpos m op
  have old : ∀ (k : Nat) (e : Entry), (r.record m op).2.slots[k]? = some e →
      (k = r.nextId % r.capacity ∧ e.id = r.nextId) ∨
        (k ≠ r.nextId % r.capacity ∧ r.slots[k]? = some e) := by
    intro k e hk
    rw [hget] at hk
    split at hk
    · next hslot =>
      cases hk
      exact .inl ⟨hslot, rfl⟩
    · next hslot => exact .inr ⟨hslot, hk⟩
  constructor
  case length_slots =>
    rw [h.length_record hpos, record_nextId hpos, record_capacity]
  case cursor =>
    rw [h.nextSlot_record hpos, record_nextId hpos, record_capacity]
  case id_mod =>
    intro k e hk
    rcases old k e hk with ⟨hslot, hid⟩ | ⟨_, hk⟩
    · rw [record_capacity, hid, hslot]
    · rw [record_capacity, h.id_mod k e hk]
  case id_lt =>
    intro e he
    obtain ⟨k, hk⟩ := List.getElem?_of_mem he
    rw [record_nextId hpos]
    rcases old k e hk with ⟨_, hid⟩ | ⟨_, hk⟩
    · omega
    · have := h.id_lt e (List.mem_of_getElem? hk)
      omega
  case id_recent =>
    intro e he
    obtain ⟨k, hk⟩ := List.getElem?_of_mem he
    rw [record_nextId hpos, record_capacity]
    rcases old k e hk with ⟨_, hid⟩ | ⟨hslot, hk⟩
    · omega
    · -- the entry one revolution back is the one that is overwritten
      have hrec := h.id_recent e (List.mem_of_getElem? hk)
      have hmod := h.id_mod k e hk
      have hne : r.nextId ≠ e.id + r.capacity := by
        intro heq
        rw [heq, Nat.add_mod_right] at hslot
        exact hslot hmod.symm
      omega

theorem mem_record (h : Layout r) (hpos : 0 < r.capacity) {m : Moment} {op : Issued}
    (he : e ∈ (r.record m op).2.slots) : e = r.nextEntry m op ∨ e ∈ r.slots := by
  obtain ⟨k, hk⟩ := List.getElem?_of_mem he
  rw [h.getElem?_record hpos] at hk
  split at hk
  · exact .inl (Option.some.inj hk).symm
  · exact .inr (List.mem_of_getElem? hk)

/-- From the oldest entry on, ids are consecutive. -/
theorem getElem?_entries (h : Layout r) (k : Nat) (hk : k < r.slots.length) :
    ∃ e, r.entries[k]? = some e ∧ e ∈ r.slots ∧ e.id = r.nextId - r.slots.length + k := by
  have hlen := h.length_slots
  have hpos : 0 < r.capacity := by omega
  have hholds : r.Holds (r.nextId - r.slots.length + k) := ⟨by omega, by omega⟩
  obtain ⟨e, hslot, he⟩ := h.slot_of_holds hholds
  obtain ⟨hm, hid⟩ := mem_of_slot he
  refine ⟨e, ?_, hm, hid⟩
  rw [← hslot, entries, h.cursor]
  split
  · next hroom =>
    have hsum : r.nextId - r.slots.length + k = k := by omega
    simp [hsum, Nat.mod_eq_of_lt (show k < r.capacity by omega)]
  · next hfull =>
    -- in a full ring the oldest entry is at the cursor, and the others follow around the end
    have hcursor := Nat.mod_lt r.nextId hpos
    have hfirst : (r.nextId - r.slots.length) % r.capacity = r.nextId % r.capacity := by
      rw [show r.slots.length = r.capacity by omega, ← Nat.mod_eq_sub_mod (by omega)]
    have hplace : (r.nextId - r.slots.length + k) % r.capacity =
        (r.nextId % r.capacity + k) % r.capacity := by
      rw [← Nat.mod_add_mod, hfirst]
    rw [hplace, List.getElem?_append, List.length_drop]
    generalize r.nextId % r.capacity = start at hcursor ⊢
    split
    · rw [List.getElem?_drop, Nat.mod_eq_of_lt (by omega)]
    · rw [List.getElem?_take_of_lt (by omega), Nat.mod_eq_sub_mod (by omega),
        Nat.mod_eq_of_lt (by omega)]
      congr 1
      omega

theorem length_entries (h : Layout r) : r.entries.length = min r.nextId r.capacity := by
  have := h.length_slots
  simp only [entries, List.length_append, List.length_drop, List.length_take]
  omega

/-- A snapshot shows the last ids in ascending order. -/
theorem ids_entries (h : Layout r) :
    r.entries.map (·.id) =
      List.range' (r.nextId - min r.nextId r.capacity) (min r.nextId r.capacity) := by
  have hlen := h.length_slots
  apply List.ext_getElem?
  intro k
  by_cases hk : k < r.slots.length
  · obtain ⟨e, he, _, hid⟩ := h.getElem?_entries k hk
    rw [List.getElem?_map, he, List.getElem?_range' (by omega)]
    simp [hid, hlen]
  · rw [List.getElem?_eq_none, List.getElem?_eq_none]
    · simp only [List.length_range']
      omega
    · simp only [List.length_map, h.length_entries]
      omega

end Layout

end RankTrace.Recorder
