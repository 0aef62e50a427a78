import RankTrace.Proofs.Dump.Flavors
import RankTrace.Proofs.Dump.Keys
import RankTrace.Proofs.Trace.Recorded

/-!
# Dumps among other threads

A dump takes the lock three times: for the ranks, for the progress of the groups and for the
entries. Other threads may do anything in between. An entry has no progress of its group beside it
iff the group was first recorded after the progress was read.
-/

namespace RankTrace

namespace Value

def statusRow? (dump entry : Value) : Option Value := do
  let id ← (entry.get? "pg_id").bind int?
  let status ← dump.get? "pg_status"
  status.get? (toString id.toInt)

end Value

namespace Dump

open Value

variable {resolver : Resolver} {options : DumpOptions} {flavor : Flavor}
  {native : Option NativeDumps} {reading : Reading}

theorem get_id_entryValue (table : List Value) (indices : Option (List Nat)) (e : Entry) :
    (entryValue flavor table indices e).get? "record_id" = some (.ofNat e.id) := by
  cases indices <;> rfl

theorem get_group_entryValue (table : List Value) (indices : Option (List Nat)) (e : Entry) :
    (entryValue flavor table indices e).get? "pg_id" = some (.ofUInt64 e.groupId) := by
  cases indices <;> rfl

theorem toString_injective {a b : UInt64} (h : toString a = toString b) : a = b := by
  have hnat : a.toNat.repr = b.toNat.repr := h
  exact UInt64.toNat_inj.mp (Nat.repr_injective hnat)

theorem get_status : (tree resolver options flavor native reading).get? "pg_status" =
    some (groupStatus flavor reading.progress) := rfl

/-- Listed entries are entries of the reading. -/
theorem exists_of_mem_entries {v : Value}
    (h : v ∈ (tree resolver options flavor native reading).itemsAt "entries") :
    ∃ entries e table indices, reading.entries = some entries ∧ e ∈ entries ∧
      v = entryValue flavor table indices e := by
  cases hentries : reading.entries with
  | none =>
    rw [tree_of_none hentries] at h
    have hnone : v ∈ (dict (nativeFields native)).itemsAt "entries" := h
    rw [itemsAt_nativeFields (by decide)] at hnone
    cases hnone
  | some entries =>
    rw [tree_of_some hentries] at h
    by_cases hstacks : options.stackTraces = true
    · let table := frameTable resolver entries
      have hrows : v ∈ (listedRows resolver options entries).map fun row =>
          entryValue flavor table (some row.2) row.1 := by
        cases flavor with
        | text => rwa [collectiveFields_text hstacks] at h
        | binary => rwa [collectiveFields_binary hstacks] at h
      obtain ⟨row, hrow, rfl⟩ := List.mem_map.mp hrows
      have hread := (List.of_mem_zip (List.mem_filter.mp hrow).1).1
      exact ⟨entries, row.1, table, some row.2, rfl, hread, rfl⟩
    · rw [collectiveFields_plain (by simpa using hstacks)] at h
      have hrows : v ∈ (entries.filter (isListed options)).map fun e => dict (entryFields e) := h
      obtain ⟨e, he, rfl⟩ := List.mem_map.mp hrows
      exact ⟨entries, e, [], none, rfl, (List.mem_filter.mp he).1, rfl⟩

theorem isSome_get_groupStatus (flavor : Flavor) (progress : Table UInt64 GroupProgress)
    (group : UInt64) :
    ((groupStatus flavor progress).get? (toString group)).isSome ↔
      group ∈ progress.map Prod.fst := by
  rw [groupStatus_eq, get?, Option.isSome_iff_ne_none, Ne, List.lookup_eq_none_iff]
  constructor
  · intro h
    by_contra hgroup
    apply h
    intro row hrow
    obtain ⟨p, hp, rfl⟩ := List.mem_map.mp hrow
    rw [bne_iff_ne]
    intro heq
    rw [toString_injective heq] at hgroup
    exact hgroup (List.mem_map_of_mem hp)
  · intro hgroup h
    obtain ⟨p, hp, rfl⟩ := List.mem_map.mp hgroup
    have hne := h _ (List.mem_map_of_mem hp)
    simp at hne

theorem toInt_toInt64 (group : UInt64) : group.toInt64.toInt =
    if 2 * group.toNat < 2 ^ 64 then (group.toNat : Int) else group.toNat - 2 ^ 64 :=
  BitVec.toInt_eq_toNat_cond group.toBitVec

theorem toString_toInt64 {group : UInt64} (h : group.toNat < 2 ^ 63) :
    toString group.toInt64.toInt = toString group := by
  have hint : group.toInt64.toInt = (group.toNat : Int) := by
    rw [toInt_toInt64, if_pos (by omega)]
  rw [hint]
  rfl

theorem statusRow_entryValue {e : Entry} (h : e.groupId.toNat < 2 ^ 63) {table : List Value}
    {indices : Option (List Nat)} :
    (tree resolver options flavor native reading).statusRow? (entryValue flavor table indices e) =
      (groupStatus flavor reading.progress).get? (toString e.groupId) := by
  rw [statusRow?, get_group_entryValue, get_status, ← toString_toInt64 h]
  rfl

end Dump

namespace Recorder

variable {δ : Type}

theorem mem_entries {r : Recorder} {e : Entry} (h : e ∈ r.entries) : e ∈ r.slots := by
  rcases List.mem_append.mp h with h | h
  · exact List.mem_of_mem_drop h
  · exact List.mem_of_mem_take h

/-- A snapshot shows the entries that it leaves, without their markers. -/
theorem mem_snapshot {dev : Device δ} {now : Int64} {r : Recorder} {d : δ} {entries : List Entry}
    (h : (r.snapshot dev now d).1 = .answered entries) {e : Entry} (he : e ∈ entries) :
    ∃ x ∈ (r.snapshot dev now d).2.1.slots, e = x.clearMarkers := by
  unfold snapshot at h ⊢
  split at h
  · cases h
    cases he
  · next henabled =>
    rw [if_neg henabled]
    rcases hobs : observeAll dev now r.slots d with ⟨_ | _, slots, d'⟩
    all_goals rw [hobs] at h
    case unwound => cases h
    case answered =>
      cases h
      obtain ⟨x, hx, rfl⟩ := List.mem_map.mp he
      exact ⟨x, mem_entries hx, rfl⟩

end Recorder

namespace SharedRecorder

variable {δ : Type}

/-- Read a recorder for a dump while other threads go on: `first` happens between the ranks and the
progress of the groups, `second` between the progress and the entries. -/
def readAmid (dev : Device δ) (now : Int64) (board : StatusId → GroupProgress)
    (options : DumpOptions) (first second : List (ThreadEvent δ)) (s : SharedRecorder δ) :
    Reply Reading × SharedRecorder δ :=
  let ranks := s.recorder.ranks
  let s := s.run dev first
  let progress := s.recorder.progress board
  let s := s.run dev second
  if options.collectives then
    match (s.recorder.snapshot dev now s.device).1 with
    | .answered entries => (.answered ⟨ranks, progress, some entries⟩, s.step dev (.snapshot now))
    | .unwound => (.unwound, s.step dev (.snapshot now))
  else (.answered ⟨ranks, progress, none⟩, s)

/-- With no events in between, it is a reading of the recorder. -/
theorem readAmid_nil (dev : Device δ) (now : Int64) (board : StatusId → GroupProgress)
    (options : DumpOptions) (s : SharedRecorder δ) :
    let (reply, recorder, device) := s.recorder.read dev now board options s.device
    s.readAmid dev now board options [] [] = (reply, { s with recorder, device }) := by
  simp only [readAmid, Recorder.read, run, List.foldl_nil]
  split
  · rcases hs : s.recorder.snapshot dev now s.device with ⟨_ | _, r, d⟩ <;> simp [step, hs]
  · rfl

theorem run_append (dev : Device δ) (s : SharedRecorder δ) (before after : List (ThreadEvent δ)) :
    s.run dev (before ++ after) = (s.run dev before).run dev after :=
  List.foldl_append

/-- A reading in terms of the recorder at the time the progress is read, and of the final one. -/
theorem readAmid_eq {dev : Device δ} {now : Int64} {board : StatusId → GroupProgress}
    {options : DumpOptions} {first second : List (ThreadEvent δ)} {s s' : SharedRecorder δ}
    {reading : Reading}
    (h : s.readAmid dev now board options first second = (.answered reading, s')) :
    reading.progress = (s.run dev first).recorder.progress board ∧
    (∃ last, s' = s.run dev (first ++ second ++ last)) ∧
    ∀ entries, reading.entries = some entries →
      ∀ e ∈ entries, ∃ x ∈ s'.recorder.slots, e = x.clearMarkers := by
  unfold readAmid at h
  dsimp only at h
  split at h
  · split at h
    · next entries hs =>
      cases h
      refine ⟨rfl, ⟨[.snapshot now], ?_⟩, ?_⟩
      · rw [run_append, run_append]
        rfl
      · intro _ heq e he
        cases heq
        exact Recorder.mem_snapshot hs he
    · cases h
  · cases h
    refine ⟨rfl, ⟨[], ?_⟩, ?_⟩
    · rw [List.append_nil, run_append]
    · intro entries heq
      cases heq

/-- A listed entry was recorded for its group, and the dump has a row for this group iff the group
was known when the progress was read. -/
theorem Grouped.listed {asked left : SharedRecorder δ} (hasked : asked.Grouped)
    (hleft : left.Grouped) {board : StatusId → GroupProgress} {resolver : Resolver}
    {options : DumpOptions} {flavor : Flavor} {native : Option NativeDumps} {reading : Reading}
    (hprogress : reading.progress = asked.recorder.progress board)
    (hentries : ∀ entries, reading.entries = some entries →
      ∀ e ∈ entries, ∃ x ∈ left.recorder.slots, e = x.clearMarkers)
    {v : Value} (hv : v ∈ (Dump.tree resolver options flavor native reading).itemsAt "entries") :
    ∃ id op, .recorded id op ∈ left.history ∧ v.get? "record_id" = some (.ofNat id) ∧
      v.get? "pg_id" = some (.ofUInt64 op.groupId) ∧
      (op.groupId.toNat < 2 ^ 63 →
        (((Dump.tree resolver options flavor native reading).statusRow? v).isSome ↔
          asked.HasRecorded op.groupId)) := by
  obtain ⟨entries, e, table, indices, hreading, he, rfl⟩ := Dump.exists_of_mem_entries hv
  obtain ⟨x, hx, rfl⟩ := hentries entries hreading e he
  obtain ⟨op, hrecorded, hgroup⟩ := hleft.entries x hx
  refine ⟨x.id, op, hrecorded, Dump.get_id_entryValue table indices _, ?_, fun hsmall => ?_⟩
  · rw [hgroup]
    exact Dump.get_group_entryValue table indices _
  · rw [hgroup] at hsmall
    have hkeys : reading.progress.map Prod.fst = asked.recorder.statuses.map Prod.fst := by
      rw [hprogress, Recorder.progress, List.map_map]
      rfl
    have hrow : (Dump.tree resolver options flavor native reading).statusRow?
        (Dump.entryValue flavor table indices x.clearMarkers) =
          (Dump.groupStatus flavor reading.progress).get? (toString x.groupId) :=
      Dump.statusRow_entryValue hsmall
    rw [hrow, Dump.isSome_get_groupStatus, hkeys, hasked.statuses, hgroup]

/-- An entry of a dump has the progress of its group in the same dump iff an operation of the group
was recorded before the progress was read. -/
theorem progress_of_listed (dev : Device δ) (capacity : Nat) (captureStacks : Bool) (d : δ)
    (before first second : List (ThreadEvent δ)) (now : Int64) (board : StatusId → GroupProgress)
    (resolver : Resolver) (options : DumpOptions) (flavor : Flavor) (native : Option NativeDumps)
    {reading : Reading} {s' : SharedRecorder δ}
    (hread : ((start capacity captureStacks d).run dev before).readAmid dev now board options
      first second = (.answered reading, s')) :
    let asked := ((start capacity captureStacks d).run dev before).run dev first
    let dump := Dump.tree resolver options flavor native reading
    (∀ v ∈ dump.itemsAt "entries", ∃ id op, .recorded id op ∈ s'.history ∧
      v.get? "record_id" = some (.ofNat id) ∧ v.get? "pg_id" = some (.ofUInt64 op.groupId) ∧
      (op.groupId.toNat < 2 ^ 63 →
        ((dump.statusRow? v).isSome ↔ asked.HasRecorded op.groupId))) ∧
    ((∀ group, s'.HasRecorded group → asked.HasRecorded group) →
      ∀ v ∈ dump.itemsAt "entries", ∀ id, v.get? "pg_id" = some (.int id) → 0 ≤ id.toInt →
        (dump.statusRow? v).isSome) := by
  intro asked dump
  obtain ⟨hprogress, ⟨last, hrun⟩, hentries⟩ := readAmid_eq hread
  have hasked : asked.Grouped := by
    have hgrouped := grouped_run dev capacity captureStacks d (before ++ first)
    rwa [run_append] at hgrouped
  have hleft : s'.Grouped := by
    have hgrouped := grouped_run dev capacity captureStacks d (before ++ (first ++ second ++ last))
    rwa [run_append, ← hrun] at hgrouped
  have hlisted := fun v (hv : v ∈ dump.itemsAt "entries") =>
    hasked.listed hleft hprogress hentries hv
  refine ⟨hlisted, ?_⟩
  intro hknown v hv id hid hnonneg
  obtain ⟨_, op, hrecorded, _, hgroup, hrow⟩ := hlisted v hv
  -- ids of groups are shown as signed numbers, so one that is not negative is small
  have hsmall : op.groupId.toNat < 2 ^ 63 := by
    rw [hid] at hgroup
    have hvalue : id = op.groupId.toInt64 := Value.int.inj (Option.some.inj hgroup)
    rw [hvalue, Dump.toInt_toInt64] at hnonneg
    by_contra hlarge
    rw [if_neg (by omega)] at hnonneg
    have := op.groupId.toNat_lt
    omega
  exact (hrow hsmall).mpr (hknown _ ⟨_, op, hrecorded, rfl⟩)

def sendOf (group : UInt64) : Issued :=
  { groupId := group, group := ⟨"0", "default"⟩, status := ⟨0⟩, name := "send" }

/-- The group was recorded before its progress is read, and its second operation after that. -/
theorem known_group_with_progress :
    let s := (start 2 false ()).run deadDevice [.record ⟨0, []⟩ (sendOf 7)]
    ∃ reading s', s.readAmid deadDevice 2 (fun _ => {}) {} [] [.record ⟨1, []⟩ (sendOf 7)] =
        (.answered reading, s') ∧
      let dump := Dump.tree (fun _ => []) {} .text none reading
      (dump.itemsAt "entries").length = 2 ∧
      ∀ v ∈ dump.itemsAt "entries", (dump.statusRow? v).isSome := by
  refine ⟨_, _, rfl, rfl, ?_⟩
  intro v hv
  obtain ⟨hlisted, _⟩ := progress_of_listed deadDevice 2 false () [.record ⟨0, []⟩ (sendOf 7)] []
    [.record ⟨1, []⟩ (sendOf 7)] 2 (fun _ => {}) (fun _ => []) {} .text none rfl
  obtain ⟨id, op, hrecorded, _, _, hrow⟩ := hlisted v hv
  have hop : op = sendOf 7 := by
    have hmem : .recorded id op ∈
        [RetiringNote.recorded 1 (sendOf 7), .recorded 0 (sendOf 7)] := hrecorded
    simp only [List.mem_cons, List.not_mem_nil, or_false, RetiringNote.recorded.injEq] at hmem
    rcases hmem with ⟨_, h⟩ | ⟨_, h⟩ <;> exact h
  subst hop
  exact (hrow (by decide)).mpr ⟨0, sendOf 7, List.mem_cons_self, rfl⟩

/-- The group is first recorded after the progress was read. -/
theorem late_group_without_progress :
    let s := (start 2 false ()).run deadDevice [.record ⟨0, []⟩ (sendOf 0)]
    ∃ reading s', s.readAmid deadDevice 2 (fun _ => {}) {} [] [.record ⟨1, []⟩ (sendOf 7)] =
        (.answered reading, s') ∧
      let dump := Dump.tree (fun _ => []) {} .text none reading
      ∃ v ∈ dump.itemsAt "entries", v.get? "pg_id" = some (.int 7) ∧ dump.statusRow? v = none :=
  ⟨_, _, rfl, _, .tail _ (.head _), rfl, rfl⟩

end SharedRecorder

end RankTrace
