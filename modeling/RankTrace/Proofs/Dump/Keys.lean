import Mathlib.Data.List.Nodup
import RankTrace.Proofs.Dump.Rows
import RankTrace.Proofs.Trace.Groups
import RankTrace.Text.Scan

/-!
# Keys of a dump

The dictionaries of a dump have distinct keys, except for the one of the groups: its keys are the
names of groups, which need not be distinct. A lookup of a name finds the first of its groups.
-/

namespace RankTrace

namespace Value

/-- No dictionary has two rows with one key, at any depth. -/
inductive DistinctKeys : Value → Prop
  | null : DistinctKeys null
  | bool (b : Bool) : DistinctKeys (bool b)
  | int (i : Int64) : DistinctKeys (int i)
  | float (f : Double) : DistinctKeys (float f)
  | str (s : String) : DistinctKeys (str s)
  | list {items : List Value} (h : ∀ v ∈ items, DistinctKeys v) : DistinctKeys (list items)
  | dict {fields : List (String × Value)} (hkeys : (fields.map Prod.fst).Nodup)
      (h : ∀ row ∈ fields, DistinctKeys row.2) : DistinctKeys (dict fields)

theorem distinctKeys_dict_iff {fields : List (String × Value)} : (dict fields).DistinctKeys ↔
    (fields.map Prod.fst).Nodup ∧ ∀ row ∈ fields, row.2.DistinctKeys := by
  constructor
  · intro h
    cases h with
    | dict hkeys hrows => exact ⟨hkeys, hrows⟩
  · intro h
    exact .dict h.1 h.2

theorem distinctKeys_ofStrings (texts : List String) : (ofStrings texts).DistinctKeys := by
  refine .list fun v hv => ?_
  obtain ⟨s, _, rfl⟩ := List.mem_map.mp hv
  exact .str s

theorem distinctKeys_ofOption (i : Option Int64) : (ofOption i).DistinctKeys := by
  cases i with
  | none => exact .null
  | some i => exact .int i

end Value

namespace Dump

open Value

theorem distinctKeys_sizesValue (sizes : List (List Int64)) : (sizesValue sizes).DistinctKeys := by
  refine .list fun v hv => ?_
  obtain ⟨dims, _, rfl⟩ := List.mem_map.mp hv
  refine .list fun v hv => ?_
  obtain ⟨i, _, rfl⟩ := List.mem_map.mp hv
  exact .int i

theorem nodup_keys_entryFields (e : Entry) : ((entryFields e).map Prod.fst).Nodup := by
  rw [keys_entryFields]
  split <;> decide

theorem distinctKeys_of_mem_entryFields {e : Entry} {row : String × Value}
    (h : row ∈ entryFields e) : row.2.DistinctKeys := by
  rcases List.mem_append.mp h with h | h
  · rcases List.mem_append.mp h with h | h
    · simp only [List.mem_cons, List.not_mem_nil, or_false] at h
      rcases h with rfl | rfl | rfl | rfl | rfl | rfl | rfl | rfl
      case inr.inr.inl => exact distinctKeys_ofStrings _
      case inr.inr.inr.inr.inr.inr.inl => exact .str e.name
      all_goals exact .int _
    · unfold durationField at h
      split at h
      · obtain rfl := List.mem_singleton.mp h
        exact .float _
      · cases h
  · simp only [List.mem_cons, List.not_mem_nil, or_false] at h
    rcases h with rfl | rfl | rfl | rfl | rfl | rfl | rfl | rfl | rfl | rfl
    · exact distinctKeys_sizesValue _
    · exact distinctKeys_ofStrings _
    · exact distinctKeys_sizesValue _
    · exact distinctKeys_ofStrings _
    · exact .str _
    · exact distinctKeys_ofOption _
    · exact distinctKeys_ofOption _
    · exact .bool _
    · exact .int _
    · exact .bool _

theorem distinctKeys_entryFields (e : Entry) : (Value.dict (entryFields e)).DistinctKeys :=
  .dict (nodup_keys_entryFields e) fun _ hrow => distinctKeys_of_mem_entryFields hrow

theorem distinctKeys_frameValue (f : Frame) : (frameValue f).DistinctKeys := by
  refine .dict (by simp) fun row hrow => ?_
  simp only [List.mem_cons, List.not_mem_nil, or_false] at hrow
  rcases hrow with rfl | rfl | rfl
  · exact .str f.name
  · exact .str f.file
  · exact .int _

theorem distinctKeys_framesValue {table : List Value} (h : ∀ v ∈ table, v.DistinctKeys)
    (flavor : Flavor) (indices : List Nat) : (framesValue flavor table indices).DistinctKeys := by
  cases flavor with
  | text =>
    refine .list fun v hv => ?_
    obtain ⟨i, _, rfl⟩ := List.mem_map.mp hv
    exact .int _
  | binary =>
    refine .list fun v hv => ?_
    obtain ⟨i, _, hi⟩ := List.mem_filterMap.mp hv
    exact h v (List.mem_of_getElem? hi)

theorem distinctKeys_entryValue {table : List Value} (h : ∀ v ∈ table, v.DistinctKeys)
    (flavor : Flavor) (indices : Option (List Nat)) (e : Entry) :
    (entryValue flavor table indices e).DistinctKeys := by
  cases indices with
  | none => exact distinctKeys_entryFields e
  | some indices =>
    refine .dict ?_ fun row hrow => ?_
    · rw [List.map_cons, List.nodup_cons]
      refine ⟨fun hframes => ?_, nodup_keys_entryFields e⟩
      obtain ⟨row, hrow, hkey⟩ := List.mem_map.mp hframes
      exact frames_ne_key hrow hkey
    · rcases List.mem_cons.mp hrow with rfl | hrow
      · exact distinctKeys_framesValue h flavor indices
      · exact distinctKeys_of_mem_entryFields hrow

theorem collectiveFields_keys (resolver : Resolver) (options : DumpOptions) (flavor : Flavor)
    (entries : List Entry) :
    (collectiveFields resolver options flavor entries).map Prod.fst =
      if options.stackTraces && flavor = .text then ["all_frames", "entries"] else ["entries"] := by
  unfold collectiveFields
  split
  · next h => cases flavor <;> simp [h]
  · next h => simp [h]

theorem distinctKeys_collectiveFields {resolver : Resolver} {options : DumpOptions}
    {flavor : Flavor} {entries : List Entry} {row : String × Value}
    (h : row ∈ collectiveFields resolver options flavor entries) : row.2.DistinctKeys := by
  have hframe {frames : List Frame} {v : Value} (hv : v ∈ frames.map frameValue) :
      v.DistinctKeys := by
    obtain ⟨f, _, rfl⟩ := List.mem_map.mp hv
    exact distinctKeys_frameValue f
  unfold collectiveFields at h
  split at h
  · cases flavor with
    | text =>
      simp only [List.mem_cons, List.not_mem_nil, or_false] at h
      rcases h with rfl | rfl
      · exact .list fun v hv => hframe hv
      · refine .list fun v hv => ?_
        obtain ⟨listed, _, rfl⟩ := List.mem_map.mp hv
        exact distinctKeys_entryValue (fun v hv => hframe hv) .text (some listed.2) listed.1
    | binary =>
      obtain rfl := List.mem_singleton.mp h
      refine .list fun v hv => ?_
      obtain ⟨listed, _, rfl⟩ := List.mem_map.mp hv
      exact distinctKeys_entryValue (fun v hv => hframe hv) .binary (some listed.2) listed.1
  · obtain rfl := List.mem_singleton.mp h
    refine .list fun v hv => ?_
    obtain ⟨e, _, rfl⟩ := List.mem_map.mp hv
    exact distinctKeys_entryFields e

theorem distinctKeys_progressValue (flavor : Flavor) (p : GroupProgress) :
    (progressValue flavor p).DistinctKeys := by
  have hnumber (n : Int64) : (sequenceNumber flavor n).DistinctKeys := by
    cases flavor with
    | text => exact .str _
    | binary => exact .int n
  refine .dict (by simp) fun row hrow => ?_
  simp only [List.mem_cons, List.not_mem_nil, or_false] at hrow
  rcases hrow with rfl | rfl | rfl <;> exact hnumber _

/-- Decimal texts of distinct ids are distinct. -/
theorem distinctKeys_groupStatus (flavor : Flavor) {progress : Table UInt64 GroupProgress}
    (h : (progress.map Prod.fst).Nodup) : (groupStatus flavor progress).DistinctKeys := by
  have hinjective : Function.Injective (fun id : UInt64 => toString id) := by
    intro a b heq
    have hdigits : Nat.toDigits 10 a.toNat = Nat.toDigits 10 b.toNat := String.ofList_injective heq
    exact UInt64.toNat_inj.mp (Scan.toDigits_inj hdigits)
  rw [groupStatus_eq]
  refine .dict ?_ fun row hrow => ?_
  · have hkeys := h.map hinjective
    rw [List.map_map] at hkeys ⊢
    exact hkeys
  · obtain ⟨p, _, rfl⟩ := List.mem_map.mp hrow
    exact distinctKeys_progressValue flavor p.2

theorem distinctKeys_nativeValue (native : NativeDumps) : (nativeValue native).DistinctKeys := by
  refine .dict ?_ fun row hrow => ?_
  · rw [List.map_map]
    exact (Table.ascending_ofRows native).nodup_keys
  · obtain ⟨⟨commId, state⟩, _, rfl⟩ := List.mem_map.mp hrow
    refine .dict ?_ fun row hrow => ?_
    · rw [List.map_map]
      exact (Table.ascending_ofRows state).nodup_keys
    · obtain ⟨⟨key, value⟩, _, rfl⟩ := List.mem_map.mp hrow
      exact .str value

theorem distinctKeys_nativeFields {native : Option NativeDumps} {row : String × Value}
    (h : row ∈ nativeFields native) : row.2.DistinctKeys := by
  unfold nativeFields at h
  split at h
  · obtain rfl := List.mem_singleton.mp h
    exact distinctKeys_nativeValue _
  · cases h

def groupValue (group : GroupName) (ranks : List UInt64) : Value :=
  .dict [("name", .str group.name), ("desc", .str group.desc), ("ranks", .str (ranksText ranks))]

theorem groupConfig_eq (ranks : Table GroupName (List UInt64)) : groupConfig ranks =
    .dict (ranks.map fun row => (row.1.name, groupValue row.1 row.2)) := rfl

theorem distinctKeys_groupValue (group : GroupName) (ranks : List UInt64) :
    (groupValue group ranks).DistinctKeys := by
  refine .dict (by simp) fun row hrow => ?_
  simp only [List.mem_cons, List.not_mem_nil, or_false] at hrow
  rcases hrow with rfl | rfl | rfl <;> exact .str _

/-- The table of groups has distinct keys iff the names are distinct. -/
theorem distinctKeys_groupConfig_iff (ranks : Table GroupName (List UInt64)) :
    (groupConfig ranks).DistinctKeys ↔ (ranks.map fun row => row.1.name).Nodup := by
  rw [groupConfig_eq, distinctKeys_dict_iff, List.map_map]
  refine and_iff_left fun row hrow => ?_
  obtain ⟨group, _, rfl⟩ := List.mem_map.mp hrow
  exact distinctKeys_groupValue group.1 group.2

/-- A lookup finds the first group of the name. -/
theorem get_groupConfig {before after : Table GroupName (List UInt64)} {group : GroupName}
    {ranks : List UInt64} (h : ∀ row ∈ before, row.1.name ≠ group.name) :
    (groupConfig (before ++ (group, ranks) :: after)).get? group.name =
      some (groupValue group ranks) := by
  rw [groupConfig_eq, get?, List.lookup_eq_some_iff]
  refine ⟨before.map fun row => (row.1.name, groupValue row.1 row.2),
    after.map fun row => (row.1.name, groupValue row.1 row.2), by simp, ?_⟩
  intro row hrow
  obtain ⟨other, hother, rfl⟩ := List.mem_map.mp hrow
  simpa using (h other hother).symm

def treeFields (resolver : Resolver) (options : DumpOptions) (flavor : Flavor)
    (native : Option NativeDumps) (reading : Reading) : List (String × Value) :=
  headFields flavor reading ++
  (match reading.entries with
    | some entries => collectiveFields resolver options flavor entries
    | none => []) ++
  nativeFields native

variable {resolver : Resolver} {options : DumpOptions} {flavor : Flavor}
  {native : Option NativeDumps} {reading : Reading}

theorem tree_eq : tree resolver options flavor native reading =
    .dict (treeFields resolver options flavor native reading) := rfl

theorem nodup_keys_treeFields :
    ((treeFields resolver options flavor native reading).map Prod.fst).Nodup := by
  have hnative := keys_nativeFields native
  have hhead : (headFields flavor reading).map Prod.fst = ["version", "pg_config", "pg_status"] :=
    rfl
  rw [treeFields, List.map_append, List.map_append, hhead]
  cases reading.entries with
  | none => rcases hnative with h | h <;> simp [h]
  | some entries =>
    rw [collectiveFields_keys]
    split <;> rcases hnative with h | h <;> simp [h]

theorem distinctKeys_of_mem_treeFields (hprogress : (reading.progress.map Prod.fst).Nodup)
    {row : String × Value} (h : row ∈ treeFields resolver options flavor native reading)
    (hrow : row.1 ≠ "pg_config") : row.2.DistinctKeys := by
  rcases List.mem_append.mp h with h | h
  · rcases List.mem_append.mp h with h | h
    · simp only [headFields, List.mem_cons, List.not_mem_nil, or_false] at h
      rcases h with rfl | rfl | rfl
      · exact .str version
      · exact absurd rfl hrow
      · exact distinctKeys_groupStatus flavor hprogress
    · cases hentries : reading.entries with
      | none =>
        rw [hentries] at h
        cases h
      | some entries =>
        rw [hentries] at h
        exact distinctKeys_collectiveFields h
  · exact distinctKeys_nativeFields h

/-- Keys of a dump are distinct iff those of the table of groups are. -/
theorem distinctKeys_tree_iff (hprogress : (reading.progress.map Prod.fst).Nodup) :
    (tree resolver options flavor native reading).DistinctKeys ↔
      (reading.ranks.map fun row => row.1.name).Nodup := by
  have hconfig : ("pg_config", groupConfig reading.ranks) ∈
      treeFields resolver options flavor native reading := by
    simp [treeFields, headFields]
  rw [tree_eq, distinctKeys_dict_iff, ← distinctKeys_groupConfig_iff]
  constructor
  · intro h
    exact h.2 _ hconfig
  · intro hgroups
    refine ⟨nodup_keys_treeFields, fun row hrow => ?_⟩
    by_cases hkey : row.1 = "pg_config"
    · have hsame := List.inj_on_of_nodup_map nodup_keys_treeFields hrow hconfig hkey
      rw [hsame]
      exact hgroups
    · exact distinctKeys_of_mem_treeFields hprogress hrow hkey

theorem get_config : (tree resolver options flavor native reading).get? "pg_config" =
    some (groupConfig reading.ranks) := rfl

end Dump

namespace SharedRecorder

variable {δ : Type}

/-- After any run, keys in a dump are distinct iff the groups with ranks have distinct names. Keys
repeat in the table of groups only. It has a row for every group whose ranks were set, and a lookup
of a name finds that row if no other group has the name. -/
theorem distinctKeys_iff_nodup_names (dev : Device δ) (capacity : Nat) (captureStacks : Bool)
    (d : δ) (events : List (ThreadEvent δ)) (resolver : Resolver) (options : DumpOptions)
    (flavor : Flavor) (native : Option NativeDumps) (board : StatusId → GroupProgress)
    (entries : Option (List Entry)) :
    let r := ((start capacity captureStacks d).run dev events).recorder
    let dump := Dump.tree resolver options flavor native ⟨r.ranks, r.progress board, entries⟩
    (dump.DistinctKeys ↔ (r.ranks.map fun row => row.1.name).Nodup) ∧
    (∃ fields, dump = .dict fields ∧ (fields.map Prod.fst).Nodup ∧
      ∀ row ∈ fields, row.1 ≠ "pg_config" → row.2.DistinctKeys) ∧
    (∀ group, group ∈ r.ranks.map Prod.fst ↔
      0 < capacity ∧ ∃ ranks, .setRanks group ranks ∈ events) ∧
    dump.get? "pg_config" =
      some (.dict (r.ranks.map fun row => (row.1.name, Dump.groupValue row.1 row.2))) ∧
    ∀ group ranks, (group, ranks) ∈ r.ranks →
      (∀ other ∈ r.ranks.map Prod.fst, other.name = group.name → other = group) →
      (dump.get? "pg_config").bind (·.get? group.name) = some (Dump.groupValue group ranks) := by
  intro r dump
  have hstatuses : (r.statuses.map Prod.fst).Nodup :=
    (ascending_statuses dev capacity captureStacks d events).nodup_keys
  have hranks : (r.ranks.map Prod.fst).Nodup :=
    (ascending_ranks dev capacity captureStacks d events).nodup_keys
  have hprogress : ((r.progress board).map Prod.fst).Nodup := by
    rw [Recorder.progress, List.map_map]
    exact hstatuses
  refine ⟨Dump.distinctKeys_tree_iff hprogress, ?_,
    mem_ranks_iff dev capacity captureStacks d events, Dump.get_config, ?_⟩
  · refine ⟨_, Dump.tree_eq, Dump.nodup_keys_treeFields, fun row hrow hkey => ?_⟩
    exact Dump.distinctKeys_of_mem_treeFields hprogress hrow hkey
  · intro group ranks hrow halone
    obtain ⟨before, after, hsplit⟩ := List.append_of_mem hrow
    have hother : ∀ row ∈ before, row.1.name ≠ group.name := by
      intro row hbefore hname
      have hmem : row.1 ∈ r.ranks.map Prod.fst := by
        rw [hsplit]
        exact List.mem_map_of_mem (List.mem_append_left _ hbefore)
      have hsame := halone row.1 hmem hname
      rw [hsplit, List.map_append, List.nodup_append] at hranks
      exact hranks.2.2 row.1 (List.mem_map_of_mem hbefore) group (by simp) hsame
    have hfound := @Dump.get_groupConfig before after group ranks hother
    rw [← hsplit] at hfound
    exact hfound

def deadDevice : Device Unit where
  query _ _ := (.unwound, ())
  elapsed _ _ _ := (.unwound, [], ())

/-- Two groups of one name have two rows with one key, and a lookup misses the second. -/
theorem same_name_hidden :
    let s := (start 1 false ()).run deadDevice
      [.setRanks ⟨"0", "pipeline"⟩ [0, 1], .setRanks ⟨"0", "tensor"⟩ [2, 3]]
    let r := s.recorder
    let dump := Dump.tree (fun _ => []) {} .text none ⟨r.ranks, r.progress fun _ => {}, none⟩
    ¬ dump.DistinctKeys ∧ r.ranks.map Prod.fst = [⟨"0", "pipeline"⟩, ⟨"0", "tensor"⟩] ∧
    (dump.get? "pg_config").bind (·.get? "0") =
      some (Dump.groupValue ⟨"0", "pipeline"⟩ [0, 1]) := by
  intro s r dump
  have hranks : r.ranks = [(⟨"0", "pipeline"⟩, [0, 1]), (⟨"0", "tensor"⟩, [2, 3])] := rfl
  have hprogress : ((r.progress fun _ => {}).map Prod.fst).Nodup := List.nodup_nil
  refine ⟨?_, rfl, rfl⟩
  rw [Dump.distinctKeys_tree_iff hprogress, hranks]
  decide

end SharedRecorder

end RankTrace
