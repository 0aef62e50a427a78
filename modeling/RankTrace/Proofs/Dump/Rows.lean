import RankTrace.Dump.Tree

/-!
# Rows of a dump

Which keys the dictionaries of a dump have, in their order.
-/

namespace RankTrace.Dump

def progressValue (flavor : Flavor) (p : GroupProgress) : Value :=
  .dict [("last_enqueued_collective", sequenceNumber flavor p.enqueued),
    ("last_started_collective", sequenceNumber flavor p.started),
    ("last_completed_collective", sequenceNumber flavor p.completed)]

theorem groupStatus_eq (flavor : Flavor) (progress : Table UInt64 GroupProgress) :
    groupStatus flavor progress =
      .dict (progress.map fun row => (toString row.1, progressValue flavor row.2)) := rfl

theorem keys_durationField (e : Entry) : (durationField e).map Prod.fst =
    if e.duration.isSome then ["duration_ms"] else [] := by
  unfold durationField
  cases e.duration <;> rfl

/-- The keys of the rows are the same for every entry, except for the optional duration. -/
theorem keys_entryFields (e : Entry) : (entryFields e).map Prod.fst =
    ["record_id", "pg_id", "process_group", "collective_seq_id", "p2p_seq_id", "op_id",
      "profiling_name", "time_created_ns"] ++
    (if e.duration.isSome then ["duration_ms"] else []) ++
    ["input_sizes", "input_dtypes", "output_sizes", "output_dtypes", "state",
      "time_discovered_started_ns", "time_discovered_completed_ns", "retired", "timeout_ms",
      "is_p2p"] := by
  unfold entryFields
  rw [List.map_append, List.map_append, keys_durationField]
  rfl

theorem keys_nativeFields (native : Option NativeDumps) :
    (nativeFields native).map Prod.fst = [] ∨
      (nativeFields native).map Prod.fst = ["nccl_comm_state"] := by
  unfold nativeFields
  split
  · exact .inr rfl
  · exact .inl rfl

/-- The key of frames is not among the other keys. -/
theorem frames_ne_key {e : Entry} {row : String × Value} (h : row ∈ entryFields e) :
    row.1 ≠ "frames" := by
  have hkey : row.1 ∈ (entryFields e).map Prod.fst := List.mem_map_of_mem h
  intro heq
  rw [heq, keys_entryFields] at hkey
  cases e.duration <;> simp at hkey

theorem ne_key_of_mem_nativeFields {native : Option NativeDumps} {row : String × Value}
    (h : row ∈ nativeFields native) : row.1 = "nccl_comm_state" := by
  have hkey : row.1 ∈ (nativeFields native).map Prod.fst := List.mem_map_of_mem h
  rcases keys_nativeFields native with hnone | hone
  · rw [hnone] at hkey
    cases hkey
  · rw [hone] at hkey
    exact List.mem_singleton.mp hkey

def frameTable (resolver : Resolver) (entries : List Entry) : List Value :=
  (symbolize resolver (entries.map (·.stack))).frames.map frameValue

def listedRows (resolver : Resolver) (options : DumpOptions) (entries : List Entry) :
    List (Entry × List Nat) :=
  (entries.zip (symbolize resolver (entries.map (·.stack))).traces).filter
    fun row => isListed options row.1

variable {resolver : Resolver} {options : DumpOptions} {entries : List Entry}
  {native : Option NativeDumps} {reading : Reading}

theorem collectiveFields_text (h : options.stackTraces = true) :
    collectiveFields resolver options .text entries =
      [("all_frames", .list (frameTable resolver entries)),
        ("entries", .list ((listedRows resolver options entries).map fun row =>
          entryValue .text (frameTable resolver entries) (some row.2) row.1))] := by
  simp only [collectiveFields, h, ↓reduceIte]
  rfl

theorem collectiveFields_binary (h : options.stackTraces = true) :
    collectiveFields resolver options .binary entries =
      [("entries", .list ((listedRows resolver options entries).map fun row =>
        entryValue .binary (frameTable resolver entries) (some row.2) row.1))] := by
  simp only [collectiveFields, h, ↓reduceIte]
  rfl

theorem collectiveFields_plain (h : options.stackTraces = false) (flavor : Flavor) :
    collectiveFields resolver options flavor entries =
      [("entries", .list ((entries.filter (isListed options)).map fun e =>
        .dict (entryFields e)))] := by
  simp only [collectiveFields, h, Bool.false_eq_true, ↓reduceIte]
  rfl

def headFields (flavor : Flavor) (reading : Reading) : List (String × Value) :=
  [("version", .str version), ("pg_config", groupConfig reading.ranks),
    ("pg_status", groupStatus flavor reading.progress)]

theorem tree_of_none (h : reading.entries = none) (flavor : Flavor) :
    tree resolver options flavor native reading =
      .dict (headFields flavor reading ++ nativeFields native) := by
  simp only [tree, h, headFields, List.append_nil]

theorem tree_of_some (h : reading.entries = some entries) (flavor : Flavor) :
    tree resolver options flavor native reading = .dict (headFields flavor reading ++
      (collectiveFields resolver options flavor entries ++ nativeFields native)) := by
  simp only [tree, h, headFields, List.append_assoc]

theorem headFields_ne {key : String} (hversion : key ≠ "version") (hconfig : key ≠ "pg_config")
    (hstatus : key ≠ "pg_status") {flavor : Flavor} :
    ∀ row ∈ headFields flavor reading, row.1 ≠ key := by
  simp [headFields, hversion.symm, hconfig.symm, hstatus.symm]

theorem nativeFields_ne {key : String} (h : key ≠ "nccl_comm_state") :
    ∀ row ∈ nativeFields native, row.1 ≠ key := by
  intro row hrow heq
  exact h (heq.symm.trans (ne_key_of_mem_nativeFields hrow))

end RankTrace.Dump
