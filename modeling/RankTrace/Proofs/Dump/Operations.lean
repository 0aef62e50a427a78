import RankTrace.Proofs.Dump.Readings
import RankTrace.Proofs.Trace.Shapes

/-!
# Operations in dumps

An entry that a dump lists shows what was passed when its operation was recorded. The shapes of its
tensors are the recorded ones, whatever their number and their ranks. Its numbers keep their lowest
64 bits and become signed: those below `2 ^ 63` are shown as they were recorded, and no others.
-/

namespace RankTrace

/-- The number of all sizes together is a word. -/
def Issued.Addressable (op : Issued) : Prop :=
  (op.inputs.flatMap (·.sizes) ++ op.outputs.flatMap (·.sizes)).length < 2 ^ 64

instance (op : Issued) : Decidable op.Addressable := inferInstanceAs (Decidable (_ < _))

/-- The numbers of an operation, under the keys that they have in a dump. -/
def Issued.numbers (op : Issued) : List (String × Nat) :=
  [("pg_id", op.groupId.toNat), ("collective_seq_id", op.collectiveSeq.toNat),
    ("p2p_seq_id", op.p2pSeq.toNat), ("op_id", op.opId.toNat), ("timeout_ms", op.timeout.millis)]

namespace Entry

variable {id : Nat} {op : Issued} {e : Entry} {shapes : List (List Int64)}

theorem length_lt_of_mem {shape : List Int64} (h : shapes.flatten.length < 2 ^ 64)
    (hshape : shape ∈ shapes) : shape.length < 2 ^ 64 :=
  Nat.lt_of_le_of_lt (List.sublist_flatten_of_mem hshape).length_le h

theorem total_lengths (h : shapes.flatten.length < 2 ^ 64) :
    total (shapes.map (UInt64.ofNat ·.length)) = shapes.flatten.length := by
  induction shapes with
  | nil => rfl
  | cons shape shapes ih =>
    rw [List.flatten_cons, List.length_append] at h
    have hshape : shape.length < 2 ^ 64 := by omega
    have hdim : (UInt64.ofNat shape.length).toNat = shape.length :=
      UInt64.toNat_ofNat_of_lt' hshape
    rw [List.map_cons, total_cons, hdim, ih (by omega), List.flatten_cons, List.length_append]

theorem sizes_of_shapes {inputs outputs : List (List Int64)}
    (h : (inputs.flatten ++ outputs.flatten).length < 2 ^ 64)
    (hsizes : e.sizes = inputs.flatten ++ outputs.flatten)
    (hinputs : e.inputDims = inputs.map (UInt64.ofNat ·.length))
    (houtputs : e.outputDims = outputs.map (UInt64.ofNat ·.length)) :
    e.inputSizes = inputs ∧ e.outputSizes = .answered outputs ∧
      e.recordedOutputSizes = outputs := by
  rw [List.length_append] at h
  have hin : inputs.flatten.length < 2 ^ 64 := by omega
  have hout : outputs.flatten.length < 2 ^ 64 := by omega
  have htotal : total e.inputDims = inputs.flatten.length := by rw [hinputs, total_lengths hin]
  have hrecorded : e.recordedOutputSizes = outputs := by
    rw [recordedOutputSizes, htotal, hsizes, houtputs, List.drop_left]
    have hback := chunk_flatten (fun _ hshape => length_lt_of_mem hout hshape) []
    rwa [List.append_nil] at hback
  refine ⟨?_, ?_, hrecorded⟩
  · rw [inputSizes, hsizes, hinputs]
    exact chunk_flatten (fun _ hshape => length_lt_of_mem hin hshape) outputs.flatten
  · rw [outputSizes_eq, htotal, if_pos hin, hrecorded]

theorem StemsFrom.sizes (h : e.StemsFrom id op) (hop : op.Addressable) :
    e.inputSizes = op.inputs.map (·.sizes) ∧
      e.outputSizes = .answered (op.outputs.map (·.sizes)) ∧
      e.recordedOutputSizes = op.outputs.map (·.sizes) := by
  obtain ⟨now, stack, hlater⟩ := h
  apply sizes_of_shapes
  · exact hop
  · rw [hlater.identity]
    rfl
  · rw [hlater.identity, List.map_map]
    rfl
  · rw [hlater.identity, List.map_map]
    rfl

theorem StemsFrom.types (h : e.StemsFrom id op) :
    e.inputTypes = op.inputs.map (·.dtype) ∧ e.outputTypes = op.outputs.map (·.dtype) := by
  obtain ⟨now, stack, hlater⟩ := h
  rw [hlater.identity]
  exact ⟨rfl, rfl⟩

end Entry

namespace Value

theorem get_of_nodup {fields : List (String × Value)} (hkeys : (fields.map Prod.fst).Nodup)
    {row : String × Value} (h : row ∈ fields) : (dict fields).get? row.1 = some row.2 :=
  Table.lookup_of_mem hkeys h

theorem ofUInt64_eq_ofNat (n : UInt64) : ofUInt64 n = ofNat n.toNat := by
  rw [ofUInt64, ofNat, ← UInt64.toInt64_ofNat', UInt64.ofNat_toNat]

end Value

namespace Dump

open Value

/-- A number as a signed word of 64 bits is unchanged iff it is below `2 ^ 63`, and negative iff bit
63 is set. -/
theorem signed_ofNat (n : Nat) :
    (Int64.ofNat n).toInt = (n : Int).bmod (2 ^ 64) ∧
    ((Int64.ofNat n).toInt = n ↔ n < 2 ^ 63) ∧
    ((Int64.ofNat n).toInt < 0 ↔ 2 ^ 63 ≤ n % 2 ^ 64) := by
  have hword : (Int64.ofNat n).toInt = (n : Int).bmod (2 ^ 64) := Int64.toInt_ofNat'
  refine ⟨hword, ?_, ?_⟩
  · rw [hword, Int.bmod_eq_iff (by decide)]
    omega
  · rw [hword, Int.bmod_def]
    constructor
    · intro hneg
      split at hneg <;> omega
    · intro hlarge
      rw [if_neg] <;> omega

theorem get_entryValue {e : Entry} {row : String × Value} (h : row ∈ entryFields e)
    (flavor : Flavor) (table : List Value) (indices : Option (List Nat)) :
    (entryValue flavor table indices e).get? row.1 = some row.2 := by
  have hrow : (dict (entryFields e)).get? row.1 = some row.2 :=
    get_of_nodup (nodup_keys_entryFields e) h
  cases indices with
  | none => exact hrow
  | some indices =>
    have hne : (row.1 == "frames") = false := beq_false_of_ne (frames_ne_key h)
    rw [entryValue, get?, List.lookup_cons, hne]
    exact hrow

theorem mem_entryFields_of_numbers {e : Entry} {id : Nat} {op : Issued} (h : e.StemsFrom id op)
    {row : String × Nat} (hrow : row ∈ op.numbers) : (row.1, ofNat row.2) ∈ entryFields e := by
  obtain ⟨now, stack, hlater⟩ := h
  rw [hlater.identity]
  simp only [Issued.numbers, List.mem_cons, List.not_mem_nil, or_false] at hrow
  rcases hrow with rfl | rfl | rfl | rfl | rfl
  all_goals simp [entryFields, Entry.ofIssued, ofUInt64_eq_ofNat, ofNat]

theorem mem_entryFields_of_shapes {e : Entry} {id : Nat} {op : Issued} (h : e.StemsFrom id op) :
    ("input_dtypes", ofStrings (op.inputs.map (·.dtype))) ∈ entryFields e ∧
    ("output_dtypes", ofStrings (op.outputs.map (·.dtype))) ∈ entryFields e ∧
    (op.Addressable →
      ("input_sizes", sizesValue (op.inputs.map (·.sizes))) ∈ entryFields e ∧
      ("output_sizes", sizesValue (op.outputs.map (·.sizes))) ∈ entryFields e) := by
  obtain ⟨hinputs, houtputs⟩ := h.types
  rw [← hinputs, ← houtputs]
  refine ⟨by simp [entryFields], by simp [entryFields], ?_⟩
  intro hop
  obtain ⟨hinputs, _, houtputs⟩ := h.sizes hop
  rw [← hinputs, ← houtputs]
  constructor <;> simp [entryFields]

end Dump

namespace SharedRecorder

variable {δ : Type}

/-- This value of a dump is about this operation: the only one that was ever recorded under the id
of the value. -/
structure ListedAs (s : SharedRecorder δ) (v : Value) (id : Nat) (op : Issued) : Prop where
  shown : v.get? "record_id" = some (.ofNat id)
  recorded : .recorded id op ∈ s.history
  only : ∀ other, .recorded id other ∈ s.history → other = op

/-- Listed entries stem from operations that were recorded. -/
theorem stems_of_listed {dev : Device δ} {capacity : Nat} {captureStacks : Bool} {d : δ}
    {before first second : List (ThreadEvent δ)} {now : Int64} {board : StatusId → GroupProgress}
    {options : DumpOptions} {reading : Reading} {s' : SharedRecorder δ}
    (hread : ((start capacity captureStacks d).run dev before).readAmid dev now board options
      first second = (.answered reading, s'))
    {resolver : Resolver} {flavor : Flavor} {native : Option NativeDumps} {v : Value}
    (hv : v ∈ (Dump.tree resolver options flavor native reading).itemsAt "entries") :
    ∃ id op e, s'.ListedAs v id op ∧ e.StemsFrom id op ∧
      ∀ row ∈ Dump.entryFields e, v.get? row.1 = some row.2 := by
  obtain ⟨_, ⟨last, hrun⟩, hentries⟩ := readAmid_eq hread
  obtain ⟨entries, e, table, indices, hreading, he, rfl⟩ := Dump.exists_of_mem_entries hv
  obtain ⟨x, hx, rfl⟩ := hentries entries hreading e he
  obtain ⟨hlived, hsourced⟩ : s'.Lived ∧ s'.Sourced := by
    have hsourced := sourced_run dev capacity captureStacks d (before ++ (first ++ second ++ last))
    rwa [run_append, ← hrun] at hsourced
  obtain ⟨op, hrecorded, hstems⟩ := hsourced x hx
  refine ⟨x.id, op, x, ⟨Dump.get_id_entryValue table indices _, hrecorded, ?_⟩, hstems, ?_⟩
  · intro other hother
    exact hlived.recorded_unique hrecorded hother
  · -- markers have no rows
    have hrows : Dump.entryFields x.clearMarkers = Dump.entryFields x := rfl
    intro row hrow
    rw [← hrows] at hrow
    exact Dump.get_entryValue hrow flavor table indices

/-- Under any interleaving, every entry of a dump has the shapes and types of the tensors that were
passed when its operation was recorded, in their order and also for tensors without dimensions. -/
theorem shapes_dumped (dev : Device δ) (capacity : Nat) (captureStacks : Bool) (d : δ)
    (before first second : List (ThreadEvent δ)) (now : Int64) (board : StatusId → GroupProgress)
    (resolver : Resolver) (options : DumpOptions) (flavor : Flavor) (native : Option NativeDumps)
    {reading : Reading} {s' : SharedRecorder δ}
    (hread : ((start capacity captureStacks d).run dev before).readAmid dev now board options
      first second = (.answered reading, s')) :
    ∀ v ∈ (Dump.tree resolver options flavor native reading).itemsAt "entries",
      ∃ id op, s'.ListedAs v id op ∧
        v.get? "input_dtypes" = some (.list (op.inputs.map fun t => .str t.dtype)) ∧
        v.get? "output_dtypes" = some (.list (op.outputs.map fun t => .str t.dtype)) ∧
        (op.Addressable →
          v.get? "input_sizes" =
            some (.list (op.inputs.map fun t => .list (t.sizes.map .int))) ∧
          v.get? "output_sizes" =
            some (.list (op.outputs.map fun t => .list (t.sizes.map .int)))) := by
  intro v hv
  obtain ⟨id, op, e, hlisted, hstems, hrows⟩ := stems_of_listed hread hv
  obtain ⟨hin, hout, hsizes⟩ := Dump.mem_entryFields_of_shapes hstems
  refine ⟨id, op, hlisted, ?_, ?_, fun hop => ⟨?_, ?_⟩⟩
  · rw [hrows _ hin, Value.ofStrings, List.map_map]
    rfl
  · rw [hrows _ hout, Value.ofStrings, List.map_map]
    rfl
  · rw [hrows _ (hsizes hop).1, Dump.sizesValue, List.map_map]
    rfl
  · rw [hrows _ (hsizes hop).2, Dump.sizesValue, List.map_map]
    rfl

theorem eq_of_recorded_alone {id id' : Nat} {op op' : Issued}
    (h : .recorded id op ∈ [RetiringNote.recorded id' op']) : op = op' := by
  cases List.mem_singleton.mp h
  rfl

def scatterOf : Issued :=
  { sendOf 7 with inputs := [⟨[2, 3], "Float"⟩, ⟨[], "Long"⟩], outputs := [⟨[6], "Half"⟩] }

theorem scatter_shapes_dumped :
    ∃ reading s',
      ((start 1 false ()).run deadDevice [.record ⟨0, []⟩ scatterOf]).readAmid deadDevice
        1 (fun _ => {}) {} [] [] = (.answered reading, s') ∧
      ∃ v ∈ (Dump.tree (fun _ => []) {} .text none reading).itemsAt "entries",
        v.get? "input_sizes" = some (.list [.list [.int 2, .int 3], .list []]) ∧
        v.get? "output_sizes" = some (.list [.list [.int 6]]) := by
  refine ⟨_, _, rfl, _, .head _, ?_⟩
  obtain ⟨id, op, hlisted, _, _, hsizes⟩ := shapes_dumped deadDevice 1 false ()
    [.record ⟨0, []⟩ scatterOf] [] [] 1 (fun _ => {}) (fun _ => []) {} .text none rfl _ (.head _)
  obtain rfl : op = scatterOf := eq_of_recorded_alone hlisted.recorded
  exact hsizes (by decide)

/-- Under any interleaving, every entry of a dump has the numbers that were passed when its
operation was recorded, as signed words of 64 bits. A number is shown unchanged iff it is below `2 ^
63`. -/
theorem numbers_dumped (dev : Device δ) (capacity : Nat) (captureStacks : Bool) (d : δ)
    (before first second : List (ThreadEvent δ)) (now : Int64) (board : StatusId → GroupProgress)
    (resolver : Resolver) (options : DumpOptions) (flavor : Flavor) (native : Option NativeDumps)
    {reading : Reading} {s' : SharedRecorder δ}
    (hread : ((start capacity captureStacks d).run dev before).readAmid dev now board options
      first second = (.answered reading, s')) :
    ∀ v ∈ (Dump.tree resolver options flavor native reading).itemsAt "entries",
      ∃ id op, s'.ListedAs v id op ∧
        ∀ row ∈ op.numbers, ∃ i : Int64, v.get? row.1 = some (.int i) ∧
          i.toInt = (row.2 : Int).bmod (2 ^ 64) ∧ (i.toInt = row.2 ↔ row.2 < 2 ^ 63) ∧
          (i.toInt < 0 ↔ 2 ^ 63 ≤ row.2 % 2 ^ 64) := by
  intro v hv
  obtain ⟨id, op, e, hlisted, hstems, hrows⟩ := stems_of_listed hread hv
  refine ⟨id, op, hlisted, ?_⟩
  intro row hrow
  have hshown := hrows _ (Dump.mem_entryFields_of_numbers hstems hrow)
  exact ⟨Int64.ofNat row.2, hshown, Dump.signed_ofNat row.2⟩

theorem group_number_dumped :
    ∃ reading s',
      ((start 1 false ()).run deadDevice [.record ⟨0, []⟩ scatterOf]).readAmid deadDevice
        1 (fun _ => {}) {} [] [] = (.answered reading, s') ∧
      ∃ v ∈ (Dump.tree (fun _ => []) {} .text none reading).itemsAt "entries",
        ∃ i : Int64, v.get? "pg_id" = some (.int i) ∧ i.toInt = 7 := by
  refine ⟨_, _, rfl, _, .head _, ?_⟩
  obtain ⟨id, op, hlisted, hnumbers⟩ := numbers_dumped deadDevice 1 false ()
    [.record ⟨0, []⟩ scatterOf] [] [] 1 (fun _ => {}) (fun _ => []) {} .text none rfl _ (.head _)
  obtain rfl : op = scatterOf := eq_of_recorded_alone hlisted.recorded
  obtain ⟨i, hi, _, hsame, _⟩ := hnumbers ("pg_id", 7) (.head _)
  exact ⟨i, hi, hsame.mpr (by decide)⟩

def patientOf : Issued :=
  { sendOf 0x8000000000000000 with timeout := ⟨18446744073709551615999999999⟩ }

/-- Both are negative, while the row of the group shows its number unsigned. -/
theorem patient_numbers_negative :
    ∃ reading s',
      ((start 1 false ()).run deadDevice [.record ⟨0, []⟩ patientOf]).readAmid deadDevice
        1 (fun _ => {}) {} [] [] = (.answered reading, s') ∧
      patientOf.numbers.lookup "pg_id" = some 9223372036854775808 ∧
      patientOf.numbers.lookup "timeout_ms" = some 18446744073709551615999 ∧
      ∀ flavor, let dump := Dump.tree (fun _ => []) {} flavor none reading
        (∃ v ∈ dump.itemsAt "entries", v.get? "pg_id" = some (.int (-9223372036854775808)) ∧
          v.get? "timeout_ms" = some (.int (-1))) ∧
        (dump.get? "pg_status").bind (·.get? "9223372036854775808") =
          some (Dump.progressValue flavor {}) := by
  refine ⟨_, _, rfl, rfl, rfl, ?_⟩
  intro flavor
  cases flavor with
  | text => exact ⟨⟨_, .head _, rfl, rfl⟩, rfl⟩
  | binary => exact ⟨⟨_, .head _, rfl, rfl⟩, rfl⟩

end SharedRecorder

end RankTrace
