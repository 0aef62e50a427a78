import Mathlib.Algebra.Ring.Nat
import RankTrace.Trace.Entry

/-!
# Shapes of tensors

An entry keeps the sizes of all its tensors in one list, and for each tensor its number of
dimensions. Recorded shapes are read back from that. Other numbers of dimensions give shapes that
take the sizes in their order, each once, as long as the dimensions of the inputs add up to a word.
Otherwise reading the output shapes unwinds.
-/

namespace RankTrace.Entry

variable {sizes : List Int64} {dims : List UInt64} {shapes : List (List Int64)} {e : Entry}

/-- The shapes take the sizes from the front on, each size once. There is one shape for each number
of dimensions, and a shape is shorter than its number says only if no sizes are left behind it. -/
structure ReadOff (sizes : List Int64) (dims : List UInt64)
    (shapes : List (List Int64)) : Prop where
  one_each : shapes.length = dims.length
  front : shapes.flatten <+: sizes
  narrow : ∀ (k : Nat) (shape : List Int64) (dim : UInt64), shapes[k]? = some shape →
    dims[k]? = some dim → shape.length ≤ dim.toNat ∧
      (shape.length < dim.toNat → (shapes.take (k + 1)).flatten = sizes)

theorem total_cons (dim : UInt64) (dims : List UInt64) :
    total (dim :: dims) = dim.toNat + total dims := rfl

theorem length_chunk (sizes : List Int64) (dims : List UInt64) :
    (chunk sizes dims).length = dims.length := by
  induction dims generalizing sizes with
  | nil => rfl
  | cons dim dims ih => rw [chunk, List.length_cons, ih, List.length_cons]

theorem flatten_chunk (sizes : List Int64) (dims : List UInt64) :
    (chunk sizes dims).flatten = sizes.take (total dims) := by
  induction dims generalizing sizes with
  | nil => rfl
  | cons dim dims ih => rw [chunk, List.flatten_cons, ih, total_cons, List.take_add]

theorem chunk_append (sizes : List Int64) (dims more : List UInt64) :
    chunk sizes (dims ++ more) = chunk sizes dims ++ chunk (sizes.drop (total dims)) more := by
  induction dims generalizing sizes with
  | nil => rfl
  | cons dim dims ih =>
    rw [List.cons_append, chunk, ih, chunk, List.cons_append, List.drop_drop, total_cons]

theorem narrow_chunk (k : Nat) {shape : List Int64} {dim : UInt64}
    (hshape : (chunk sizes dims)[k]? = some shape) (hdim : dims[k]? = some dim) :
    shape.length ≤ dim.toNat ∧
      (shape.length < dim.toNat → ((chunk sizes dims).take (k + 1)).flatten = sizes) := by
  induction dims generalizing sizes k with
  | nil => cases hdim
  | cons first dims ih =>
    cases k with
    | zero =>
      obtain rfl : first = dim := Option.some.inj hdim
      obtain rfl : sizes.take first.toNat = shape := Option.some.inj hshape
      refine ⟨List.length_take_le _ _, ?_⟩
      intro hshort
      rw [List.length_take] at hshort
      have hall : sizes.length ≤ first.toNat := by omega
      simp [chunk, List.take_of_length_le hall]
    | succ k =>
      obtain ⟨hle, hshort⟩ := ih k hshape hdim
      refine ⟨hle, ?_⟩
      intro hlt
      rw [chunk, List.take_succ_cons, List.flatten_cons, hshort hlt, List.take_append_drop]

theorem readOff_chunk (sizes : List Int64) (dims : List UInt64) :
    ReadOff sizes dims (chunk sizes dims) where
  one_each := length_chunk sizes dims
  front := by
    rw [flatten_chunk]
    exact List.take_prefix _ _
  narrow := fun k _ _ hshape hdim => narrow_chunk k hshape hdim

/-- Shapes with dimensions that are words are read back, followed by anything. -/
theorem chunk_flatten (h : ∀ shape ∈ shapes, shape.length < 2 ^ 64) (rest : List Int64) :
    chunk (shapes.flatten ++ rest) (shapes.map (UInt64.ofNat ·.length)) = shapes := by
  induction shapes with
  | nil => rfl
  | cons shape shapes ih =>
    obtain ⟨hshape, hshapes⟩ := List.forall_mem_cons.mp h
    have hdim : (UInt64.ofNat shape.length).toNat = shape.length :=
      UInt64.toNat_ofNat_of_lt' hshape
    rw [List.map_cons, chunk, hdim, List.flatten_cons, List.append_assoc, List.take_left,
      List.drop_left, ih hshapes]

/-- The checked sum is answered iff the exact sum is a word. -/
theorem checkedTotal_eq (sum : UInt64) (dims : List UInt64) :
    checkedTotal sum dims =
      if sum.toNat + total dims < 2 ^ 64 then .answered (sum + UInt64.ofNat (total dims))
      else .unwound := by
  induction dims generalizing sum with
  | nil =>
    have hsum : sum.toNat + total [] < 2 ^ 64 := sum.toNat_lt
    rw [checkedTotal, if_pos hsum]
    exact congrArg Reply.answered (UInt64.add_zero sum).symm
  | cons dim dims ih =>
    rw [checkedTotal, total_cons]
    by_cases hword : sum.toNat + dim.toNat < UInt64.size
    · have hadd : (sum + dim).toNat = sum.toNat + dim.toNat :=
        (UInt64.toNat_add sum dim).trans (Nat.mod_eq_of_lt hword)
      rw [if_pos hword, ih, hadd, UInt64.ofNat_add, UInt64.ofNat_toNat, UInt64.add_assoc,
        Nat.add_assoc]
    · rw [if_neg hword, if_neg]
      intro hall
      exact hword (by change _ < 2 ^ 64; omega)

/-- The output shapes are answered iff the dimensions of the inputs add up to a word. -/
theorem outputSizes_eq (e : Entry) :
    e.outputSizes =
      if total e.inputDims < 2 ^ 64 then .answered e.recordedOutputSizes else .unwound := by
  rw [outputSizes, checkedTotal_eq, UInt64.toNat_zero, UInt64.zero_add, Nat.zero_add]
  by_cases hword : total e.inputDims < 2 ^ 64
  · have hstart : (UInt64.ofNat (total e.inputDims)).toNat = total e.inputDims :=
      UInt64.toNat_ofNat_of_lt' hword
    simp only [if_pos hword, hstart, recordedOutputSizes]
  · simp only [if_neg hword]

theorem readOff_recorded (e : Entry) :
    ReadOff e.sizes (e.inputDims ++ e.outputDims) (e.inputSizes ++ e.recordedOutputSizes) := by
  rw [inputSizes, recordedOutputSizes, ← chunk_append]
  exact readOff_chunk _ _

/-- For any numbers of dimensions, the input shapes take the sizes from the front. The output shapes
are answered iff the dimensions of the inputs add up to a word, and then inputs and outputs take the
sizes from the front, each once. Otherwise reading the output shapes unwinds. -/
theorem shapes_read_off (e : Entry) :
    ReadOff e.sizes e.inputDims e.inputSizes ∧
    match e.outputSizes with
    | .answered outputs => total e.inputDims < 2 ^ 64 ∧
        ReadOff e.sizes (e.inputDims ++ e.outputDims) (e.inputSizes ++ outputs)
    | .unwound => 2 ^ 64 ≤ total e.inputDims := by
  refine ⟨readOff_chunk _ _, ?_⟩
  rw [outputSizes_eq]
  by_cases hword : total e.inputDims < 2 ^ 64
  · rw [if_pos hword]
    exact ⟨hword, readOff_recorded e⟩
  · rw [if_neg hword]
    exact Nat.le_of_not_lt hword

/-- Two inputs whose dimensions add up to one more than a word holds. -/
def overflowingDims : Entry :=
  { id := 0, groupId := 0, group := ⟨"0", "default_pg"⟩, collectiveSeq := 1, p2pSeq := 0, opId := 1,
    name := "nccl:all_reduce", created := 0, inputDims := [0xffffffffffffffff, 2],
    outputDims := [1], sizes := [5, 6] }

/-- The input shapes are answered, but reading the output shapes unwinds. -/
theorem overflowingDims_unwind :
    overflowingDims.inputSizes = [[5, 6], []] ∧
      ReadOff overflowingDims.sizes (overflowingDims.inputDims ++ overflowingDims.outputDims)
        (overflowingDims.inputSizes ++ [[]]) ∧
      overflowingDims.outputSizes = .unwound := by
  have hinputs : overflowingDims.inputSizes = [[5, 6], []] := by decide
  have hnone : overflowingDims.recordedOutputSizes = [[]] := by decide
  have hread := readOff_recorded overflowingDims
  rw [hnone] at hread
  exact ⟨hinputs, hread, by decide⟩

end RankTrace.Entry
