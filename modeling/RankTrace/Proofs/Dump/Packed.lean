import Mathlib.Algebra.Order.BigOperators.Group.List
import Mathlib.Tactic.SplitIfs
import RankTrace.Proofs.Dump.Unpacking

/-!
# Dumps as MessagePack lose nothing

The bytes of a tree are read back as that tree, with nothing left over and whatever stands behind
them. So no two trees have the same bytes, and no tree's bytes begin another's.
-/

namespace RankTrace.MessagePack

theorem head?_natural {n : Nat} (hn : n < 2 ^ 63) (rest : List UInt8) :
    head? (integer n ++ rest) = some (.scalar (.int (Int64.ofNat n)), rest) := by
  have hmeaning : Head.unsigned? n = some (.scalar (.int (Int64.ofNat n))) := if_pos hn
  simp only [integer, Int.natCast_nonneg, ↓reduceIte, Int.toNat_natCast]
  split
  · apply head?_short (by omega) (Head.long?_eq_none (by omega))
    simpa only [Head.short?, if_pos ‹n < 0x80›] using hmeaning
  split
  · exact head?_long rfl (by assumption) hmeaning rest
  split
  · exact head?_long rfl (by assumption) hmeaning rest
  split
  · exact head?_long rfl (by assumption) hmeaning rest
  · exact head?_long rfl (by simp only [byteRange]; omega) hmeaning rest

/-- Two's complement of a negative number inside the range of the width. -/
theorem Head.signed_negative {width : Nat} {i : Int} (hi : i < 0)
    (hwidth : -byteRange width ≤ 2 * i) :
    Head.signed width (i + byteRange width).toNat = .scalar (.int (Int64.ofInt i)) := by
  have hn : ((i + byteRange width).toNat : Int) = i + byteRange width := by omega
  unfold Head.signed
  rw [if_neg (by omega), hn]
  congr 3
  omega

theorem head?_signed {mark : UInt8} {width : Nat} {i : Int}
    (hlong : Head.long? mark.toNat = some (width, fun n => some (Head.signed width n)))
    (hi : i < 0) (hwidth : -byteRange width ≤ 2 * i) (rest : List UInt8) :
    head? (mark :: bigEndian width (i + byteRange width).toNat ++ rest) =
      some (.scalar (.int (Int64.ofInt i)), rest) := by
  apply head?_long hlong (by omega)
  rw [Head.signed_negative hi hwidth]

theorem head?_negative {i : Int} (hi : i < 0) (hmin : -2 ^ 63 ≤ i) (rest : List UInt8) :
    head? (integer i ++ rest) = some (.scalar (.int (Int64.ofInt i)), rest) := by
  simp only [integer, if_neg (Int.not_le.mpr hi)]
  split
  · apply head?_short (by omega) (Head.long?_eq_none (by omega))
    rw [Head.short?_negative (by omega)]
    exact congrArg some (Head.signed_negative hi (by simp only [byteRange]; omega))
  split
  · exact head?_signed rfl hi (by simp only [byteRange]; omega) rest
  split
  · exact head?_signed rfl hi (by simp only [byteRange]; omega) rest
  split
  · exact head?_signed rfl hi (by simp only [byteRange]; omega) rest
  · exact head?_signed rfl hi (by simp only [byteRange]; omega) rest

theorem head?_integer (i : Int64) (rest : List UInt8) :
    head? (integer i.toInt ++ rest) = some (.scalar (.int i), rest) := by
  have hmin := Int64.le_toInt i
  have hmax := Int64.toInt_lt i
  by_cases hi : i.toInt < 0
  · rw [head?_negative hi hmin, Int64.ofInt_toInt]
  · obtain ⟨n, hn⟩ := Int.eq_ofNat_of_zero_le (Int.not_lt.mp hi)
    have hi : Int64.ofNat n = i := by
      rw [← Int64.ofInt_toInt i, hn]
      rfl
    rw [hn, head?_natural (by omega), hi]

theorem head?_string {n : Nat} (hn : n < 2 ^ 32) (rest : List UInt8) :
    head? (stringHeader n ++ rest) = some (.text n, rest) := by
  unfold stringHeader
  split
  · apply head?_short (by omega) (Head.long?_eq_none (by omega))
    simp only [Head.short?]
    rw [if_neg (by omega), if_neg (by omega), if_neg (by omega), if_pos (by omega),
      Nat.add_sub_cancel_left]
  split
  · exact head?_long rfl (by assumption) rfl rest
  split
  · exact head?_long rfl (by assumption) rfl rest
  · exact head?_long rfl hn rfl rest

theorem head?_list {n : Nat} (hn : n < 2 ^ 32) (rest : List UInt8) :
    head? (listHeader n ++ rest) = some (.list n, rest) := by
  unfold listHeader
  split
  · apply head?_short (by omega) (Head.long?_eq_none (by omega))
    simp only [Head.short?]
    rw [if_neg (by omega), if_neg (by omega), if_pos (by omega), Nat.add_sub_cancel_left]
  split
  · exact head?_long rfl (by assumption) rfl rest
  · exact head?_long rfl hn rfl rest

theorem head?_dict {n : Nat} (hn : n < 2 ^ 32) (rest : List UInt8) :
    head? (dictHeader n ++ rest) = some (.dict n, rest) := by
  unfold dictHeader
  split
  · apply head?_short (by omega) (Head.long?_eq_none (by omega))
    simp only [Head.short?]
    rw [if_neg (by omega), if_pos (by omega), Nat.add_sub_cancel_left]
  split
  · exact head?_long rfl (by assumption) rfl rest
  · exact head?_long rfl hn rfl rest

theorem key?_string {s : String} (h : s.utf8ByteSize < 2 ^ 32) (rest : List UInt8) :
    key? (string s ++ rest) = some (s, rest) := by
  rw [string, length_toUTF8, List.append_assoc, key?, head?_string h]
  exact text?_append s rest

def field (row : String × Value) : List UInt8 := string row.1 ++ encode row.2

mutual

theorem write_eq (v : Value) (rest : List UInt8) : write v rest = encode v ++ rest := by
  cases v with
  | list items => simp only [encode, write, writeItems_eq items, List.append_assoc, List.append_nil]
  | dict fields =>
    simp only [encode, write, writeFields_eq fields, List.append_assoc, List.append_nil]
  | _ => simp only [encode, write, List.append_nil]

theorem writeItems_eq (items : List Value) (rest : List UInt8) :
    writeItems items rest = items.flatMap encode ++ rest := by
  cases items with
  | nil => rfl
  | cons item items =>
    rw [writeItems, write_eq item, writeItems_eq items, List.flatMap_cons, List.append_assoc]

theorem writeFields_eq (fields : List (String × Value)) (rest : List UInt8) :
    writeFields fields rest = fields.flatMap field ++ rest := by
  cases fields with
  | nil => rfl
  | cons row fields =>
    obtain ⟨key, value⟩ := row
    rw [writeFields, write_eq value, writeFields_eq fields, List.flatMap_cons, field]
    simp only [List.append_assoc]

end

theorem encode_int (i : Int64) : encode (.int i) = integer i.toInt := by
  simp only [encode, write, scalar, List.append_nil]

theorem encode_float (f : Double) : encode (.float f) = 0xcb :: bigEndian 8 f.bits.toNat := by
  simp only [encode, write, scalar, List.append_nil]

theorem encode_str (s : String) :
    encode (.str s) = stringHeader s.utf8ByteSize ++ s.toUTF8.toList := by
  simp only [encode, write, scalar, string, length_toUTF8, List.append_nil]

theorem encode_list (items : List Value) :
    encode (.list items) = listHeader items.length ++ items.flatMap encode := by
  rw [encode, write, writeItems_eq, List.append_nil]

theorem encode_dict (fields : List (String × Value)) :
    encode (.dict fields) = dictHeader fields.length ++ fields.flatMap field := by
  rw [encode, write, writeFields_eq, List.append_nil]

theorem length_le_flatMap {α : Type} (bytes : α → List UInt8) {part : α} {parts : List α}
    (h : part ∈ parts) : (bytes part).length ≤ (parts.flatMap bytes).length := by
  rw [List.length_flatMap]
  exact List.single_le_sum (fun _ _ => Nat.zero_le _) _ (List.mem_map_of_mem h)

theorem listHeader_pos (n : Nat) : 0 < (listHeader n).length := by
  unfold listHeader
  split_ifs <;> simp

theorem dictHeader_pos (n : Nat) : 0 < (dictHeader n).length := by
  unfold dictHeader
  split_ifs <;> simp

inductive Packable : Value → Prop
  | null : Packable .null
  | bool (b : Bool) : Packable (.bool b)
  | int (i : Int64) : Packable (.int i)
  | float (f : Double) : Packable (.float f)
  | str {s : String} (hsize : s.utf8ByteSize < 2 ^ 32) : Packable (.str s)
  | list {items : List Value} (hsize : items.length < 2 ^ 32) (hitems : ∀ v ∈ items, Packable v) :
    Packable (.list items)
  | dict {fields : List (String × Value)} (hsize : fields.length < 2 ^ 32)
    (hkeys : ∀ row ∈ fields, row.1.utf8ByteSize < 2 ^ 32)
    (hfields : ∀ row ∈ fields, Packable row.2) :
    Packable (.dict fields)

theorem tree?_scalar {v : Value} {bytes rest : List UInt8}
    (h : head? bytes = some (.scalar v, rest))
    {limit : Nat} : tree? (limit + 1) bytes = some (v, rest) := by
  rw [tree?, h]
  rfl

theorem head?_float (f : Double) (rest : List UInt8) :
    head? (encode (.float f) ++ rest) = some (.scalar (.float f), rest) := by
  have hlong : Head.long? (0xcb : UInt8).toNat =
      some (8, fun n => some (.scalar (.float ⟨UInt64.ofNat n⟩))) := rfl
  rw [encode_float]
  apply head?_long hlong f.bits.toNat_lt
  rw [UInt64.ofNat_toNat]

/-- The induction is on the tree, for all limits that the size of its bytes allows: the parts of a
list or a dictionary have fewer bytes than all of it. -/
theorem tree?_encode {v : Value} (hv : Packable v) (rest : List UInt8) {limit : Nat}
    (hlimit : (encode v).length < limit) : tree? limit (encode v ++ rest) = some (v, rest) := by
  obtain ⟨limit, rfl⟩ : ∃ n, limit = n + 1 := ⟨limit - 1, by omega⟩
  induction hv generalizing rest limit with
  | null => exact tree?_scalar rfl
  | bool b =>
    cases b with
    | false => exact tree?_scalar rfl
    | true => exact tree?_scalar rfl
  | int i =>
    apply tree?_scalar
    rw [encode_int]
    exact head?_integer i rest
  | float f => exact tree?_scalar (head?_float f rest)
  | @str s hsize =>
    rw [encode_str, List.append_assoc, tree?, head?_string hsize]
    simp only [Option.bind_eq_bind, Option.bind_some, text?_append, Option.map_some]
  | @list items hsize _ ih =>
    have hheader := listHeader_pos items.length
    rw [encode_list, List.length_append] at hlimit
    have hitems (v) (hv : v ∈ items) (rest) : tree? limit (encode v ++ rest) = some (v, rest) := by
      have hle := length_le_flatMap encode hv
      obtain ⟨limit, rfl⟩ : ∃ n, limit = n + 1 := ⟨limit - 1, by omega⟩
      exact ih v hv rest limit (by omega)
    rw [encode_list, List.append_assoc, tree?, head?_list hsize]
    simp only [Option.bind_eq_bind, Option.bind_some, many?_flatMap hitems, Option.map_some]
  | @dict fields hsize hkeys _ ih =>
    have hheader := dictHeader_pos fields.length
    rw [encode_dict, List.length_append] at hlimit
    have hrows (row) (hrow : row ∈ fields) (rest) :
        row? (tree? limit) (field row ++ rest) = some (row, rest) := by
      have hle := length_le_flatMap field hrow
      rw [field, List.length_append] at hle
      obtain ⟨limit, rfl⟩ : ∃ n, limit = n + 1 := ⟨limit - 1, by omega⟩
      rw [field, List.append_assoc, row?, key?_string (hkeys row hrow)]
      simp only [Option.bind_eq_bind, Option.bind_some, ih row hrow rest limit (by omega),
        Option.pure_def]
    rw [encode_dict, List.append_assoc, tree?, head?_dict hsize]
    simp only [Option.bind_eq_bind, Option.bind_some, many?_flatMap hrows, Option.map_some]

theorem eq_of_prefix {v w : Value} (hv : Packable v) (hw : Packable w) (h : encode v <+: encode w) :
    v = w := by
  obtain ⟨rest, hrest⟩ := h
  have hlength : (encode v).length ≤ (encode w).length := by simp [← hrest]
  have hreadv : tree? ((encode w).length + 1) (encode v ++ rest) = some (v, rest) :=
    tree?_encode hv rest (by omega)
  have hreadw : tree? ((encode w).length + 1) (encode w ++ []) = some (w, []) :=
    tree?_encode hw [] (by omega)
  have heq : some (v, rest) = some (w, []) := by
    rw [← hreadv, ← hreadw, hrest, List.append_nil]
  exact (Prod.mk.inj (Option.some.inj heq)).1

/-- Decoding the bytes of a tree gives the tree, and leaves what follows. The encoding is injective
and prefix-free. -/
theorem decode_encode_and_prefix_free {v : Value} (hv : Packable v) :
    decode? (encode v) = some v ∧
      (∀ rest, tree? ((encode v).length + 1) (encode v ++ rest) = some (v, rest)) ∧
      (∀ w, Packable w → encode w = encode v → w = v) ∧
      ∀ w, Packable w → encode v <+: encode w → v = w := by
  have hread (rest) := tree?_encode hv rest (Nat.lt_succ_self _)
  refine ⟨?_, hread, fun w hw h => ?_, fun w hw h => eq_of_prefix hv hw h⟩
  · have h := hread []
    rw [List.append_nil] at h
    rw [decode?, h]
  · exact eq_of_prefix hw hv (h ▸ List.prefix_rfl)

def sampleTree : Value :=
  .dict [("range", .list [.int 0x7f, .int 0x80, .int (-0x20), .int (-0x21), .int Int64.minValue]),
    ("", .null), ("span", .list [.str "µs", .float ⟨0x8000000000000000⟩, .bool false])]

theorem packable_sampleTree : Packable sampleTree := by
  refine .dict (by decide) (by decide) ?_
  simp only [List.forall_mem_cons, List.not_mem_nil, false_imp_iff, implies_true, and_true]
  refine ⟨.list (by decide) ?_, .null, .list (by decide) ?_⟩
  · simp only [List.forall_mem_cons, List.not_mem_nil, false_imp_iff, implies_true, and_true]
    exact ⟨.int _, .int _, .int _, .int _, .int _⟩
  · simp only [List.forall_mem_cons, List.not_mem_nil, false_imp_iff, implies_true, and_true]
    exact ⟨.str (by decide), .float _, .bool _⟩

theorem packed_sampleTree :
    Packable sampleTree ∧ decode? (encode sampleTree) = some sampleTree ∧
      ¬ encode sampleTree <+: encode (.list [sampleTree]) := by
  have htree := decode_encode_and_prefix_free packable_sampleTree
  refine ⟨packable_sampleTree, htree.1, fun h => ?_⟩
  have hlist : Packable (.list [sampleTree]) :=
    .list (by decide) (by simpa using packable_sampleTree)
  cases htree.2.2.2 _ hlist h

end RankTrace.MessagePack
