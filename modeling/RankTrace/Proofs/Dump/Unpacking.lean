import Mathlib.Algebra.Order.Group.Nat
import RankTrace.Dump.MessagePack

/-!
# Reading MessagePack

The grammar of MessagePack for the objects that a dump tree can be made of. Each number and each
length is taken in any of its forms, not only in the shortest. Objects that no tree has a place
for are refused: raw bytes, extensions, floats of 32 bits, numbers from `2 ^ 63` on and keys that
are no texts.
-/

namespace RankTrace.MessagePack

/-- What stands at the front of an object: all of it, or its kind and how much follows. -/
inductive Head
  | scalar (v : Value)
  | text (length : Nat)
  | list (length : Nat)
  | dict (length : Nat)

namespace Head

def unsigned? (n : Nat) : Option Head :=
  if n < 2 ^ 63 then some (.scalar (.int (Int64.ofNat n))) else none

def signed (width n : Nat) : Head :=
  .scalar (.int (Int64.ofInt (if 2 * n < byteRange width then n else n - byteRange width)))

def short? (mark : Nat) : Option Head :=
  if mark < 0x80 then unsigned? mark
  else if mark < 0x90 then some (.dict (mark - 0x80))
  else if mark < 0xa0 then some (.list (mark - 0x90))
  else if mark < 0xc0 then some (.text (mark - 0xa0))
  else if 0xe0 ≤ mark then some (signed 1 mark)
  else match mark with
    | 0xc0 => some (.scalar .null)
    | 0xc2 => some (.scalar (.bool false))
    | 0xc3 => some (.scalar (.bool true))
    | _ => none

/-- Heads of a byte and a number: how wide that is, and what it stands for. -/
def long? : Nat → Option (Nat × (Nat → Option Head))
  | 0xcb => some (8, fun n => some (.scalar (.float ⟨UInt64.ofNat n⟩)))
  | 0xcc => some (1, unsigned?)
  | 0xcd => some (2, unsigned?)
  | 0xce => some (4, unsigned?)
  | 0xcf => some (8, unsigned?)
  | 0xd0 => some (1, fun n => some (signed 1 n))
  | 0xd1 => some (2, fun n => some (signed 2 n))
  | 0xd2 => some (4, fun n => some (signed 4 n))
  | 0xd3 => some (8, fun n => some (signed 8 n))
  | 0xd9 => some (1, fun n => some (.text n))
  | 0xda => some (2, fun n => some (.text n))
  | 0xdb => some (4, fun n => some (.text n))
  | 0xdc => some (2, fun n => some (.list n))
  | 0xdd => some (4, fun n => some (.list n))
  | 0xde => some (2, fun n => some (.dict n))
  | 0xdf => some (4, fun n => some (.dict n))
  | _ => none

theorem long?_eq_none {mark : Nat} (h : mark < 0xcb ∨ 0xdf < mark) : long? mark = none := by
  unfold long?
  split <;> first | omega | rfl

theorem short?_negative {mark : Nat} (h : 0xe0 ≤ mark) : short? mark = some (signed 1 mark) := by
  simp only [short?]
  rw [if_neg (by omega), if_neg (by omega), if_neg (by omega), if_neg (by omega), if_pos h]

end Head

def take? (n : Nat) (bytes : List UInt8) : Option (List UInt8 × List UInt8) :=
  if n ≤ bytes.length then some (bytes.take n, bytes.drop n) else none

def head? : List UInt8 → Option (Head × List UInt8)
  | [] => none
  | mark :: bytes =>
    match Head.long? mark.toNat with
    | none => (Head.short? mark.toNat).map (·, bytes)
    | some (width, meaning) => do
      let (digits, rest) ← take? width bytes
      let head ← meaning (ofBigEndian digits)
      return (head, rest)

def many? {α : Type} (read : List UInt8 → Option (α × List UInt8)) :
    Nat → List UInt8 → Option (List α × List UInt8)
  | 0, bytes => some ([], bytes)
  | n + 1, bytes => do
    let (part, bytes) ← read bytes
    let (parts, rest) ← many? read n bytes
    return (part :: parts, rest)

def text? (length : Nat) (bytes : List UInt8) : Option (String × List UInt8) := do
  let (bytes, rest) ← take? length bytes
  let text ← String.fromUTF8? bytes.toByteArray
  return (text, rest)

/-- A key: dump trees have texts only. -/
def key? (bytes : List UInt8) : Option (String × List UInt8) := do
  let (head, bytes) ← head? bytes
  match head with
  | .text length => text? length bytes
  | _ => none

def row? (read : List UInt8 → Option (Value × List UInt8)) (bytes : List UInt8) :
    Option ((String × Value) × List UInt8) := do
  let (key, bytes) ← key? bytes
  let (value, rest) ← read bytes
  return ((key, value), rest)

def tree? : (limit : Nat) → List UInt8 → Option (Value × List UInt8)
  | 0, _ => none
  | limit + 1, bytes => do
    let (head, bytes) ← head? bytes
    match head with
    | .scalar v => return (v, bytes)
    | .text length => (text? length bytes).map fun (s, rest) => (.str s, rest)
    | .list length =>
      (many? (tree? limit) length bytes).map fun (items, rest) => (.list items, rest)
    | .dict length =>
      (many? (row? (tree? limit)) length bytes).map fun (fields, rest) => (.dict fields, rest)

def decode? (bytes : List UInt8) : Option Value :=
  match tree? (bytes.length + 1) bytes with
  | some (v, []) => some v
  | _ => none

theorem take?_append (bytes rest : List UInt8) :
    take? bytes.length (bytes ++ rest) = some (bytes, rest) := by
  simp [take?]

theorem head?_short {n : Nat} {head : Head} (hn : n < 0x100) (hlong : Head.long? n = none)
    (hshort : Head.short? n = some head) (rest : List UInt8) :
    head? (bigEndian 1 n ++ rest) = some (head, rest) := by
  have hbyte : bigEndian 1 n = [UInt8.ofNat (n % 256)] := rfl
  have hmark : (UInt8.ofNat (n % 256)).toNat = n := by
    rw [UInt8.toNat_ofNat']
    omega
  simp only [hbyte, List.cons_append, List.nil_append, head?, hmark, hlong, hshort, Option.map_some]

theorem head?_long {mark : UInt8} {width n : Nat} {meaning : Nat → Option Head} {head : Head}
    (hlong : Head.long? mark.toNat = some (width, meaning)) (hn : n < byteRange width)
    (hmeaning : meaning n = some head) (rest : List UInt8) :
    head? (mark :: bigEndian width n ++ rest) = some (head, rest) := by
  have hnumber : ofBigEndian (bigEndian width n) = n := by
    rw [ofBigEndian_bigEndian, Nat.mod_eq_of_lt hn]
  have htake := take?_append (bigEndian width n) rest
  rw [length_bigEndian] at htake
  simp [head?, hlong, htake, hnumber, hmeaning]

theorem toList_loop (bytes : ByteArray) (i : Nat) (read : List UInt8) :
    ByteArray.toList.loop bytes i read = read.reverse ++ bytes.data.toList.drop i := by
  induction i, read using ByteArray.toList.loop.induct bytes with
  | case1 i read h ih =>
    have hi : i < bytes.data.toList.length := by simpa using h
    have hbyte : bytes.get! i = bytes.data.toList[i] := by
      rw [Array.getElem_toList]
      exact getElem!_pos bytes.data i (by simpa using h)
    rw [ByteArray.toList.loop, if_pos h, ih, List.drop_eq_getElem_cons hi, hbyte]
    simp
  | case2 i read h =>
    rw [ByteArray.toList.loop, if_neg h, List.drop_eq_nil_of_le (by simpa using h), List.append_nil]

theorem toByteArray_toList (bytes : ByteArray) : bytes.toList.toByteArray = bytes := by
  apply ByteArray.ext
  rw [ByteArray.toList, toList_loop]
  simp [List.data_toByteArray]

theorem length_toUTF8 (s : String) : s.toUTF8.toList.length = s.utf8ByteSize := by
  rw [ByteArray.toList, toList_loop]
  rfl

theorem text?_append (s : String) (rest : List UInt8) :
    text? s.utf8ByteSize (s.toUTF8.toList ++ rest) = some (s, rest) := by
  have hread : String.fromUTF8? s.toUTF8.toList.toByteArray = some s := by
    rw [toByteArray_toList]
    exact dif_pos s.isValidUTF8
  rw [text?, ← length_toUTF8, take?_append]
  simp only [Option.bind_eq_bind, Option.bind_some, hread, Option.pure_def]

theorem many?_flatMap {α : Type} {read : List UInt8 → Option (α × List UInt8)}
    {bytes : α → List UInt8}
    {parts : List α} (h : ∀ part ∈ parts, ∀ rest, read (bytes part ++ rest) = some (part, rest))
    (rest : List UInt8) :
    many? read parts.length (parts.flatMap bytes ++ rest) = some (parts, rest) := by
  induction parts with
  | nil => rfl
  | cons part parts ih =>
    have hparts := ih fun part hpart => h part (List.mem_cons_of_mem _ hpart)
    rw [List.flatMap_cons, List.append_assoc, List.length_cons, many?, h part List.mem_cons_self]
    simp only [Option.bind_eq_bind, Option.bind_some, hparts, Option.pure_def]

end RankTrace.MessagePack
