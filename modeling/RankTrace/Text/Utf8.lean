/-!
# Reading UTF-8

Decoding of byte strings into characters. A byte string is cut into characters and faults, where a
fault is the longest run of bytes that begins a character but cannot be completed. A strict reader
refuses any fault, a lenient one puts the replacement character in its place.
-/

namespace RankTrace.Utf8

structure Lead where
  bits : Nat
  more : Nat
  low : Nat := 0x80
  high : Nat := 0xbf

/-- Overlong forms, surrogates and numbers beyond Unicode are shut out by the bounds. -/
def lead? (b : Nat) : Option Lead :=
  if b < 0x80 then some { bits := b, more := 0 }
  else if b < 0xc2 then none
  else if b < 0xe0 then some { bits := b - 0xc0, more := 1 }
  else if b = 0xe0 then some { bits := 0, more := 2, low := 0xa0 }
  else if b = 0xed then some { bits := 0xd, more := 2, high := 0x9f }
  else if b < 0xf0 then some { bits := b - 0xe0, more := 2 }
  else if b = 0xf0 then some { bits := 0, more := 3, low := 0x90 }
  else if b < 0xf4 then some { bits := b - 0xf0, more := 3 }
  else if b = 0xf4 then some { bits := 4, more := 3, high := 0x8f }
  else none

def continuation : (count low high code : Nat) → List UInt8 → Option Nat × List UInt8
  | 0, _, _, code, rest => (some code, rest)
  | _ + 1, _, _, _, [] => (none, [])
  | count + 1, low, high, code, b :: rest =>
    if low ≤ b.toNat ∧ b.toNat ≤ high then
      continuation count 0x80 0xbf (code * 64 + b.toNat % 64) rest
    else (none, b :: rest)

theorem length_continuation_le (count low high code : Nat) (bytes : List UInt8) :
    (continuation count low high code bytes).2.length ≤ bytes.length := by
  fun_induction continuation count low high code bytes with
  | case1 => exact Nat.le_refl _
  | case2 => exact Nat.le_refl _
  | case3 _ _ _ _ _ _ _ ih => exact Nat.le_trans ih (Nat.le_succ _)
  | case4 => exact Nat.le_refl _

def parts : List UInt8 → List (Option Char)
  | [] => []
  | b :: rest =>
    match lead? b.toNat with
    | none => none :: parts rest
    | some lead =>
      (continuation lead.more lead.low lead.high lead.bits rest).1.map Char.ofNat ::
        parts (continuation lead.more lead.low lead.high lead.bits rest).2
termination_by bytes => bytes.length
decreasing_by
  · simp
  · have := length_continuation_le lead.more lead.low lead.high lead.bits rest
    simp only [List.length_cons]
    omega

def replacement : Char := '\ufffd'

def lenient (bytes : List UInt8) : List Char := (parts bytes).map (·.getD replacement)

def strict? (bytes : List UInt8) : Option (List Char) := (parts bytes).mapM id

def bytes (text : String) : List UInt8 := text.toUTF8.toList

end RankTrace.Utf8
