/-!
# Scanning

Small readers of characters for the text formats of configuration. A reader takes the characters
that are left and gives what it read with those behind it, or nothing.
-/

namespace RankTrace.Scan

def isHexDigit (c : Char) : Bool :=
  c.isDigit || ('a' ≤ c && c ≤ 'f') || ('A' ≤ c && c ≤ 'F')

def isAsciiBlank (c : Char) : Bool :=
  c = ' ' || c = '\t' || c = '\n' || c = '\x0c' || c = '\r'

def isBlank (c : Char) : Bool :=
  let n := c.toNat
  (0x9 ≤ n && n ≤ 0xd) || n = 0x20 || n = 0x85 || n = 0xa0 || n = 0x1680 ||
    (0x2000 ≤ n && n ≤ 0x200a) || n = 0x2028 || n = 0x2029 || n = 0x202f || n = 0x205f ||
    n = 0x3000

def trim (cs : List Char) : List Char :=
  ((cs.dropWhile isBlank).reverse.dropWhile isBlank).reverse

def after? : (expected cs : List Char) → Option (List Char)
  | [], cs => some cs
  | _ :: _, [] => none
  | e :: expected, c :: cs => if e = c then after? expected cs else none

def afterText? (expected : String) (cs : List Char) : Option (List Char) :=
  after? expected.toList cs

def decimal (cs : List Char) : Nat := cs.foldl (fun n c => 10 * n + (c.toNat - 48)) 0

theorem decimal_toDigits (n : Nat) : decimal (Nat.toDigits 10 n) = n := by
  have hfold : Nat.ofDigitChars 10 (Nat.toDigits 10 n) 0 = decimal (Nat.toDigits 10 n) :=
    Nat.ofDigitChars_eq_foldl
  rw [← hfold, Nat.ofDigitChars_ten_toDigits]

theorem toDigits_inj {i j : Nat} (h : Nat.toDigits 10 i = Nat.toDigits 10 j) : i = j := by
  rw [← decimal_toDigits i, h, decimal_toDigits]

def natural? (cs : List Char) : Option Nat :=
  if cs.isEmpty || !cs.all Char.isDigit then none else some (decimal cs)

def unsigned? : List Char → Option Nat
  | '+' :: cs => natural? cs
  | cs => natural? cs

def signed? : List Char → Option Int
  | '-' :: cs => (natural? cs).map fun n => -n
  | cs => (unsigned? cs).map fun n => n

def character? (digits : List Char) : Option Char := do
  if !digits.all isHexDigit then none
  else
    let n := digits.foldl (fun n c => 16 * n +
      (if c.isDigit then c.toNat - 48 else (c.toNat % 32) + 9)) 0
    if h : n.isValidChar then some ⟨n.toUInt32, by
      rw [UInt32.isValidChar, Nat.toUInt32, UInt32.toNat_ofNat', Nat.mod_eq_of_lt]
      · exact h
      · rcases h with h | h <;> omega⟩
    else none

end RankTrace.Scan
