import Mathlib.Algebra.Ring.Nat
import RankTrace.Native.Version
import RankTrace.Proofs.Communicator.Names

/-!
# Version codes

A version code is taken apart by division with remainder. Done in words of 32 bits, no step divides
by zero or leaves the range of words, and the parts put the code together again. So the text of a
version tells its code, among the codes of one weight.
-/

namespace RankTrace

-- Arithmetic in words: a result that no word can hold is none, and so is a division by zero.
namespace CheckedWord

def ofInt? (i : Int) : Option Int32 :=
  if Int32.minValue.toInt ≤ i ∧ i ≤ Int32.maxValue.toInt then some (Int32.ofInt i) else none

def sum? (a b : Int32) : Option Int32 := ofInt? (a.toInt + b.toInt)

def product? (a b : Int32) : Option Int32 := ofInt? (a.toInt * b.toInt)

def quotient? (a b : Int32) : Option Int32 :=
  if b = 0 then none else ofInt? (a.toInt.tdiv b.toInt)

/-- There is a remainder where there is a quotient. -/
def remainder? (a b : Int32) : Option Int32 :=
  (quotient? a b).bind fun _ => ofInt? (a.toInt.tmod b.toInt)

variable {a b : Nat}

theorem toInt_ofNat (h : a < 2 ^ 31) : (Int32.ofNat a).toInt = a := Int32.toInt_ofNat_of_lt h

theorem ofInt?_natCast (h : a < 2 ^ 31) : ofInt? a = some (Int32.ofNat a) := by
  have hbounds : Int32.minValue.toInt ≤ a ∧ (a : Int) ≤ Int32.maxValue.toInt := by
    simp only [Int32.toInt_minValue, Int32.toInt_maxValue]
    omega
  rw [ofInt?, if_pos hbounds, Int32.ofInt_eq_ofNat]

theorem sum?_ofNat (h : a + b < 2 ^ 31) :
    sum? (Int32.ofNat a) (Int32.ofNat b) = some (Int32.ofNat (a + b)) := by
  rw [sum?, toInt_ofNat (by omega), toInt_ofNat (by omega), ← ofInt?_natCast h]
  rfl

theorem product?_ofNat (ha : a < 2 ^ 31) (hb : b < 2 ^ 31) (h : a * b < 2 ^ 31) :
    product? (Int32.ofNat a) (Int32.ofNat b) = some (Int32.ofNat (a * b)) := by
  rw [product?, toInt_ofNat ha, toInt_ofNat hb, ← ofInt?_natCast h]
  rfl

theorem ofNat_ne_zero (hpos : 0 < b) (hb : b < 2 ^ 31) : Int32.ofNat b ≠ 0 := by
  intro hzero
  have hint := congrArg Int32.toInt hzero
  rw [toInt_ofNat hb] at hint
  have : (b : Int) = 0 := hint
  omega

theorem quotient?_ofNat (ha : a < 2 ^ 31) (hpos : 0 < b) (hb : b < 2 ^ 31) :
    quotient? (Int32.ofNat a) (Int32.ofNat b) = some (Int32.ofNat (a / b)) := by
  have hle : a / b < 2 ^ 31 := Nat.lt_of_le_of_lt (Nat.div_le_self a b) ha
  rw [quotient?, if_neg (ofNat_ne_zero hpos hb), toInt_ofNat ha, toInt_ofNat hb,
    ← ofInt?_natCast hle]
  rfl

theorem remainder?_ofNat (ha : a < 2 ^ 31) (hpos : 0 < b) (hb : b < 2 ^ 31) :
    remainder? (Int32.ofNat a) (Int32.ofNat b) = some (Int32.ofNat (a % b)) := by
  have hle : a % b < 2 ^ 31 := Nat.lt_of_le_of_lt (Nat.mod_le a b) ha
  rw [remainder?, quotient?_ofNat ha hpos hb, Option.bind_some, toInt_ofNat ha, toInt_ofNat hb,
    ← ofInt?_natCast hle]
  rfl

end CheckedWord

namespace Version

open CheckedWord

def parts? (code : Int32) : Option (Int32 × Int32 × Int32) := do
  let base : Int32 := if code < 2900 then 1000 else 10000
  let major ← quotient? code base
  let minor ← quotient? (← remainder? code base) 100
  let divisor ← sum? (← product? major base) (← product? minor 100)
  let patch ← remainder? code divisor
  return (major, minor, patch)

theorem majorBase_pos (code : Nat) : 0 < majorBase code := by
  unfold majorBase
  split <;> decide

/-- The divisor of the patch level is the code without its last two digits. -/
theorem divisor_eq (code : Nat) :
    code / majorBase code * majorBase code + code % majorBase code / minorBase * minorBase =
      code / minorBase * minorBase := by
  unfold majorBase minorBase
  split <;> omega

theorem ofNat_eq {code : Nat} (h : 100 ≤ code) : ofNat code =
    ⟨code / majorBase code, code % majorBase code / minorBase, code % minorBase⟩ := by
  have hpatch : code % (code / minorBase * minorBase) = code % minorBase := by
    unfold minorBase
    have hsplit := Nat.mod_add_div' code 100
    have hlt : code % 100 < code / 100 * 100 := by omega
    calc code % (code / 100 * 100)
        = (code % 100 + code / 100 * 100) % (code / 100 * 100) := by rw [hsplit]
      _ = code % 100 % (code / 100 * 100) := Nat.add_mod_right _ _
      _ = code % 100 := Nat.mod_eq_of_lt hlt
  simp only [ofNat, divisor_eq, hpatch]

theorem base_ofNat {code : Nat} (hmax : code < 2 ^ 31) :
    (if Int32.ofNat code < 2900 then 1000 else 10000 : Int32) = Int32.ofNat (majorBase code) := by
  have hlt : Int32.ofNat code < 2900 ↔ code < 2900 := by
    rw [Int32.lt_iff_toInt_lt, toInt_ofNat hmax]
    exact Int.ofNat_lt
  unfold majorBase
  by_cases hold : code < 2900
  · rw [if_pos (hlt.mpr hold), if_pos hold]
    rfl
  · rw [if_neg (mt hlt.mp hold), if_neg hold]
    rfl

theorem majorBase_lt (code : Nat) : majorBase code < 2 ^ 31 := by
  unfold majorBase
  split <;> decide

/-- No step overflows and no divisor is zero. -/
theorem parts?_ofNat {code : Nat} (h : 100 ≤ code) (hmax : code < 2 ^ 31) :
    parts? (Int32.ofNat code) = some (Int32.ofNat (ofNat code).major,
      Int32.ofNat (ofNat code).minor, Int32.ofNat (ofNat code).patch) := by
  have hbase := majorBase_pos code
  have hbase' := majorBase_lt code
  have hsum := divisor_eq code
  have hdivisor : 0 < code / minorBase * minorBase ∧ code / minorBase * minorBase ≤ code := by
    unfold minorBase
    omega
  have hmajor : code / majorBase code < 2 ^ 31 :=
    Nat.lt_of_le_of_lt (Nat.div_le_self _ _) hmax
  have hrest : code % majorBase code < 2 ^ 31 := Nat.lt_of_le_of_lt (Nat.mod_le _ _) hmax
  have hminor : code % majorBase code / minorBase < 2 ^ 31 :=
    Nat.lt_of_le_of_lt (Nat.div_le_self _ _) hrest
  simp only [parts?, base_ofNat hmax, Option.bind_eq_bind,
    show (100 : Int32) = Int32.ofNat minorBase from rfl]
  rw [quotient?_ofNat hmax hbase hbase', Option.bind_some,
    remainder?_ofNat hmax hbase hbase', Option.bind_some,
    quotient?_ofNat hrest (by decide) (by decide), Option.bind_some,
    product?_ofNat hmajor hbase' (by omega), Option.bind_some,
    product?_ofNat hminor (by decide) (by omega), Option.bind_some,
    sum?_ofNat (by omega), Option.bind_some, hsum,
    remainder?_ofNat hmax hdivisor.1 (by omega), Option.bind_some, ofNat, hsum]
  rfl

/-- The parts give the code again, and each is below the weight of the next. -/
theorem code_eq {code : Nat} (h : 100 ≤ code) :
    code = (ofNat code).major * majorBase code + (ofNat code).minor * minorBase +
        (ofNat code).patch ∧
      (ofNat code).minor < majorBase code / minorBase ∧ (ofNat code).patch < minorBase := by
  rw [ofNat_eq h]
  dsimp only
  unfold majorBase minorBase
  split <;> omega

theorem toList_text (v : Version) : v.text.toList =
    (Nat.toDigits 10 v.major ++ '.' :: Nat.toDigits 10 v.minor) ++
      '.' :: Nat.toDigits 10 v.patch := by
  have hparts : v.text = v.major.repr ++ "." ++ v.minor.repr ++ "." ++ v.patch.repr := rfl
  simp only [hparts, String.toList_append, Nat.toList_repr, List.append_assoc]
  rfl

theorem text_injective {v w : Version} (h : v.text = w.text) : v = w := by
  have htext := congrArg String.toList h
  rw [toList_text, toList_text] at htext
  obtain ⟨hfront, hpatch⟩ :=
    append_digits_inj (by decide) (isDigit_toDigits _) (isDigit_toDigits _) htext
  obtain ⟨hmajor, hminor⟩ :=
    append_digits_inj (by decide) (isDigit_toDigits _) (isDigit_toDigits _) hfront
  cases v
  cases w
  exact congr (congr (congrArg Version.mk (Scan.toDigits_inj hmajor)) (Scan.toDigits_inj hminor))
    (Scan.toDigits_inj hpatch)

theorem text_ne_unknown (v : Version) : v.text ≠ "Unknown version" := by
  intro h
  have hdot : '.' ∈ v.text.toList := by
    rw [toList_text]
    simp
  rw [h] at hdot
  revert hdot
  decide

theorem describe_of_le {code : Int32} (h : 100 ≤ code.toInt) :
    describe (some code) = (ofNat code.toInt.toNat).text := by
  simp only [describe, ofCode?, if_pos h]

/-- A code from 100 on is a natural number below `2 ^ 31`. -/
theorem eq_ofNat {code : Int32} (h : 100 ≤ code.toInt) : ∃ n : Nat,
    code = Int32.ofNat n ∧ code.toInt = n ∧ 100 ≤ n ∧ n < 2 ^ 31 := by
  have hlt := code.toInt_lt
  refine ⟨code.toInt.toNat, ?_, by omega, by omega, by omega⟩
  apply Int32.toInt_inj.mp
  rw [toInt_ofNat (by omega)]
  omega

theorem toString_ofNat {n : Nat} (h : n < 2 ^ 31) : toString (Int32.ofNat n) = n.repr := by
  show toString (Int32.ofNat n).toInt = n.repr
  rw [toInt_ofNat h]
  rfl

/-- Every code from 100 on is taken apart without overflow or division by zero, and is put together
again by its parts, so the text is injective among the codes of one weight. A code below 100, or
none, is unknown, and no other is. -/
theorem version_codes :
    (∀ code : Int32, 100 ≤ code.toInt → ∃ major minor patch : Int32,
      let base := if code.toInt < 2900 then 1000 else 10000
      parts? code = some (major, minor, patch) ∧
      describe (some code) = s!"{major}.{minor}.{patch}" ∧
      code.toInt = major.toInt * base + minor.toInt * 100 + patch.toInt ∧
      0 ≤ patch.toInt ∧ patch.toInt < 100 ∧ 0 ≤ minor.toInt ∧ minor.toInt < base / 100 ∧
      0 ≤ major.toInt) ∧
    (∀ a b : Int32, 100 ≤ a.toInt → 100 ≤ b.toInt → (a.toInt < 2900 ↔ b.toInt < 2900) →
      describe (some a) = describe (some b) → a = b) ∧
    ∀ code : Option Int32,
      describe code = "Unknown version" ↔ ∀ c, code = some c → c.toInt < 100 := by
  refine ⟨?_, ?_, ?_⟩
  · intro code h
    obtain ⟨n, rfl, hint, hle, hmax⟩ := eq_ofNat h
    obtain ⟨hcode, hminor, hpatch⟩ := code_eq hle
    have hmajor : (ofNat n).major < 2 ^ 31 := Nat.lt_of_le_of_lt (Nat.div_le_self _ _) hmax
    have hbase : ((majorBase n : Nat) : Int) = if (n : Int) < 2900 then 1000 else 10000 := by
      unfold majorBase
      split <;> omega
    have hwhole := congrArg (Nat.cast : Nat → Int) hcode
    unfold minorBase at hwhole hminor hpatch
    have hsmall : majorBase n / 100 ≤ 100 := by
      unfold majorBase
      split <;> decide
    refine ⟨_, _, _, parts?_ofNat hle hmax, ?_⟩
    have hminor' : (ofNat n).minor < 2 ^ 31 := by omega
    have hpatch' : (ofNat n).patch < 2 ^ 31 := by omega
    rw [describe_of_le h, toInt_ofNat hmajor, toInt_ofNat hminor', toInt_ofNat hpatch', hint,
      ← hbase, toString_ofNat hmajor, toString_ofNat hminor', toString_ofNat hpatch']
    push_cast at hwhole
    exact ⟨rfl, hwhole, by omega, by omega, by omega, by omega, by omega⟩
  · intro a b ha hb hside h
    obtain ⟨m, rfl, hm, hlem, hmaxm⟩ := eq_ofNat ha
    obtain ⟨n, rfl, hn, hlen, hmaxn⟩ := eq_ofNat hb
    rw [describe_of_le ha, describe_of_le hb, hm, hn] at h
    have hversion : ofNat m = ofNat n := text_injective h
    have hbase : majorBase m = majorBase n := by
      unfold majorBase
      split <;> split <;> omega
    rw [(code_eq hlem).1, (code_eq hlen).1, hversion, hbase]
  · intro code
    cases code with
    | none => simp [describe, ofCode?]
    | some c =>
      constructor
      · intro h c' hc
        cases hc
        apply Int.not_le.mp
        intro hle
        rw [describe_of_le hle] at h
        exact text_ne_unknown _ h
      · intro h
        have hlt := h c rfl
        simp only [describe, ofCode?, if_neg (show ¬ 100 ≤ c.toInt by omega)]

/-- A code of the later weight. -/
theorem version_codes_21803 :
    100 ≤ (21803 : Int32).toInt ∧ describe (some 21803) = "2.18.3" ∧
      (21803 : Int32).toInt = 2 * 10000 + 18 * 100 + 3 := by
  obtain ⟨major, minor, patch, hparts, htext, hcode, _⟩ := version_codes.1 21803 (by decide)
  have hthree : parts? 21803 = some (2, 18, 3) := by decide
  rw [hthree] at hparts
  cases hparts
  exact ⟨by decide, htext, hcode⟩

end Version

end RankTrace
