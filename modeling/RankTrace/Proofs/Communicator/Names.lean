import RankTrace.Communicator.Split
import RankTrace.Text.Scan

/-!
# Names of communicators

A created communicator is named by the first bytes of its id. A child of a split has the name of its
parent, a slash and its number among the children. So the last number of a name says which child it
is, what stands before it says of whom, and a name without a slash is that of a created one.
-/

namespace RankTrace

namespace Hex

theorem decodeDigits?_byte (b : UInt8) (rest : List Char) :
    decodeDigits? (digit (b.toNat / 16) :: digit (b.toNat % 16) :: rest) =
      (decodeDigits? rest).map (b :: ·) := by
  have hbyte := b.toNat_lt
  have hhigh : value? (digit (b.toNat / 16)) = some (b.toNat / 16) := value?_digit (by omega)
  have hlow : value? (digit (b.toNat % 16)) = some (b.toNat % 16) := value?_digit (by omega)
  have hwhole : UInt8.ofNat (16 * (b.toNat / 16) + b.toNat % 16) = b := by
    rw [Nat.div_add_mod, UInt8.ofNat_toNat]
  simp only [decodeDigits?, hhigh, hlow, Option.bind_eq_bind, Option.bind_some, hwhole]
  cases decodeDigits? rest <;> rfl

theorem decode?_encode (bytes : List UInt8) : decode? (encode bytes) = some bytes := by
  rw [decode?, encode, String.toList_ofList]
  induction bytes with
  | nil => rfl
  | cons b rest ih =>
    rw [List.flatMap_cons, List.cons_append, List.cons_append, List.nil_append,
      decodeDigits?_byte, ih]
    rfl

theorem encode_injective {a b : List UInt8} (h : encode a = encode b) : a = b := by
  have hread := congrArg decode? h
  rw [decode?_encode, decode?_encode] at hread
  exact Option.some.inj hread

theorem length_encode (bytes : List UInt8) : (encode bytes).toList.length = 2 * bytes.length := by
  rw [encode, String.toList_ofList]
  induction bytes with
  | nil => rfl
  | cons b rest ih =>
    rw [List.flatMap_cons, List.length_append, ih, List.length_cons]
    simp only [List.length_cons, List.length_nil]
    omega

theorem digit_ne_slash {n : Nat} (h : n < 16) : digit n ≠ '/' := by
  decide +revert

theorem slash_notMem_encode (bytes : List UInt8) : '/' ∉ (encode bytes).toList := by
  rw [encode, String.toList_ofList, List.mem_flatMap]
  rintro ⟨b, _, hdigit⟩
  have hbyte := b.toNat_lt
  rcases List.mem_cons.mp hdigit with hhigh | hlow
  · exact digit_ne_slash (by omega) hhigh.symm
  · exact digit_ne_slash (by omega) (List.mem_singleton.mp hlow).symm

end Hex

namespace UniqueId

theorem take_eq_of_text {id id' : UniqueId} (h : id.text = id'.text) :
    id.bytes.take 16 = id'.bytes.take 16 :=
  Hex.encode_injective h

theorem length_text (id : UniqueId) : id.text.toList.length = 32 := by
  rw [text, Hex.length_encode, List.length_take, id.size_eq]
  rfl

theorem slash_notMem_text (id : UniqueId) : '/' ∉ id.text.toList :=
  Hex.slash_notMem_encode _

end UniqueId

def splitName (parent : String) (i : Nat) : String := s!"{parent}/split{i}"

theorem toList_splitName (parent : String) (i : Nat) : (splitName parent i).toList =
    (parent.toList ++ "/spli".toList) ++ 't' :: Nat.toDigits 10 i := by
  have hparts : splitName parent i = parent ++ "/split" ++ i.repr := rfl
  rw [hparts, String.toList_append, String.toList_append, Nat.toList_repr, List.append_assoc,
    List.append_assoc]
  rfl

/-- The last character that is no digit splits a text in one way. -/
theorem append_digits_inj {xs ys ds es : List Char} {x : Char} (hx : x.isDigit = false)
    (hds : ∀ d ∈ ds, d.isDigit = true) (hes : ∀ d ∈ es, d.isDigit = true)
    (h : xs ++ x :: ds = ys ++ x :: es) : xs = ys ∧ ds = es := by
  have hread (zs : List Char) {fs : List Char} (hfs : ∀ d ∈ fs, d.isDigit = true) :
      (zs ++ x :: fs).reverse.takeWhile Char.isDigit = fs.reverse := by
    have hdigits : ∀ d ∈ fs.reverse, d.isDigit = true := fun d hd => hfs d (List.mem_reverse.mp hd)
    rw [List.reverse_append, List.reverse_cons, List.append_assoc,
      List.takeWhile_append_of_pos hdigits, List.singleton_append, List.takeWhile_cons_of_neg
      (by simp [hx]), List.append_nil]
  have hreversed := hread xs hds
  rw [h, hread ys hes] at hreversed
  obtain rfl : ds = es := (List.reverse_inj.mp hreversed).symm
  exact ⟨List.append_cancel_right h, rfl⟩

theorem isDigit_toDigits (i : Nat) : ∀ d ∈ Nat.toDigits 10 i, d.isDigit = true := by
  intro d hd
  exact Nat.isDigit_of_mem_toDigits (by decide) (by decide) hd

/-- The name of a child determines the name of its parent and its number. -/
theorem splitName_inj {p q : String} {i j : Nat} (h : splitName p i = splitName q j) :
    p = q ∧ i = j := by
  have htext := congrArg String.toList h
  rw [toList_splitName, toList_splitName] at htext
  obtain ⟨hparents, hdigits⟩ :=
    append_digits_inj (by decide) (isDigit_toDigits i) (isDigit_toDigits j) htext
  exact ⟨String.toList_inj.mp (List.append_cancel_right hparents), Scan.toDigits_inj hdigits⟩

theorem slash_mem_splitName (parent : String) (i : Nat) : '/' ∈ (splitName parent i).toList := by
  simp [toList_splitName]

theorem prefix_splitName (parent : String) (i : Nat) :
    parent.toList <+: (splitName parent i).toList := by
  rw [toList_splitName, List.append_assoc]
  exact List.prefix_append _ _

end RankTrace
