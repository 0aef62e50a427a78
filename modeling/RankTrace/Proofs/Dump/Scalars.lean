import RankTrace.Proofs.Dump.Parsing

/-!
# Strings and numbers in JSON

What is written for a string or a whole number is read back, whatever stands behind it. Inside a
string nothing looks like its end, and a number ends where no character follows that could belong
to it.
-/

namespace RankTrace.Json

theorem unit?_control {n : Nat} (h : n < 32) (rest : List Char) :
    unit? ('0' :: '0' :: Hex.digit (n / 16) :: Hex.digit (n % 16) :: rest) = some (n, rest) := by
  have hzero : Hex.value? '0' = some 0 := rfl
  have hhigh : Hex.value? (Hex.digit (n / 16)) = some (n / 16) := Hex.value?_digit (by omega)
  have hlow : Hex.value? (Hex.digit (n % 16)) = some (n % 16) := Hex.value?_digit (by omega)
  have hsum : 16 * (n / 16) + n % 16 = n := Nat.div_add_mod n 16
  simp [unit?, hzero, hhigh, hlow, hsum]

theorem unicode?_control {c : Char} (h : c.toNat < 32) (rest : List Char) :
    unicode? ('0' :: '0' :: Hex.digit (c.toNat / 16) :: Hex.digit (c.toNat % 16) :: rest) =
      some (c, rest) := by
  have hlow : c.toNat < 0xd800 ∨ 0xdfff < c.toNat := by omega
  simp only [unicode?, unit?_control h, Option.bind_eq_bind, Option.bind_some, if_pos hlow,
    Char.ofNat_toNat, Option.pure_def]

theorem character?_plain {c : Char} (hquote : c ≠ '"') (hslash : c ≠ '\\') (hplain : ¬ c.toNat < 32)
    (rest : List Char) : character? (c :: rest) = some (c, rest) := by
  rw [character?]
  · exact if_neg (by simp [hquote, hslash, hplain])
  · intro _ hc
    exact absurd hc hslash
  · intro _ _ hc
    exact absurd hc hslash

theorem character?_escape (c : Char) (rest : List Char) :
    character? (escape c ++ rest) = some (c, rest) := by
  by_cases hquote : c = '"'
  · subst hquote; rfl
  by_cases hslash : c = '\\'
  · subst hslash; rfl
  by_cases hback : c = '\x08'
  · subst hback; rfl
  by_cases hfeed : c = '\x0c'
  · subst hfeed; rfl
  by_cases hline : c = '\n'
  · subst hline; rfl
  by_cases hreturn : c = '\r'
  · subst hreturn; rfl
  by_cases htab : c = '\t'
  · subst htab; rfl
  rw [escape, if_neg hquote, if_neg hslash, if_neg hback, if_neg hfeed, if_neg hline,
    if_neg hreturn, if_neg htab]
  by_cases hcontrol : c.toNat < 32
  · rw [if_pos hcontrol]
    exact unicode?_control hcontrol rest
  · rw [if_neg hcontrol]
    exact character?_plain hquote hslash hcontrol rest

theorem escape_ne_quote (c : Char) (rest rest' : List Char) : escape c ++ rest ≠ '"' :: rest' := by
  intro h
  have hread := character?_escape c rest
  rw [h] at hread
  cases hread

theorem content?_flatMap (s rest : List Char) {limit : Nat} (h : s.length < limit) :
    content? limit (s.flatMap escape ++ '"' :: rest) = some (s, rest) := by
  induction s generalizing limit with
  | nil =>
    obtain ⟨limit, rfl⟩ : ∃ n, limit = n + 1 := ⟨limit - 1, by omega⟩
    rfl
  | cons c s ih =>
    rw [List.length_cons] at h
    obtain ⟨limit, rfl⟩ : ∃ n, limit = n + 1 := ⟨limit - 1, by omega⟩
    have hrest : content? limit (s.flatMap escape ++ '"' :: rest) = some (s, rest) := ih (by omega)
    rw [List.flatMap_cons, List.append_assoc, content?]
    · simp only [character?_escape, Option.bind_eq_bind, Option.bind_some, hrest, Option.pure_def]
    · intro _ hquote
      exact absurd hquote (escape_ne_quote c _ _)

theorem length_le_flatMap_escape (s : List Char) : s.length ≤ (s.flatMap escape).length := by
  induction s with
  | nil => exact Nat.le_refl _
  | cons c s ih =>
    have hpos : 0 < (escape c).length := by
      rw [List.length_pos_iff]
      intro h
      have := character?_escape c []
      rw [h] at this
      cases this
    rw [List.flatMap_cons, List.length_append, List.length_cons]
    omega

theorem string?_quote (s : String) (rest : List Char) :
    string? (s.toList.flatMap escape ++ '"' :: rest) = some (s, rest) := by
  have hlength := length_le_flatMap_escape s.toList
  have hlimit : s.toList.length < (s.toList.flatMap escape ++ '"' :: rest).length := by
    rw [List.length_append, List.length_cons]
    omega
  rw [string?, content?_flatMap _ _ hlimit, Option.map_some]
  simp only [String.ofList_toList]

theorem toDigits_zero_in_front {n : Nat} {ds : List Char} (h : Nat.toDigits 10 n = '0' :: ds) :
    ds = [] := by
  induction n using Nat.strongRecOn generalizing ds with
  | ind n ih =>
    rw [Nat.toDigits_eq_if (by decide)] at h
    by_cases hn : n < 10
    · rw [if_pos hn] at h
      exact (List.cons.inj h).2.symm
    · rw [if_neg hn] at h
      cases hfront : Nat.toDigits 10 (n / 10) with
      | nil => exact absurd hfront Nat.toDigits_ne_nil
      | cons d front =>
        rw [hfront] at h
        obtain ⟨rfl, -⟩ := List.cons.inj h
        have hfront' : front = [] := ih (n / 10) (by omega) hfront
        have hzero : n / 10 = 0 := by
          rw [← Scan.decimal_toDigits (n / 10), hfront, hfront']
          rfl
        omega

/-- What follows cannot belong to a number in front of it. -/
def Ends (rest : List Char) : Prop :=
  ∀ c ∈ rest.head?, c.isDigit = false ∧ c ≠ '.' ∧ c ≠ 'e' ∧ c ≠ 'E'

theorem ends_nil : Ends [] := by
  intro c hc
  cases hc

variable {rest : List Char}

theorem digits?_toDigits (n : Nat) (h : Ends rest) :
    digits? (Nat.toDigits 10 n ++ rest) = some (Nat.toDigits 10 n, rest) := by
  have hdigits : ∀ c ∈ Nat.toDigits 10 n, c.isDigit = true :=
    fun c hc => Nat.isDigit_of_mem_toDigits (by decide) (by decide) hc
  have hstop : rest.takeWhile Char.isDigit = [] ∧ rest.dropWhile Char.isDigit = rest := by
    cases rest with
    | nil => exact ⟨rfl, rfl⟩
    | cons c rest =>
      have hc : c.isDigit = false := (h c rfl).1
      simp [hc]
  rw [digits?, List.takeWhile_append_of_pos hdigits, List.dropWhile_append_of_pos hdigits, hstop.1,
    hstop.2, List.append_nil]
  split
  · next hnil => exact absurd hnil Nat.toDigits_ne_nil
  · rfl

theorem whole?_toDigits (n : Nat) (h : Ends rest) :
    whole? (Nat.toDigits 10 n ++ rest) = some (Nat.toDigits 10 n, rest) := by
  rw [whole?, digits?_toDigits n h]
  split
  · next hzero =>
    obtain ⟨hdigits, -⟩ := Prod.mk.inj (Option.some.inj hzero)
    cases toDigits_zero_in_front hdigits
  · rfl

theorem fraction?_ends (h : Ends rest) : fraction? rest = some ([], rest) := by
  unfold fraction?
  split
  · exact absurd rfl (h '.' rfl).2.1
  · rfl

theorem exponent?_ends (h : Ends rest) : exponent? rest = some (none, rest) := by
  cases rest with
  | nil => rfl
  | cons c rest => rw [exponent?, if_neg (by simp [(h c rfl).2.2])]

theorem numberValue_whole {negative : Bool} {n : Nat} {i : Int64}
    (h : signed negative n = i.toInt) :
    numberValue negative (Nat.toDigits 10 n) [] none = some (.int i) := by
  rw [numberValue, if_pos ⟨rfl, rfl⟩, Scan.decimal_toDigits, h]
  simp only [Int64.ofInt_toInt, ↓reduceIte]

theorem sign_toDigits (n : Nat) (rest : List Char) :
    sign (Nat.toDigits 10 n ++ rest) = (false, Nat.toDigits 10 n ++ rest) := by
  unfold sign
  split
  · next cs hminus =>
    cases hdigits : Nat.toDigits 10 n with
    | nil => exact absurd hdigits Nat.toDigits_ne_nil
    | cons d ds =>
      have hd : d.isDigit = true :=
        Nat.isDigit_of_mem_toDigits (b := 10) (n := n) (by decide) (by decide) (by simp [hdigits])
      rw [hdigits] at hminus
      obtain ⟨rfl, -⟩ := List.cons.inj hminus
      cases hd
  · rfl

theorem number?_toString (i : Int64) (h : Ends rest) :
    number? ((toString i.toInt).toList ++ rest) = some (.int i, rest) := by
  rw [Int.toString_eq_repr, Int.repr_eq_if]
  by_cases hi : 0 ≤ i.toInt
  · have hvalue : signed false i.toInt.toNat = i.toInt := Int.toNat_of_nonneg hi
    rw [if_pos hi, Nat.toList_repr, number?, sign_toDigits]
    simp only [whole?_toDigits _ h, fraction?_ends h, exponent?_ends h, numberValue_whole hvalue,
      Option.bind_eq_bind, Option.bind_some, Option.pure_def]
  · have hvalue : signed true (-i.toInt).toNat = i.toInt := by
      simp only [signed, ↓reduceIte]
      omega
    have hminus : ("-" ++ (-i.toInt).toNat.repr).toList ++ rest =
        '-' :: (Nat.toDigits 10 (-i.toInt).toNat ++ rest) := by
      rw [String.toList_append, Nat.toList_repr]
      rfl
    rw [if_neg hi, hminus, number?, sign]
    simp only [whole?_toDigits _ h, fraction?_ends h, exponent?_ends h, numberValue_whole hvalue,
      Option.bind_eq_bind, Option.bind_some, Option.pure_def]

end RankTrace.Json
