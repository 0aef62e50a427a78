import RankTrace.Communicator.Bootstrap
import RankTrace.Native.Scripted

/-!
# Joining with bootstrap data

A bootstrap and its 136 bytes determine each other, and every string of that size is a bootstrap. A
rank joins with the numbers of the bootstrap, or is refused without a call. No number is truncated
between the wire and the 32 bits of the library.
-/

namespace RankTrace

theorem ofLittleEndian_lt (bytes : List UInt8) :
    ofLittleEndian bytes < byteRange bytes.length := by
  induction bytes with
  | nil => exact Nat.zero_lt_one
  | cons b rest ih =>
    have hb : b.toNat < 256 := b.toNat_lt
    simp only [ofLittleEndian, List.length_cons, byteRange]
    omega

/-- Decoding inverts encoding in a width that the number fits. -/
theorem littleEndian_ofLittleEndian (bytes : List UInt8) :
    littleEndian bytes.length (ofLittleEndian bytes) = bytes := by
  induction bytes with
  | nil => rfl
  | cons b rest ih =>
    have hb : b.toNat < 256 := b.toNat_lt
    have hlow : (b.toNat + 256 * ofLittleEndian rest) % 256 = b.toNat := by omega
    have hhigh : (b.toNat + 256 * ofLittleEndian rest) / 256 = ofLittleEndian rest := by omega
    rw [List.length_cons, ofLittleEndian, littleEndian, hlow, hhigh, ih, UInt8.ofNat_toNat]

namespace Communicator

variable {σ : Type} {worldSize rank : Int32}

theorem create_outside (h : rank < 0 ∨ worldSize ≤ rank) (lib : Library σ)
    (settings : CommSettings) (id : UniqueId) (config : InitConfig) (host : Host σ) :
    create lib settings worldSize rank id config host =
      (.error (.invalidRank rank worldSize), host) := if_pos h

/-- Inside the world one call is made, and its answer decides. -/
theorem create_inside (h : ¬ (rank < 0 ∨ worldSize ≤ rank)) (lib : Library σ)
    (settings : CommSettings) (id : UniqueId) (config : InitConfig) (host : Host σ) :
    let call : NativeCall :=
      .initRank worldSize rank id { config with blocking := !settings.nonblocking }
    let r := create lib settings worldSize rank id config host
    r.2.calls = call :: host.calls ∧
    (∀ raw, (lib.answer call host.library).1 = .ok raw →
      r.1 = .ok (fresh settings (some id) id.text rank raw)) ∧
    (∀ status, (lib.answer call host.library).1 = .error status →
      r.1 = .error ((host.call lib call).2.nativeError lib .init status none none)) := by
  intro call r
  unfold r create
  rw [if_neg h]
  dsimp only
  split
  · next status hanswer =>
    refine ⟨rfl, fun raw hraw => ?_, fun other hother => ?_⟩
    · cases hanswer.symm.trans hraw
    · cases hanswer.symm.trans hother
      rfl
  · next raw hanswer =>
    refine ⟨rfl, fun other hother => ?_, fun status hstatus => ?_⟩
    · cases hanswer.symm.trans hother
      rfl
    · cases hanswer.symm.trans hstatus

end Communicator

namespace Bootstrap

variable {σ : Type} {b : Bootstrap} {bytes : List UInt8} {n rank : UInt64}

theorem length_encode (b : Bootstrap) : b.encode.length = encodedSize := by
  simp [encode, encodedSize, b.uniqueId.size_eq, UniqueId.size]

theorem decode_encode (b : Bootstrap) : decode b.encode = .ok b := by
  have hheader : (littleEndian headerSize b.worldSize.toNat).length = headerSize :=
    length_littleEndian _ _
  have hrange : b.worldSize.toNat < byteRange headerSize := b.worldSize.toNat_lt
  have hid : b.encode.drop headerSize = b.uniqueId.bytes := List.drop_left' hheader
  have hworld : UInt64.ofNat (ofLittleEndian (b.encode.take headerSize)) = b.worldSize := by
    rw [encode, List.take_left' hheader, ofLittleEndian_littleEndian, Nat.mod_eq_of_lt hrange,
      UInt64.ofNat_toNat]
  rw [decode, dif_pos b.length_encode]
  simp only [hid, hworld]

/-- Decoding loses no byte, so it is injective. -/
theorem encode_of_decode (h : decode bytes = .ok b) : b.encode = bytes := by
  unfold decode at h
  split at h
  case isFalse => cases h
  next hsize =>
  cases h
  have hheader : (bytes.take headerSize).length = headerSize := by
    rw [List.length_take, hsize]
    rfl
  have hrange : ofLittleEndian (bytes.take headerSize) < UInt64.size := by
    have hlt := ofLittleEndian_lt (bytes.take headerSize)
    rwa [hheader] at hlt
  have hworld : littleEndian headerSize (ofLittleEndian (bytes.take headerSize)) =
      bytes.take headerSize := by
    have hback := littleEndian_ofLittleEndian (bytes.take headerSize)
    rwa [hheader] at hback
  rw [encode, UInt64.toNat_ofNat', Nat.mod_eq_of_lt hrange, hworld]
  exact List.take_append_drop headerSize bytes

theorem exists_decode_iff (bytes : List UInt8) :
    (∃ b, decode bytes = .ok b) ↔ bytes.length = encodedSize := by
  constructor
  · rintro ⟨b, hb⟩
    rw [← encode_of_decode hb, length_encode]
  · intro hsize
    exact ⟨_, dif_pos hsize⟩

theorem toInt32?_of_le (h : n.toNat ≤ maxInt32) :
    ∃ i : Int32, toInt32? n = some i ∧ i.toInt = n.toNat := by
  refine ⟨Int32.ofNat n.toNat, if_pos h, Int32.toInt_ofNat_of_lt ?_⟩
  exact Nat.lt_succ_of_le h

theorem toInt32?_of_gt (h : maxInt32 < n.toNat) : toInt32? n = none := if_neg (Nat.not_le.mpr h)

/-- There is room for the rank, and the library can be told how large the world is. -/
def Admits (b : Bootstrap) (rank : UInt64) : Prop :=
  rank < b.worldSize ∧ b.worldSize.toNat ≤ maxInt32

instance (b : Bootstrap) (rank : UInt64) : Decidable (b.Admits rank) :=
  inferInstanceAs (Decidable (_ ∧ _))

/-- The one call of an admitted rank: the numbers of the bootstrap, and the options of the caller
with the blocking mode replaced. -/
theorem join_admitted (h : b.Admits rank) (lib : Library σ) (settings : CommSettings)
    (config : InitConfig) (host : Host σ) :
    ∃ worldSize key : Int32, worldSize.toInt = b.worldSize.toNat ∧ key.toInt = rank.toNat ∧
      let call : NativeCall :=
        .initRank worldSize key b.uniqueId { config with blocking := !settings.nonblocking }
      let joined := b.join lib settings rank config host
      joined.2.calls = call :: host.calls ∧
      (∀ raw, (lib.answer call host.library).1 = .ok raw →
        joined.1 = .ok (.fresh settings (some b.uniqueId) b.uniqueId.text key raw)) ∧
      (∀ status, (lib.answer call host.library).1 = .error status →
        joined.1 = .error ((host.call lib call).2.nativeError lib .init status none none)) := by
  obtain ⟨hroom, hworld⟩ := h
  rw [UInt64.lt_iff_toNat_lt] at hroom
  obtain ⟨worldSize, hworldSize, hsize⟩ := toInt32?_of_le hworld
  obtain ⟨key, hrank, hkey⟩ := toInt32?_of_le (show rank.toNat ≤ maxInt32 by omega)
  have hinside : ¬ (key < 0 ∨ worldSize ≤ key) := by
    rw [Int32.lt_iff_toInt_lt, Int32.le_iff_toInt_le, hsize, hkey, Int32.toInt_zero]
    omega
  refine ⟨worldSize, key, hsize, hkey, ?_⟩
  intro call joined
  obtain ⟨hcalls, hok, herror⟩ :=
    Communicator.create_inside hinside lib settings b.uniqueId config host
  rcases hcreate : Communicator.create lib settings worldSize key b.uniqueId config host with
    ⟨e | c, host'⟩
  all_goals
    rw [hcreate] at hcalls hok herror
    simp only [joined, join, hworldSize, hrank, hcreate]
    exact ⟨hcalls, hok, herror⟩

theorem join_oversized (h : maxInt32 < b.worldSize.toNat) (lib : Library σ)
    (settings : CommSettings) (rank : UInt64) (config : InitConfig) (host : Host σ) :
    b.join lib settings rank config host =
      (.error (.invalidBootstrap (.worldSize b.worldSize)), host) := by
  rw [join, toInt32?_of_gt h]

/-- A rank that is not admitted. The error shows it as a signed word, or the largest such word. -/
theorem join_outside (hworld : b.worldSize.toNat ≤ maxInt32) (h : b.worldSize ≤ rank)
    (lib : Library σ) (settings : CommSettings) (config : InitConfig) (host : Host σ) :
    ∃ shown worldSize : Int32, worldSize.toInt = b.worldSize.toNat ∧
      shown.toInt = min rank.toNat maxInt32 ∧
      b.join lib settings rank config host = (.error (.invalidRank shown worldSize), host) := by
  rw [UInt64.le_iff_toNat_le] at h
  obtain ⟨worldSize, hworldSize, hsize⟩ := toInt32?_of_le hworld
  by_cases hrank : rank.toNat ≤ maxInt32
  · obtain ⟨key, hsome, hkey⟩ := toInt32?_of_le hrank
    refine ⟨key, worldSize, hsize, by omega, ?_⟩
    have houtside : key < 0 ∨ worldSize ≤ key := by
      rw [Int32.le_iff_toInt_le, hsize, hkey]
      omega
    rw [join, hworldSize, hsome]
    simp only [Communicator.create_outside houtside]
  · refine ⟨Int32.ofNat maxInt32, worldSize, hsize, ?_, ?_⟩
    · rw [Int32.toInt_ofNat_of_lt (by decide)]
      omega
    · rw [join, hworldSize, toInt32?_of_gt (Nat.lt_of_not_le hrank)]

/-- Encoding and decoding are inverse, on all bootstraps and on exactly the strings of 136 bytes. A
rank inside a world of fewer than `2 ^ 31` ranks makes one call, with the unchanged world size, rank
and id, and the answer decides the result. Any other rank makes no call. -/
theorem ranks_join_alike (lib : Library σ) :
    (∀ b : Bootstrap, decode b.encode = .ok b) ∧
    (∀ bytes : List UInt8, ((∃ b, decode bytes = .ok b) ↔ bytes.length = 136) ∧
      (∀ b, decode bytes = .ok b → b.encode = bytes)) ∧
    ∀ (bytes : List UInt8) (b : Bootstrap), decode bytes = .ok b →
      ∀ (settings : CommSettings) (rank : UInt64) (config : InitConfig) (host : Host σ),
      let joined := b.join lib settings rank config host
      (b.Admits rank → ∃ worldSize key : Int32, worldSize.toInt = b.worldSize.toNat ∧
        key.toInt = rank.toNat ∧
        let call : NativeCall :=
          .initRank worldSize key b.uniqueId { config with blocking := !settings.nonblocking }
        joined.2.calls = call :: host.calls ∧
        (∀ raw, (lib.answer call host.library).1 = .ok raw →
          joined.1 = .ok (.fresh settings (some b.uniqueId) b.uniqueId.text key raw)) ∧
        (∀ status, (lib.answer call host.library).1 = .error status →
          joined.1 = .error ((host.call lib call).2.nativeError lib .init status none none))) ∧
      (¬ b.Admits rank → joined.2 = host ∧
        (2147483647 < b.worldSize.toNat →
          joined.1 = .error (.invalidBootstrap (.worldSize b.worldSize))) ∧
        (b.worldSize.toNat ≤ 2147483647 → ∃ shown worldSize : Int32,
          worldSize.toInt = b.worldSize.toNat ∧ shown.toInt = min rank.toNat 2147483647 ∧
          joined.1 = .error (.invalidRank shown worldSize))) := by
  refine ⟨decode_encode, fun bytes => ⟨exists_decode_iff bytes, fun b => encode_of_decode⟩, ?_⟩
  intro bytes b _ settings rank config host joined
  refine ⟨fun h => join_admitted h lib settings config host, fun h => ?_⟩
  by_cases hworld : b.worldSize.toNat ≤ maxInt32
  · have hrank : b.worldSize ≤ rank := UInt64.not_lt.mp fun hroom => h ⟨hroom, hworld⟩
    obtain ⟨shown, worldSize, hsize, hshown, heq⟩ :=
      join_outside hworld hrank lib settings config host
    refine ⟨congrArg Prod.snd heq, fun hlarge => absurd hworld (Nat.not_le.mpr hlarge), fun _ => ?_⟩
    exact ⟨shown, worldSize, hsize, hshown, congrArg Prod.fst heq⟩
  · have heq := join_oversized (Nat.lt_of_not_le hworld) lib settings rank config host
    exact ⟨congrArg Prod.snd heq, fun _ => congrArg Prod.fst heq,
      fun hsmall => absurd hsmall hworld⟩

/-- The last of four ranks joins. A world of `2 ^ 32 + 2` ranks is refused, not cut to 32 bits. -/
theorem fourRanks_joined :
    let host : Host Scripted := { library := {}, clock := ⟨0, 0⟩ }
    let four : Bootstrap := ⟨.ofNat 42, 4⟩
    let wide : Bootstrap := ⟨.ofNat 42, 4294967298⟩
    decode four.encode = .ok four ∧ four.Admits 3 ∧
    (four.join Scripted.library .blocking 3 {} host).2.calls =
      [.initRank 4 3 (.ofNat 42) { blocking := true }] ∧
    decode wide.encode = .ok wide ∧ ¬ wide.Admits 1 ∧
    wide.join Scripted.library .blocking 1 {} host =
      (.error (.invalidBootstrap (.worldSize 4294967298)), host) := by
  intro host four wide
  obtain ⟨hback, _, hjoin⟩ := ranks_join_alike Scripted.library
  have hfour : four.Admits 3 := by decide
  have hwide : ¬ wide.Admits 1 := by decide
  obtain ⟨worldSize, key, hsize, hkey, hcalls, _⟩ :=
    (hjoin four.encode four (hback four) .blocking 3 {} host).1 hfour
  obtain ⟨hhost, hlarge, _⟩ := (hjoin wide.encode wide (hback wide) .blocking 1 {} host).2 hwide
  obtain rfl : worldSize = 4 := Int32.toInt_inj.mp hsize
  obtain rfl : key = 3 := Int32.toInt_inj.mp hkey
  exact ⟨hback four, hfour, hcalls, hback wide, hwide, Prod.ext (hlarge (by decide)) hhost⟩

end Bootstrap

end RankTrace
