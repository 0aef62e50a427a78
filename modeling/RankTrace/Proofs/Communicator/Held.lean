import Mathlib.Algebra.Ring.Nat
import Mathlib.Data.List.Nodup
import RankTrace.Proofs.Session.Views

/-!
# Segments inside the scripted library

What each call makes of the pointers that the scripted library holds for its handles, and of the
counter from which it draws handles. A call about one handle leaves the others alone.
-/

namespace RankTrace.Scripted

/-- The pointers that the library holds for a handle. -/
def pointers? (s : Scripted) (raw : RawHandle) : Option (List UInt64) :=
  (s.comm? raw).map fun c => c.segments.map Prod.fst

structure Keeps (s s' : Scripted) : Prop where
  pointers : ∀ raw, s'.pointers? raw = s.pointers? raw
  counter : s'.nextHandle = s.nextHandle
  forced : s'.forced = s.forced

structure Touches (raw : RawHandle) (s s' : Scripted) : Prop where
  elsewhere : ∀ other, other ≠ raw → s'.pointers? other = s.pointers? other
  counter : s'.nextHandle = s.nextHandle
  forced : s'.forced = s.forced

structure Allots (raw : RawHandle) (s s' : Scripted) : Prop where
  handle : raw = ⟨s.nextHandle⟩
  empty : s'.pointers? raw = some []
  elsewhere : ∀ other, other ≠ raw → s'.pointers? other = s.pointers? other
  counter : s'.nextHandle = s.nextHandle + 0x10
  forced : s'.forced = s.forced

/-- The counter got `n` further, and releases that were forced to fail still are. -/
structure Draws (n : Nat) (s s' : Scripted) : Prop where
  counter : s'.nextHandle = s.nextHandle + UInt64.ofNat n
  fails : s.forced.deregister ≠ some .success → s'.forced.deregister ≠ some .success

variable {s s' s'' : Scripted} {raw : RawHandle}

theorem Keeps.refl (s : Scripted) : s.Keeps s := ⟨fun _ => rfl, rfl, rfl⟩

theorem Keeps.trans (h : s.Keeps s') (h' : s'.Keeps s'') : s.Keeps s'' where
  pointers := fun raw => (h'.pointers raw).trans (h.pointers raw)
  counter := h'.counter.trans h.counter
  forced := h'.forced.trans h.forced

theorem Keeps.touches (h : s.Keeps s') (raw : RawHandle) : Touches raw s s' :=
  ⟨fun other _ => h.pointers other, h.counter, h.forced⟩

theorem Touches.trans (h : Touches raw s s') (h' : Touches raw s' s'') : Touches raw s s'' where
  elsewhere := fun other hne => (h'.elsewhere other hne).trans (h.elsewhere other hne)
  counter := h'.counter.trans h.counter
  forced := h'.forced.trans h.forced

theorem Allots.keeps_trans (h : s.Keeps s') (h' : Allots raw s' s'') : Allots raw s s'' where
  handle := by rw [h'.handle, h.counter]
  empty := h'.empty
  elsewhere := fun other hne => (h'.elsewhere other hne).trans (h.pointers other)
  counter := by rw [h'.counter, h.counter]
  forced := h'.forced.trans h.forced

theorem Touches.draws (h : Touches raw s s') : Draws 0 s s' where
  counter := by simp [h.counter]
  fails := by rw [h.forced]; exact id

theorem Keeps.draws (h : s.Keeps s') : Draws 0 s s' := (h.touches ⟨0⟩).draws

theorem Allots.draws (h : Allots raw s s') : Draws 16 s s' where
  counter := h.counter
  fails := by rw [h.forced]; exact id

theorem pointers_setComm (s : Scripted) (raw : RawHandle) (c : ScriptedComm) (other : RawHandle) :
    (s.setComm raw c).pointers? other =
      if other = raw then some (c.segments.map Prod.fst) else s.pointers? other := by
  obtain ⟨val⟩ := raw
  obtain ⟨val'⟩ := other
  by_cases h : val' = val
  · subst h
    simp [pointers?, comm?, setComm]
  · have hne : (val' == val) = false := by simpa using h
    simp [pointers?, comm?, setComm, List.lookup_cons, hne, Table.lookup_filter_ne h, h]

theorem touches_setComm (s : Scripted) (raw : RawHandle) (c : ScriptedComm) :
    Touches raw s (s.setComm raw c) where
  elsewhere := fun other hne => by rw [pointers_setComm, if_neg hne]
  counter := rfl
  forced := rfl

theorem keeps_setComm {c c' : ScriptedComm} (h : s.comm? raw = some c)
    (hsegments : c'.segments = c.segments) : s.Keeps (s.setComm raw c') where
  pointers := by
    intro other
    rw [pointers_setComm]
    split
    · next heq =>
      subst heq
      rw [pointers?, h, hsegments]
      rfl
    · rfl
  counter := rfl
  forced := rfl

theorem keeps_queryError (s : Scripted) (raw : RawHandle) : s.Keeps (s.queryError raw).2 := by
  unfold queryError
  split
  · exact .refl s
  dsimp only
  split
  · exact ⟨fun _ => rfl, rfl, rfl⟩
  · next c hc =>
    have hpoll : (poll c).2.segments = c.segments := by
      unfold poll
      split <;> rfl
    have hkeeps := keeps_setComm hc hpoll
    exact ⟨hkeeps.pointers, hkeeps.counter, hkeeps.forced⟩

/-- A registered segment is held from then on, and its handle leads back to the pointer. -/
theorem register_cases (s : Scripted) (raw : RawHandle) (ptr size : UInt64) :
    (∃ status, (s.register raw ptr size).1 = .error status ∧ s.Keeps (s.register raw ptr size).2) ∨
    ∃ held, s.pointers? raw = some held ∧
      (s.register raw ptr size).1 = .ok ⟨ptr ^^^ segmentMask⟩ ∧
      Touches raw s (s.register raw ptr size).2 ∧
      (s.register raw ptr size).2.pointers? raw = some (ptr :: held.filter (· != ptr)) := by
  unfold register
  split
  · next failure _ => exact .inl ⟨failure, rfl, .refl s⟩
  dsimp only
  split
  · exact .inl ⟨.invalidArgument, rfl, fun _ => rfl, rfl, rfl⟩
  · next c hc =>
    have hcomm : s.comm? raw = some c := hc
    refine .inr ⟨c.segments.map Prod.fst, by rw [pointers?, hcomm]; rfl, rfl, ?_, ?_⟩
    · have htouches := touches_setComm s raw (setSegment c ptr size)
      exact ⟨htouches.elsewhere, rfl, rfl⟩
    · rw [pointers_setComm, if_pos rfl, setSegment, List.map_cons, List.filter_map]
      rfl

/-- A released segment is no longer held. A release that is made to fail changes nothing. -/
theorem deregister_cases (s : Scripted) (raw : RawHandle) (segment : SegmentHandle)
    (hforced : s.forced.deregister ≠ some .success) :
    (s.deregister raw segment).1 ≠ .success ∧ s.Keeps (s.deregister raw segment).2 ∨
    ∃ held, s.pointers? raw = some held ∧ (s.deregister raw segment).1 = .success ∧
      Touches raw s (s.deregister raw segment).2 ∧
      (s.deregister raw segment).2.pointers? raw =
        some (held.filter (· != segment.val ^^^ segmentMask)) := by
  unfold deregister
  split
  · next failure hfailure =>
    refine .inl ⟨?_, .refl s⟩
    rintro rfl
    exact hforced hfailure
  dsimp only
  split
  · exact .inl ⟨nofun, fun _ => rfl, rfl, rfl⟩
  · next c hc =>
    have hcomm : s.comm? raw = some c := hc
    refine .inr ⟨c.segments.map Prod.fst, by rw [pointers?, hcomm]; rfl, rfl, ?_, ?_⟩
    · have htouches := touches_setComm s raw (eraseSegment c (segment.val ^^^ segmentMask))
      exact ⟨htouches.elsewhere, rfl, rfl⟩
    · rw [pointers_setComm, if_pos rfl, eraseSegment, List.filter_map]
      rfl

theorem deregister_touches (s : Scripted) (raw : RawHandle) (segment : SegmentHandle) :
    Touches raw s (s.deregister raw segment).2 := by
  unfold deregister
  split
  · exact (Keeps.refl s).touches raw
  dsimp only
  split
  · exact ⟨fun _ _ => rfl, rfl, rfl⟩
  · next c _ =>
    have htouches := touches_setComm s raw (eraseSegment c (segment.val ^^^ segmentMask))
    exact ⟨htouches.elsewhere, rfl, rfl⟩

def Knows (s : Scripted) (raw : RawHandle) : Prop := (s.pointers? raw).isSome

theorem deregister_knows (h : s.Knows raw) (segment : SegmentHandle) :
    (s.deregister raw segment).2.Knows raw := by
  unfold deregister
  split
  · exact h
  dsimp only
  split
  · exact h
  · unfold Knows
    rw [pointers_setComm, if_pos rfl]
    rfl

/-- After an abort with any answer, nothing is held for the handle. -/
theorem abort_spec (s : Scripted) (raw : RawHandle) :
    Touches raw s (s.abort raw).2 ∧ (s.Knows raw → (s.abort raw).2.pointers? raw = some []) := by
  unfold abort
  dsimp only
  split
  · next hc =>
    have hcomm : s.comm? raw = none := hc
    refine ⟨⟨fun _ _ => rfl, rfl, rfl⟩, fun hknows => ?_⟩
    rw [Knows, pointers?, hcomm] at hknows
    cases hknows
  · next c _ =>
    have htouches := touches_setComm s raw
      { c with aborted := true, pending := s.abortPolls, segments := [] }
    refine ⟨⟨htouches.elsewhere, rfl, rfl⟩, fun _ => ?_⟩
    rw [pointers_setComm, if_pos rfl]
    rfl

theorem allocate_cases (s : Scripted) (config : InitConfig) :
    (∃ status, (s.allocate config).1 = .error status ∧ s.Keeps (s.allocate config).2) ∨
    ∃ raw, (s.allocate config).1 = .ok raw ∧ Allots raw s (s.allocate config).2 := by
  unfold allocate
  split
  · next failure _ => exact .inl ⟨failure, rfl, .refl s⟩
  · refine .inr ⟨⟨s.nextHandle⟩, rfl, rfl, ?_, ?_, rfl, rfl⟩
    · rw [pointers_setComm, if_pos rfl]
      rfl
    · intro other hne
      rw [pointers_setComm, if_neg hne]
      rfl

theorem initRank_cases (s : Scripted) (config : InitConfig) :
    (∃ status, (s.initRank config).1 = .error status ∧ s.Keeps (s.initRank config).2) ∨
    ∃ raw, (s.initRank config).1 = .ok raw ∧ Allots raw s (s.initRank config).2 := by
  have hcount : s.Keeps { s with counts.init := s.counts.init + 1 } := ⟨fun _ => rfl, rfl, rfl⟩
  rcases allocate_cases { s with counts.init := s.counts.init + 1 } config with
    ⟨status, hstatus, hkeeps⟩ | ⟨raw, hraw, hallots⟩
  · exact .inl ⟨status, hstatus, hcount.trans hkeeps⟩
  · exact .inr ⟨raw, hraw, hallots.keeps_trans hcount⟩

theorem split_cases (s : Scripted) (parent : RawHandle) (config : InitConfig) :
    (∃ status, (s.split parent config).1 = .error status ∧ s.Keeps (s.split parent config).2) ∨
    ∃ raw, (s.split parent config).1 = .ok raw ∧ Allots raw s (s.split parent config).2 := by
  have hcount : s.Keeps { s with counts.split := s.counts.split + 1 } := ⟨fun _ => rfl, rfl, rfl⟩
  unfold split
  dsimp only
  split
  · rcases allocate_cases { s with counts.split := s.counts.split + 1 } config with
      ⟨status, hstatus, hkeeps⟩ | ⟨raw, hraw, hallots⟩
    · exact .inl ⟨status, hstatus, hcount.trans hkeeps⟩
    · exact .inr ⟨raw, hraw, hallots.keeps_trans hcount⟩
  · exact .inl ⟨.invalidArgument, rfl, hcount⟩

theorem drawUniqueId_spec (s : Scripted) :
    (∀ raw, s.drawUniqueId.2.pointers? raw = s.pointers? raw) ∧
      ∃ n < 2 ^ 64, Draws n s s.drawUniqueId.2 := by
  unfold drawUniqueId
  split
  · exact ⟨fun _ => rfl, 0, by decide, (Keeps.refl s).draws⟩
  · exact ⟨fun _ => rfl, 1, by decide, rfl, id⟩

/-- The number that a new library draws after it has counted this far. -/
def numberAt (k : Nat) : UInt64 := 0x1000 + UInt64.ofNat k

theorem numberAt_inj {k k' : Nat} (hk : k < 2 ^ 64) (hk' : k' < 2 ^ 64)
    (h : numberAt k = numberAt k') : k = k' := by
  have heq : UInt64.ofNat k = UInt64.ofNat k' := (UInt64.add_right_inj 0x1000).mp h
  rw [← Nat.mod_eq_of_lt hk, ← Nat.mod_eq_of_lt hk', ← UInt64.toNat_ofNat', ← UInt64.toNat_ofNat',
    heq]

theorem numberAt_add (k n : Nat) : numberAt (k + n) = numberAt k + UInt64.ofNat n := by
  rw [numberAt, numberAt, UInt64.ofNat_add, UInt64.add_assoc]

/-- The handles were drawn before the counter got this far, each of them once. -/
structure Allotted (handles : List RawHandle) (drawn : Nat) (s : Scripted) : Prop where
  distinct : handles.Nodup
  numbered : ∀ raw ∈ handles, ∃ k < drawn, raw.val = numberAt k
  counter : s.nextHandle = numberAt drawn
  fails : s.forced.deregister ≠ some .success

namespace Allotted

variable {handles : List RawHandle} {drawn n : Nat}

theorem draw (h : Allotted handles drawn s) (hdraws : Draws n s s') :
    Allotted handles (drawn + n) s' where
  distinct := h.distinct
  numbered := by
    intro raw hraw
    obtain ⟨k, hk, hval⟩ := h.numbered raw hraw
    exact ⟨k, Nat.lt_add_right n hk, hval⟩
  counter := by rw [numberAt_add, ← h.counter, hdraws.counter]
  fails := hdraws.fails h.fails

/-- Until the counter wraps, a drawn handle is new. -/
theorem fresh (h : Allotted handles drawn s) (hdrawn : drawn < 2 ^ 64) (hallots : Allots raw s s') :
    raw ∉ handles := by
  intro hmem
  obtain ⟨k, hk, hval⟩ := h.numbered raw hmem
  rw [hallots.handle, h.counter] at hval
  exact absurd (numberAt_inj hdrawn (Nat.lt_trans hk hdrawn) hval) (Nat.ne_of_gt hk)

theorem allot (h : Allotted handles drawn s) (hdrawn : drawn < 2 ^ 64) (hallots : Allots raw s s') :
    Allotted (handles ++ [raw]) (drawn + 16) s' :=
  { h.draw hallots.draws with
    distinct := by
      refine List.nodup_append.mpr ⟨h.distinct, List.nodup_singleton raw, ?_⟩
      rintro other hother _ hraw rfl
      exact h.fresh hdrawn hallots (List.mem_singleton.mp hraw ▸ hother)
    numbered := by
      intro other hother
      rcases List.mem_append.mp hother with hold | hraw
      · exact (h.draw hallots.draws).numbered other hold
      · rw [List.mem_singleton.mp hraw, hallots.handle]
        exact ⟨drawn, by omega, h.counter⟩ }

theorem counted (h : Allotted handles drawn s) {handles' : List RawHandle}
    (h' : Allotted handles' (drawn + n) s') (hn : n < 2 ^ 64) :
    (s'.nextHandle - s.nextHandle).toNat = n := by
  rw [h.counter, h'.counter, numberAt_add, UInt64.add_comm, UInt64.add_sub_cancel,
    UInt64.toNat_ofNat', Nat.mod_eq_of_lt hn]

end Allotted

/-- A library that answers like the scripted one, but may have other dumps. -/
structure IsScripted (lib : Library Scripted) : Prop where
  quiet : lib.DumpsQuietly
  answer : ∀ call, (∀ raw, call ≠ .dump raw) → lib.answer call = Scripted.answer call

theorem IsScripted.answer_eq {lib : Library Scripted} (hlib : IsScripted lib) {call : NativeCall}
    (hcall : ∀ raw, call ≠ .dump raw) (s : Scripted) :
    lib.answer call s = Scripted.answer call s :=
  congrFun (hlib.answer call hcall) s

theorem isScripted_library : IsScripted library := ⟨library_quiet, fun _ _ => rfl⟩

theorem isScripted_libraryWithoutDump : IsScripted libraryWithoutDump where
  quiet := libraryWithoutDump_quiet
  answer := by
    intro call hne
    cases call with
    | dump raw => exact absurd rfl (hne raw)
    | _ => rfl

end RankTrace.Scripted
