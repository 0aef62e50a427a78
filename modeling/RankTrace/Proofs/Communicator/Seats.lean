import Mathlib.Data.List.Nodup
import RankTrace.Communicator.Fleet
import RankTrace.Proofs.Trace.Groups

/-!
# Members of a fleet

Every member of a fleet has a name, under which it can be replaced, and a key, which it keeps and
which no other member has.
-/

namespace RankTrace

namespace Table

variable {κ ν : Type} [Key κ] {t : Table κ ν}

theorem Ascending.eq_of_key_eq (h : t.Ascending) {row row' : κ × ν} (hrow : row ∈ t)
    (hrow' : row' ∈ t) (heq : row.1 = row'.1) : row = row' :=
  List.inj_on_of_nodup_map h.nodup_keys hrow hrow' heq

theorem Ascending.mem_set (h : t.Ascending) {key : κ} {value : ν} {row : κ × ν}
    (hrow : row ∈ t.set key value) : row = (key, value) ∨ row ∈ t ∧ row.1 ≠ key := by
  induction t with
  | nil => exact .inl (List.mem_singleton.mp hrow)
  | cons first rest ih =>
    obtain ⟨k, v⟩ := first
    obtain ⟨hbehind, hrest⟩ := List.pairwise_cons.mp h
    rw [set, Table.alter] at hrow
    split at hrow
    · next hbefore =>
      rcases List.mem_cons.mp hrow with rfl | hold
      · exact .inl rfl
      · refine .inr ⟨hold, ?_⟩
        rcases List.mem_cons.mp hold with rfl | hmem
        · exact (ne_of_before hbefore).symm
        · exact (ne_of_before (before_trans hbefore (hbehind row hmem))).symm
    split at hrow
    · next hbefore =>
      rcases List.mem_cons.mp hrow with rfl | hmem
      · exact .inr ⟨List.mem_cons_self, ne_of_before hbefore⟩
      · rcases ih hrest hmem with hnew | ⟨hold, hne⟩
        · exact .inl hnew
        · exact .inr ⟨List.mem_cons_of_mem _ hold, hne⟩
    · next hnot hnot' =>
      obtain rfl : key = k := eq_of_not_before (by simpa using hnot) (by simpa using hnot')
      rcases List.mem_cons.mp hrow with rfl | hmem
      · exact .inl rfl
      · exact .inr ⟨List.mem_cons_of_mem _ hmem, (ne_of_before (hbehind row hmem)).symm⟩

end Table

namespace Fleet

variable {σ : Type} {lib : Library σ} {f : Fleet σ} {name : String} {c : Communicator}
  {row : String × Member}

structure Keyed (f : Fleet σ) : Prop where
  names : f.members.Ascending
  bounded : ∀ row ∈ f.members, row.2.key < f.nextKey
  keys : ∀ row ∈ f.members, ∀ row' ∈ f.members, row.2.key = row'.2.key → row = row'

theorem mem_update (hrow : row ∈ (f.update name c).members) :
    (∃ m, (name, m) ∈ f.members ∧ row = (name, { m with comm := c })) ∨
      row ∈ f.members ∧ row.1 ≠ name := by
  obtain ⟨⟨n, m⟩, hmem, rfl⟩ := List.mem_map.mp hrow
  by_cases hn : n = name
  · subst hn
    exact .inl ⟨m, hmem, by simp⟩
  · exact .inr ⟨by simpa [hn] using hmem, hn⟩

def seat (name : String) (c : Communicator) (f : Fleet σ) : Fleet σ :=
  { f with members := f.members.set name ⟨f.nextKey, c⟩, nextKey := f.nextKey + 1 }

theorem Keyed.update (h : f.Keyed) : (f.update name c).Keyed where
  names := by
    have hkeys : f.members.Pairwise fun a b => Table.before a.1 b.1 = true := h.names
    exact List.pairwise_map.mpr hkeys
  bounded := by
    intro row hrow
    rcases mem_update hrow with ⟨m, hmem, rfl⟩ | ⟨hmem, _⟩
    · exact h.bounded (name, m) hmem
    · exact h.bounded row hmem
  keys := by
    intro row hrow row' hrow' heq
    rcases mem_update hrow with ⟨m, hmem, rfl⟩ | ⟨hmem, hne⟩ <;>
      rcases mem_update hrow' with ⟨m', hmem', rfl⟩ | ⟨hmem', hne'⟩
    · cases h.keys _ hmem _ hmem' heq
      rfl
    · cases h.keys _ hmem _ hmem' heq
      exact absurd rfl hne'
    · cases h.keys _ hmem _ hmem' heq
      exact absurd rfl hne
    · exact h.keys _ hmem _ hmem' heq

theorem Keyed.mem_seat (h : f.Keyed) (hrow : row ∈ (f.seat name c).members) :
    row = (name, ⟨f.nextKey, c⟩) ∨ row ∈ f.members ∧ row.1 ≠ name :=
  h.names.mem_set hrow

theorem Keyed.seat (h : f.Keyed) : (f.seat name c).Keyed where
  names := h.names.alter name _
  bounded := by
    intro row hrow
    rcases h.mem_seat hrow with rfl | ⟨hmem, _⟩
    · exact Nat.lt_succ_self f.nextKey
    · exact Nat.lt_succ_of_lt (h.bounded row hmem)
  keys := by
    intro row hrow row' hrow' heq
    rcases h.mem_seat hrow with rfl | ⟨hmem, _⟩ <;>
      rcases h.mem_seat hrow' with rfl | ⟨hmem', _⟩
    · rfl
    · exact absurd heq (Nat.ne_of_gt (h.bounded row' hmem'))
    · exact absurd heq (Nat.ne_of_lt (h.bounded row hmem))
    · exact h.keys row hmem row' hmem' heq

theorem Keyed.filter (h : f.Keyed) (keep : String × Member → Bool) :
    { f with members := f.members.filter keep }.Keyed where
  names := List.Pairwise.filter keep h.names
  bounded := fun row hrow => h.bounded row (List.mem_filter.mp hrow).1
  keys := fun row hrow row' hrow' =>
    h.keys row (List.mem_filter.mp hrow).1 row' (List.mem_filter.mp hrow').1

end Fleet

end RankTrace
