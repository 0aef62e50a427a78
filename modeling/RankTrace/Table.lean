/-!
# Ordered tables

Association lists in ascending key order, one row for a key. The order is given by a decidable
strict order on the keys; a table that is built by `set` and `setNew` from the empty one is
ascending.
-/

namespace RankTrace

abbrev Table (κ ν : Type) := List (κ × ν)

namespace Table

variable {κ ν : Type}

theorem mem_of_lookup [BEq κ] [LawfulBEq κ] {key : κ} {value : ν} {t : Table κ ν}
    (h : t.lookup key = some value) : (key, value) ∈ t := by
  obtain ⟨before, after, hsplit, _⟩ := List.lookup_eq_some_iff.mp h
  rw [hsplit]
  exact List.mem_append_right _ List.mem_cons_self

theorem lookup_of_mem [BEq κ] [LawfulBEq κ] {t : Table κ ν} (hkeys : (t.map Prod.fst).Nodup)
    {row : κ × ν} (h : row ∈ t) : t.lookup row.1 = some row.2 := by
  obtain ⟨before, after, hsplit⟩ := List.append_of_mem h
  apply List.lookup_eq_some_iff.mpr
  refine ⟨before, after, hsplit, ?_⟩
  intro other hother
  rw [hsplit, List.map_append, List.nodup_append] at hkeys
  rw [bne_iff_ne]
  exact (hkeys.2.2 _ (List.mem_map_of_mem hother) _ List.mem_cons_self).symm

theorem lookup_filter_ne [BEq κ] [LawfulBEq κ] {key key' : κ} (h : key' ≠ key) (t : Table κ ν) :
    (t.filter (·.1 != key)).lookup key' = t.lookup key' := by
  induction t with
  | nil => rfl
  | cons row rest ih =>
    obtain ⟨k, v⟩ := row
    by_cases hk : k = key
    · subst hk
      have hne : (key' == k) = false := by simpa using h
      simp [List.lookup_cons, hne, ih]
    · simp [List.lookup_cons, hk, ih]

/-- A strict order that can be decided and in which two keys are equal or comparable. -/
class Key (κ : Type) where
  before : κ → κ → Bool
  before_irrefl : ∀ a, before a a = false
  before_trans : ∀ {a b c}, before a b = true → before b c = true → before a c = true
  eq_of_not_before : ∀ {a b}, before a b = false → before b a = false → a = b

export Key (before before_irrefl before_trans eq_of_not_before)

variable [Key κ]

/-- Change the row of `key`, which `update` gets to see, or make a new one. -/
def alter (key : κ) (update : Option ν → ν) : Table κ ν → Table κ ν
  | [] => [(key, update none)]
  | (k, v) :: rest =>
    if before key k then (key, update none) :: (k, v) :: rest
    else if before k key then (k, v) :: alter key update rest
    else (k, update (some v)) :: rest

def set (key : κ) (value : ν) (t : Table κ ν) : Table κ ν := alter key (fun _ => value) t

def setNew (key : κ) (value : ν) (t : Table κ ν) : Table κ ν := alter key (·.getD value) t

/-- A table of rows in any order; of rows with one key the last counts. -/
def ofRows (rows : List (κ × ν)) : Table κ ν := rows.foldl (fun t row => set row.1 row.2 t) []

def Ascending (t : Table κ ν) : Prop := t.Pairwise fun a b => before a.1 b.1 = true

theorem mem_keys_alter {key k : κ} {update : Option ν → ν} {t : Table κ ν} :
    k ∈ (alter key update t).map (·.1) ↔ k = key ∨ k ∈ t.map (·.1) := by
  induction t with
  | nil => simp [alter]
  | cons row rest ih =>
    obtain ⟨k', v⟩ := row
    rw [alter]
    split
    · simp
    · split
      · simp only [List.map_cons, List.mem_cons, ih]
        grind
      · rename_i h₁ h₂
        have : key = k' := eq_of_not_before (by simpa using h₁) (by simpa using h₂)
        subst this
        simp

theorem Ascending.alter {t : Table κ ν} (h : Ascending t) (key : κ) (update : Option ν → ν) :
    Ascending (Table.alter key update t) := by
  induction t with
  | nil => simp [Table.alter, Ascending]
  | cons row rest ih =>
    obtain ⟨k, v⟩ := row
    have hk : ∀ r ∈ rest, before k r.1 = true := fun r hr => (List.pairwise_cons.1 h).1 r hr
    have hr : Ascending rest := (List.pairwise_cons.1 h).2
    rw [Table.alter]
    split
    · rename_i hb
      refine List.pairwise_cons.2 ⟨?_, h⟩
      intro r hm
      rcases List.mem_cons.1 hm with rfl | hm
      · exact hb
      · exact before_trans hb (hk r hm)
    · split
      · rename_i hb
        refine List.pairwise_cons.2 ⟨?_, ih hr⟩
        intro r hm
        have hm' : r.1 ∈ (Table.alter key update rest).map (·.1) := List.mem_map.2 ⟨r, hm, rfl⟩
        rcases mem_keys_alter.1 hm' with he | he
        · simpa [he] using hb
        · obtain ⟨r', hr', he⟩ := List.mem_map.1 he
          simpa [← he] using hk r' hr'
      · exact List.pairwise_cons.2 ⟨hk, hr⟩

theorem ne_of_before {a b : κ} (h : before a b = true) : a ≠ b := by
  rintro rfl
  rw [before_irrefl] at h
  cases h

theorem Ascending.nodup_keys {t : Table κ ν} (h : t.Ascending) : (t.map Prod.fst).Nodup :=
  List.pairwise_map.2 (h.imp ne_of_before)

/-- Changing one row of an ascending table leaves the other rows unchanged. -/
theorem Ascending.lookup_alter [BEq κ] [LawfulBEq κ] {t : Table κ ν} (h : Ascending t)
    (key k : κ) (update : Option ν → ν) : (Table.alter key update t).lookup k =
      if k == key then some (update (t.lookup key)) else t.lookup k := by
  induction t with
  | nil => grind [Table.alter]
  | cons row rest ih =>
    obtain ⟨k', v⟩ := row
    obtain ⟨hfirst, hrest⟩ := List.pairwise_cons.1 h
    rw [Table.alter]
    split
    · rename_i hfront
      -- all rows come behind the key, so none has it
      have hnone : ((k', v) :: rest).lookup key = none := by
        refine List.lookup_eq_none_iff.2 fun r hr => ?_
        rw [bne_iff_ne]
        rcases List.mem_cons.1 hr with rfl | hr
        · exact ne_of_before hfront
        · exact ne_of_before (before_trans hfront (hfirst r hr))
      rw [hnone]
      grind
    · split
      · rename_i hbehind
        have hne : k' ≠ key := ne_of_before hbehind
        have ih := ih hrest
        grind
      · rename_i h₁ h₂
        have : key = k' := eq_of_not_before (by simpa using h₁) (by simpa using h₂)
        subst this
        grind

theorem ascending_ofRows (rows : List (κ × ν)) : Ascending (ofRows rows) := by
  have aux : ∀ (rows : List (κ × ν)) (t : Table κ ν), Ascending t →
      Ascending (rows.foldl (fun t row => set row.1 row.2 t) t) := by
    intro rows
    induction rows with
    | nil => exact fun _ h => h
    | cons row rest ih => exact fun t h => ih _ (h.alter _ _)
  exact aux rows [] List.Pairwise.nil

instance : Key UInt64 where
  before a b := a < b
  before_irrefl a := by simp
  before_trans {a b c} h k := by simp only [decide_eq_true_eq, UInt64.lt_iff_toNat_lt] at *; omega
  eq_of_not_before {a b} h k := by
    simp only [decide_eq_false_iff_not, UInt64.lt_iff_toNat_lt] at *
    exact UInt64.toNat_inj.1 (by omega)

instance : Key String where
  before a b := a < b
  before_irrefl a := by simp
  before_trans {a b c} h k := by
    simp only [decide_eq_true_eq] at *
    exact String.lt_trans h k
  eq_of_not_before {a b} h k := by
    simp only [decide_eq_false_iff_not, String.not_lt] at *
    exact String.le_antisymm k h

end Table

end RankTrace
