import RankTrace.Table

/-!
# Process groups

A group has a name and a description, which together identify it, and a progress that its owner
maintains and the recorder only reports. `-1` says that nothing has reached a stage yet.
-/

namespace RankTrace

structure GroupName where
  name : String
  desc : String
  deriving DecidableEq, Inhabited, Repr

instance : Table.Key GroupName where
  before a b := a.name < b.name || (a.name = b.name && a.desc < b.desc)
  before_irrefl a := by simp
  before_trans {a b c} h k := by
    simp only [Bool.or_eq_true, Bool.and_eq_true, decide_eq_true_eq] at *
    rcases h with h | ⟨h, h'⟩ <;> rcases k with k | ⟨k, k'⟩
    · exact Or.inl (String.lt_trans h k)
    · exact Or.inl (k ▸ h)
    · exact Or.inl (h ▸ k)
    · exact Or.inr ⟨h.trans k, String.lt_trans h' k'⟩
  eq_of_not_before {a b} h k := by
    simp only [Bool.or_eq_false_iff, Bool.and_eq_false_imp, decide_eq_false_iff_not,
      decide_eq_true_eq, String.not_lt] at *
    have hn : a.name = b.name := String.le_antisymm k.1 h.1
    have hd : a.desc = b.desc := String.le_antisymm (k.2 hn.symm) (h.2 hn)
    cases a; cases b; simp_all

structure GroupProgress where
  enqueued : Int64 := -1
  started : Int64 := -1
  completed : Int64 := -1
  deriving DecidableEq, Inhabited, Repr

/-- Identity of a progress. The recorder holds on to it and reads its current value. -/
structure StatusId where
  val : Nat
  deriving DecidableEq, Inhabited, Repr

end RankTrace
