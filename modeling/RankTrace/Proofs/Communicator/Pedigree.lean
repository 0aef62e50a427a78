import Mathlib.Data.List.Nodup
import RankTrace.Proofs.Communicator.Names

/-!
# Pedigrees

A list of communicators, in which every new one is a child of an earlier one and takes the count of
that one for its number. This alone makes their names distinct.
-/

namespace RankTrace

structure Branch where
  name : String
  splits : Nat := 0
  parent : Option Nat := none

namespace Branch

def origin (b : Branch) : String × Option Nat := (b.name, b.parent)

def counted (b : Branch) : Branch := { b with splits := b.splits + 1 }

def child (b : Branch) (k : Nat) : Branch where
  name := splitName b.name b.splits
  parent := some k

end Branch

namespace Pedigree

def childNames (k : Nat) (origins : List (String × Option Nat)) : List String :=
  (origins.filter fun origin => origin.2 = some k).map Prod.fst

/-- A pedigree grows at its end, by one child of one communicator that counts it. -/
inductive Grows (bs : List Branch) : List Branch → Prop
  | same : Grows bs bs
  | child (k : Nat) (b : Branch) (hb : bs[k]? = some b) :
      Grows bs (bs.set k b.counted ++ [b.child k])

/-- How names hang together in a pedigree with this first name. -/
structure Numbered (root : String) (bs : List Branch) : Prop where
  distinct : (bs.map (·.name)).Nodup
  begun : ∀ b ∈ bs, root.toList <+: b.name.toList
  named : ∀ b ∈ bs, b.name = root ∨ ∃ p ∈ bs, ∃ i < p.splits, b.name = splitName p.name i
  earlier : ∀ b ∈ bs, ∀ p, b.parent = some p → p < bs.length
  children : ∀ k b, bs[k]? = some b →
    childNames k (bs.map Branch.origin) = (List.range b.splits).map (splitName b.name)

variable {root : String} {bs bs' : List Branch} {b : Branch} {k : Nat}

theorem numbered_single (root : String) : Numbered root [{ name := root }] where
  distinct := List.nodup_singleton _
  begun := by
    intro b hb
    obtain rfl := List.mem_singleton.mp hb
    exact List.prefix_rfl
  named := by
    intro b hb
    obtain rfl := List.mem_singleton.mp hb
    exact .inl rfl
  earlier := by
    intro b hb p hp
    obtain rfl := List.mem_singleton.mp hb
    cases hp
  children := by
    intro k b hb
    cases k with
    | zero =>
      cases hb
      rfl
    | succ k => cases hb

theorem map_set_same {α β : Type} {f : α → β} {xs : List α} {x y : α} (hx : xs[k]? = some x)
    (h : f y = f x) : (xs.set k y).map f = xs.map f := by
  apply List.ext_getElem?
  intro j
  rw [List.getElem?_map, List.getElem?_map, List.getElem?_set']
  by_cases hj : k = j
  · subst hj
    rw [if_pos rfl, hx]
    exact congrArg some h
  · rw [if_neg hj]

theorem names_child (hb : bs[k]? = some b) : (bs.set k b.counted ++ [b.child k]).map (·.name) =
    bs.map (·.name) ++ [splitName b.name b.splits] := by
  have hkept : (bs.set k b.counted).map (·.name) = bs.map (·.name) := map_set_same hb rfl
  rw [List.map_append, hkept]
  rfl

theorem origins_child (hb : bs[k]? = some b) :
    (bs.set k b.counted ++ [b.child k]).map Branch.origin =
      bs.map Branch.origin ++ [(splitName b.name b.splits, some k)] := by
  have hkept : (bs.set k b.counted).map Branch.origin = bs.map Branch.origin := map_set_same hb rfl
  rw [List.map_append, hkept]
  rfl

/-- A member afterwards is the child of a member, or was a member before. -/
theorem mem_child (hb : bs[k]? = some b) {x : Branch}
    (hx : x ∈ bs.set k b.counted ++ [b.child k]) :
    x = b.child k ∨ ∃ y ∈ bs, y.name = x.name ∧ y.parent = x.parent := by
  rcases List.mem_append.mp hx with hold | hnew
  · rcases List.mem_or_eq_of_mem_set hold with hmem | rfl
    · exact .inr ⟨x, hmem, rfl, rfl⟩
    · exact .inr ⟨b, List.mem_of_getElem? hb, rfl, rfl⟩
  · exact .inl (List.mem_singleton.mp hnew)

theorem getElem_counted (hb : bs[k]? = some b) :
    (bs.set k b.counted)[k]? = some b.counted := by
  rw [List.getElem?_set_self', hb]
  rfl

/-- A member stays a member, and its count does not decrease. -/
theorem mem_counted (hb : bs[k]? = some b) {p : Branch} (hp : p ∈ bs) :
    ∃ p' ∈ bs.set k b.counted ++ [b.child k], p'.name = p.name ∧ p.splits ≤ p'.splits := by
  obtain ⟨j, hj⟩ := List.mem_iff_getElem?.mp hp
  by_cases hk : k = j
  · subst hk
    obtain rfl : b = p := Option.some.inj (hb.symm.trans hj)
    have hmem := List.mem_of_getElem? (getElem_counted hb)
    exact ⟨b.counted, List.mem_append_left _ hmem, rfl, Nat.le_succ _⟩
  · have hkept : (bs.set k b.counted)[j]? = some p := (List.getElem?_set_ne hk).trans hj
    exact ⟨p, List.mem_append_left _ (List.mem_of_getElem? hkept), rfl, Nat.le_refl _⟩

theorem childNames_append (j : Nat) (origins : List (String × Option Nat)) (name : String)
    (k : Nat) : childNames j (origins ++ [(name, some k)]) =
      childNames j origins ++ if k = j then [name] else [] := by
  rw [childNames, List.filter_append, List.map_append, ← childNames]
  by_cases hk : k = j <;> simp [hk]

namespace Numbered

/-- The name of a new child is new. -/
theorem fresh (h : Numbered root bs) (hroot : '/' ∉ root.toList) (hb : b ∈ bs) :
    splitName b.name b.splits ∉ bs.map (·.name) := by
  intro hmem
  obtain ⟨other, hother, hname⟩ := List.mem_map.mp hmem
  rcases h.named other hother with heq | ⟨p, hp, i, hi, heq⟩
  · apply hroot
    rw [← heq, hname]
    exact slash_mem_splitName b.name b.splits
  · -- the parents have one name, so they are one, and its count has not come to this number yet
    obtain ⟨hparents, rfl⟩ := splitName_inj (heq.symm.trans hname)
    obtain rfl : p = b := List.inj_on_of_nodup_map h.distinct hp hb hparents
    exact Nat.lt_irrefl _ hi

/-- No child comes from an index out of range. -/
theorem childless (h : Numbered root bs) : childNames bs.length (bs.map Branch.origin) = [] := by
  rw [childNames, List.map_eq_nil_iff, List.filter_eq_nil_iff]
  intro origin horigin
  obtain ⟨x, hx, rfl⟩ := List.mem_map.mp horigin
  rw [decide_eq_true_eq]
  intro hparent
  exact Nat.lt_irrefl _ (h.earlier x hx bs.length hparent)

theorem children_child (h : Numbered root bs) (hb : bs[k]? = some b) {j : Nat} {x : Branch}
    (hx : (bs.set k b.counted ++ [b.child k])[j]? = some x) :
    childNames j (bs.map Branch.origin ++ [(splitName b.name b.splits, some k)]) =
      (List.range x.splits).map (splitName x.name) := by
  have hk : k < bs.length := (List.getElem?_eq_some_iff.mp hb).1
  rw [childNames_append]
  by_cases hj : j < bs.length
  · rw [List.getElem?_append_left (by simpa using hj)] at hx
    by_cases hkj : k = j
    · subst hkj
      obtain rfl : b.counted = x := Option.some.inj ((getElem_counted hb).symm.trans hx)
      rw [if_pos rfl, h.children k b hb, Branch.counted, List.range_succ, List.map_append]
      rfl
    · rw [List.getElem?_set_ne hkj] at hx
      rw [if_neg hkj, List.append_nil]
      exact h.children j x hx
  · -- only the child stands behind the others, and it has no children yet
    rw [List.getElem?_append_right (by simpa using hj), List.length_set] at hx
    obtain ⟨hlast, hchild⟩ := List.getElem?_eq_some_iff.mp hx
    obtain rfl : j = bs.length := by
      rw [List.length_singleton] at hlast
      omega
    obtain rfl : b.child k = x := by simpa using hchild
    rw [if_neg (by omega), List.append_nil, h.childless]
    rfl

theorem child (h : Numbered root bs) (hroot : '/' ∉ root.toList) (hb : bs[k]? = some b) :
    Numbered root (bs.set k b.counted ++ [b.child k]) := by
  have hmem : b ∈ bs := List.mem_of_getElem? hb
  constructor
  case distinct =>
    rw [names_child hb, List.nodup_append]
    refine ⟨h.distinct, List.nodup_singleton _, ?_⟩
    rintro name hname new hnew rfl
    rw [List.mem_singleton.mp hnew] at hname
    exact h.fresh hroot hmem hname
  case begun =>
    intro x hx
    rcases mem_child hb hx with rfl | ⟨y, hy, hname, _⟩
    · exact (h.begun b hmem).trans (prefix_splitName b.name b.splits)
    · rw [← hname]
      exact h.begun y hy
  case named =>
    intro x hx
    rcases mem_child hb hx with rfl | ⟨y, hy, hname, _⟩
    · have hcounted : b.counted ∈ bs.set k b.counted ++ [b.child k] :=
        List.mem_append_left _ (List.mem_of_getElem? (getElem_counted hb))
      exact .inr ⟨b.counted, hcounted, b.splits, Nat.lt_succ_self b.splits, rfl⟩
    · rw [← hname]
      refine (h.named y hy).imp_right ?_
      rintro ⟨p, hp, i, hi, heq⟩
      obtain ⟨p', hp', hsame, hmore⟩ := mem_counted hb hp
      exact ⟨p', hp', i, Nat.lt_of_lt_of_le hi hmore, by rw [heq, hsame]⟩
  case earlier =>
    intro x hx p hp
    rw [List.length_append, List.length_set, List.length_singleton]
    rcases mem_child hb hx with rfl | ⟨y, hy, _, hparent⟩
    · obtain rfl := Option.some.inj hp
      have := (List.getElem?_eq_some_iff.mp hb).1
      omega
    · have := h.earlier y hy p (hparent.trans hp)
      omega
  case children =>
    intro j x hx
    rw [origins_child hb]
    exact h.children_child hb hx

theorem grow (h : Numbered root bs) (hroot : '/' ∉ root.toList) (hgrows : Grows bs bs') :
    Numbered root bs' := by
  cases hgrows with
  | same => exact h
  | child k b hb => exact h.child hroot hb

end Numbered

end Pedigree

end RankTrace
