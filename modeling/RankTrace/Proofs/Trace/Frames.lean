import RankTrace.Table
import RankTrace.Trace.Symbols

/-!
# Frames of a batch of stacks

While a batch is resolved, the shared table of frames only grows at its end, and every index that
was given out lies inside it.
-/

namespace RankTrace.Symbolized

structure Bounded (s : Symbolized) : Prop where
  resolved : ∀ row ∈ s.resolved, ∀ i ∈ row.2, i < s.frames.length
  traces : ∀ trace ∈ s.traces, ∀ i ∈ trace, i < s.frames.length

variable {σ : Type} {s : Symbolized}

theorem bounded_resolve (h : s.Bounded) (source : SymbolSource σ) (address : UInt64) (w : σ) :
    s.frames <+: (resolve source address s w).2.1.frames ∧
      (resolve source address s w).2.1.Bounded ∧
      ∀ i ∈ (resolve source address s w).1, i < (resolve source address s w).2.1.frames.length := by
  unfold resolve
  split
  · next indices hknown =>
    exact ⟨List.prefix_rfl, h, fun i hi => h.resolved _ (Table.mem_of_lookup hknown) i hi⟩
  · next hnew =>
    let frames := Frame.ofSymbols (source address w).1
    have hlength : (s.frames ++ frames).length = s.frames.length + frames.length :=
      List.length_append
    have hfresh : ∀ i ∈ List.range' s.frames.length frames.length,
        i < (s.frames ++ frames).length := by
      intro i hi
      have hrange := List.mem_range'_1.mp hi
      omega
    refine ⟨List.prefix_append _ _, ⟨?_, ?_⟩, hfresh⟩
    · intro row hrow i hi
      rcases List.mem_append.mp hrow with hold | hadded
      · have := h.resolved row hold i hi
        show i < (s.frames ++ frames).length
        omega
      · obtain rfl := List.mem_singleton.mp hadded
        exact hfresh i hi
    · intro trace htrace i hi
      have := h.traces trace htrace i hi
      show i < (s.frames ++ frames).length
      omega

theorem bounded_resolveStack (h : s.Bounded) (source : SymbolSource σ) (stack : List UInt64)
    (w : σ) :
    s.frames <+: (resolveStack source stack s w).2.1.frames ∧
      (resolveStack source stack s w).2.1.Bounded ∧
      ∀ i ∈ (resolveStack source stack s w).1,
        i < (resolveStack source stack s w).2.1.frames.length := by
  induction stack generalizing s w with
  | nil =>
    refine ⟨List.prefix_rfl, h, ?_⟩
    intro i hi
    cases hi
  | cons address rest ih =>
    obtain ⟨hfirst, hbounded, hindices⟩ := bounded_resolve h source address w
    obtain ⟨hmore, hbounded', hindices'⟩ := ih hbounded (resolve source address s w).2.2
    refine ⟨hfirst.trans hmore, hbounded', ?_⟩
    intro i hi
    rcases List.mem_append.mp hi with hi | hi
    · exact Nat.lt_of_lt_of_le (hindices i hi) hmore.length_le
    · exact hindices' i hi

theorem Bounded.addStack (h : s.Bounded) (source : SymbolSource σ) (stack : Option (List UInt64))
    (w : σ) : (addStack source stack s w).1.Bounded := by
  obtain ⟨_, hbounded, hindices⟩ := bounded_resolveStack h source (stack.getD []) w
  refine ⟨hbounded.resolved, ?_⟩
  intro trace htrace i hi
  rcases List.mem_append.mp htrace with hold | hnew
  · exact hbounded.traces trace hold i hi
  · obtain rfl := List.mem_singleton.mp hnew
    exact hindices i hi

theorem Bounded.addStacks (h : s.Bounded) (source : SymbolSource σ)
    (batch : List (Option (List UInt64))) (w : σ) : (addStacks source batch s w).1.Bounded := by
  induction batch generalizing s w with
  | nil => exact h
  | cons stack rest ih =>
    exact ih (h.addStack source stack w) (Symbolized.addStack source stack s w).2

theorem bounded_symbolize (resolver : Resolver) (batch : List (Option (List UInt64))) :
    (symbolize resolver batch).Bounded := by
  have hempty : ({} : Symbolized).Bounded := by
    constructor <;> simp
  exact hempty.addStacks resolver.source batch ()

theorem traces_resolve (source : SymbolSource σ) (address : UInt64) (s : Symbolized) (w : σ) :
    (resolve source address s w).2.1.traces = s.traces := by
  unfold resolve
  split <;> rfl

theorem traces_resolveStack (source : SymbolSource σ) (stack : List UInt64) (s : Symbolized)
    (w : σ) : (resolveStack source stack s w).2.1.traces = s.traces := by
  induction stack generalizing s w with
  | nil => rfl
  | cons address rest ih => exact (ih _ _).trans (traces_resolve source address s w)

theorem length_addStacks (source : SymbolSource σ) (batch : List (Option (List UInt64)))
    (s : Symbolized) (w : σ) :
    (addStacks source batch s w).1.traces.length = s.traces.length + batch.length := by
  induction batch generalizing s w with
  | nil => rfl
  | cons stack rest ih =>
    have hstack : (Symbolized.addStack source stack s w).1.traces.length = s.traces.length + 1 := by
      rw [Symbolized.addStack, List.length_append, traces_resolveStack, List.length_singleton]
    have hrest :=
      ih (Symbolized.addStack source stack s w).1 (Symbolized.addStack source stack s w).2
    rw [List.length_cons]
    exact hrest.trans (by omega)

theorem length_traces (resolver : Resolver) (batch : List (Option (List UInt64))) :
    (symbolize resolver batch).traces.length = batch.length :=
  (length_addStacks resolver.source batch {} ()).trans (Nat.zero_add _)

end RankTrace.Symbolized
