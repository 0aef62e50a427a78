import Mathlib.Data.List.Forall2
import Mathlib.Data.List.Induction
import RankTrace.Proofs.Trace.Frames

/-!
# Batches of stacks

Resolving a batch is the same as resolving each address of each stack by itself. The resolver is
called about an address at its first appearance only, and the shared table has its answers in this
order and nothing else.

The proof goes by the list of the addresses met so far. The table of frames and the known indices
are functions of it, and so is the state that the calls of the resolver leave.
-/

namespace RankTrace

namespace Resolver

/-- The frames of an address by itself. An address of which nothing is known has an unknown one. -/
def frames (resolver : Resolver) (address : UInt64) : List Frame :=
  if resolver address = [] then [⟨"??", "??", 0⟩]
  else (resolver address).map fun s => ⟨s.name.getD "??", s.file.getD "??", s.line.getD 0⟩

def noting {σ : Type} (resolver : Resolver) (note : UInt64 → σ → σ) : SymbolSource σ :=
  fun address w => (resolver address, note address w)

theorem ofSymbols_eq (resolver : Resolver) (address : UInt64) :
    Frame.ofSymbols (resolver address) = resolver.frames address := by
  unfold frames Frame.ofSymbols
  cases resolver address <;> rfl

end Resolver

namespace Symbolized

theorem eraseDups_snoc (met : List UInt64) (address : UInt64) :
    (met ++ [address]).eraseDups =
      if address ∈ met then met.eraseDups else met.eraseDups ++ [address] := by
  rw [List.eraseDups_append]
  by_cases hmet : address ∈ met
  · simp [List.removeAll, hmet]
  · simp [List.removeAll, hmet, List.eraseDups_cons]

theorem nodup_eraseDups (met : List UInt64) : met.eraseDups.Nodup := by
  induction met using List.reverseRecOn with
  | nil => exact List.nodup_nil
  | append_singleton met address ih =>
    rw [eraseDups_snoc]
    by_cases hmet : address ∈ met
    · rwa [if_pos hmet]
    · rw [if_neg hmet]
      apply List.nodup_append.mpr
      refine ⟨ih, List.pairwise_singleton _ address, ?_⟩
      rintro known hknown added hadded rfl
      rw [List.mem_singleton.mp hadded] at hknown
      exact hmet (List.mem_eraseDups.mp hknown)

/-- Looked up in the table, the indices give these frames. -/
def Shows (table : List Frame) (indices : List Nat) (frames : List Frame) : Prop :=
  indices.map (table[·]?) = frames.map some

section Shows

variable {table more : List Frame} {indices indices' : List Nat} {frames frames' : List Frame}

theorem Shows.some_of_mem (h : Shows table indices frames) {i : Nat} (hi : i ∈ indices) :
    ∃ f, table[i]? = some f := by
  have hmem : table[i]? ∈ frames.map some := by
    rw [← h]
    exact List.mem_map_of_mem hi
  obtain ⟨f, _, hf⟩ := List.mem_map.mp hmem
  exact ⟨f, hf.symm⟩

theorem Shows.lt_length (h : Shows table indices frames) : ∀ i ∈ indices, i < table.length := by
  intro i hi
  obtain ⟨f, hf⟩ := h.some_of_mem hi
  exact (List.getElem?_eq_some_iff.mp hf).1

theorem Shows.grow (h : Shows table indices frames) (more : List Frame) :
    Shows (table ++ more) indices frames := by
  have hsame : indices.map ((table ++ more)[·]?) = indices.map (table[·]?) := by
    apply List.map_congr_left
    intro i hi
    exact List.getElem?_append_left (h.lt_length i hi)
  exact hsame.trans h

theorem Shows.append (h : Shows table indices frames) (h' : Shows table indices' frames') :
    Shows table (indices ++ indices') (frames ++ frames') := by
  unfold Shows
  rw [List.map_append, List.map_append, h, h']

theorem shows_added (table frames : List Frame) :
    Shows (table ++ frames) (List.range' table.length frames.length) frames := by
  unfold Shows
  apply List.ext_getElem?
  intro k
  by_cases hk : k < frames.length
  · simp [hk]
  · simp [hk]

end Shows

variable {σ : Type} {resolver : Resolver} {note : UInt64 → σ → σ} {w₀ w : σ}
  {met : List UInt64} {s : Symbolized}

def noted (note : UInt64 → σ → σ) (addresses : List UInt64) (w : σ) : σ :=
  addresses.foldl (fun w address => note address w) w

/-- The addresses met so far are known, each was asked about once, and the table shows what was
said. -/
structure Covers (resolver : Resolver) (note : UInt64 → σ → σ) (w₀ : σ) (met : List UInt64)
    (s : Symbolized) (w : σ) : Prop where
  known : s.resolved.map Prod.fst = met.eraseDups
  frames : s.frames = met.eraseDups.flatMap resolver.frames
  shown : ∀ row ∈ s.resolved, Shows s.frames row.2 (resolver.frames row.1)
  asked : w = noted note met.eraseDups w₀

theorem covers_empty : Covers resolver note w [] {} w where
  known := rfl
  frames := rfl
  shown := fun row hrow => by cases hrow
  asked := rfl

/-- More addresses extend the table at its end. -/
theorem Covers.frames_append (h : Covers resolver note w₀ met s w) {more : List UInt64}
    {s' : Symbolized} {w' : σ} (h' : Covers resolver note w₀ (met ++ more) s' w') :
    ∃ added, s'.frames = s.frames ++ added := by
  rw [h'.frames, h.frames, List.eraseDups_append, List.flatMap_append]
  exact ⟨_, rfl⟩

theorem Covers.resolve_known (h : Covers resolver note w₀ met s w) {address : UInt64}
    {indices : List Nat} (hlookup : s.resolved.lookup address = some indices) :
    Covers resolver note w₀ (met ++ [address]) s w ∧
      Shows s.frames indices (resolver.frames address) := by
  have hrow := Table.mem_of_lookup hlookup
  have hmet : address ∈ met := by
    rw [← List.mem_eraseDups, ← h.known]
    exact List.mem_map_of_mem hrow
  have hsame : (met ++ [address]).eraseDups = met.eraseDups := by
    rw [eraseDups_snoc, if_pos hmet]
  refine ⟨⟨?_, ?_, h.shown, ?_⟩, h.shown _ hrow⟩
  · rw [hsame, h.known]
  · rw [hsame, h.frames]
  · rw [hsame, h.asked]

theorem Covers.resolve_new (h : Covers resolver note w₀ met s w) {address : UInt64}
    (hlookup : s.resolved.lookup address = none) :
    let frames := resolver.frames address
    let indices := List.range' s.frames.length frames.length
    Covers resolver note w₀ (met ++ [address])
      { s with
        frames := s.frames ++ frames
        resolved := s.resolved ++ [(address, indices)] } (note address w) ∧
      Shows (s.frames ++ frames) indices frames := by
  intro frames indices
  have hmet : address ∉ met := by
    rw [← List.mem_eraseDups, ← h.known]
    intro hknown
    obtain ⟨row, hrow, hkey⟩ := List.mem_map.mp hknown
    have hne := List.lookup_eq_none_iff.mp hlookup row hrow
    simp [hkey] at hne
  have hlater : (met ++ [address]).eraseDups = met.eraseDups ++ [address] := by
    rw [eraseDups_snoc, if_neg hmet]
  refine ⟨⟨?_, ?_, ?_, ?_⟩, shows_added s.frames frames⟩
  · rw [hlater, ← h.known, List.map_append]
    rfl
  · rw [hlater, List.flatMap_append, ← h.frames, List.flatMap_singleton]
  · intro row hrow
    rcases List.mem_append.mp hrow with hold | hadded
    · exact (h.shown row hold).grow frames
    · obtain rfl := List.mem_singleton.mp hadded
      exact shows_added s.frames frames
  · rw [hlater, noted, List.foldl_append, h.asked]
    rfl

theorem Covers.resolve (h : Covers resolver note w₀ met s w) (address : UInt64) :
    let (indices, s', w') := resolve (resolver.noting note) address s w
    Covers resolver note w₀ (met ++ [address]) s' w' ∧ s'.traces = s.traces ∧
      Shows s'.frames indices (resolver.frames address) := by
  unfold Symbolized.resolve
  cases hlookup : s.resolved.lookup address with
  | some indices =>
    obtain ⟨hcovers, hshows⟩ := h.resolve_known hlookup
    exact ⟨hcovers, rfl, hshows⟩
  | none =>
    obtain ⟨hcovers, hshows⟩ := h.resolve_new hlookup
    simp only [Resolver.noting, resolver.ofSymbols_eq]
    exact ⟨hcovers, trivial, hshows⟩

theorem Covers.resolveStack (h : Covers resolver note w₀ met s w) (stack : List UInt64) :
    let (indices, s', w') := resolveStack (resolver.noting note) stack s w
    Covers resolver note w₀ (met ++ stack) s' w' ∧ s'.traces = s.traces ∧
      Shows s'.frames indices (stack.flatMap resolver.frames) := by
  induction stack generalizing met s w with
  | nil =>
    rw [List.append_nil]
    exact ⟨h, rfl, rfl⟩
  | cons address rest ih =>
    rcases hfirst : Symbolized.resolve (resolver.noting note) address s w with ⟨indices, s₁, w₁⟩
    have hresolved := h.resolve address
    rw [hfirst] at hresolved
    obtain ⟨hcovers, htraces, hshows⟩ := hresolved
    rcases hrest : Symbolized.resolveStack (resolver.noting note) rest s₁ w₁ with ⟨more, s₂, w₂⟩
    have hstack := ih hcovers
    rw [hrest] at hstack
    obtain ⟨hcovers', htraces', hshows'⟩ := hstack
    obtain ⟨added, hadded⟩ := hcovers.frames_append hcovers'
    simp only [Symbolized.resolveStack, hfirst, hrest]
    rw [List.append_assoc] at hcovers'
    refine ⟨hcovers', htraces'.trans htraces, ?_⟩
    rw [hadded] at hshows' ⊢
    exact (hshows.grow added).append hshows'

def Shown (resolver : Resolver) (s : Symbolized) (batch : List (Option (List UInt64))) : Prop :=
  List.Forall₂ (fun trace stack => Shows s.frames trace ((stack.getD []).flatMap resolver.frames))
    s.traces batch

theorem Covers.addStack (h : Covers resolver note w₀ met s w)
    {batch : List (Option (List UInt64))} (hshown : Shown resolver s batch)
    (stack : Option (List UInt64)) :
    let (s', w') := addStack (resolver.noting note) stack s w
    Covers resolver note w₀ (met ++ stack.getD []) s' w' ∧
      Shown resolver s' (batch ++ [stack]) := by
  rcases hresolved : Symbolized.resolveStack (resolver.noting note) (stack.getD []) s w with
    ⟨indices, s', w'⟩
  have hstack := h.resolveStack (stack.getD [])
  rw [hresolved] at hstack
  obtain ⟨hcovers, htraces, hshows⟩ := hstack
  obtain ⟨added, hadded⟩ := h.frames_append hcovers
  simp only [Symbolized.addStack, hresolved]
  refine ⟨⟨hcovers.known, hcovers.frames, hcovers.shown, hcovers.asked⟩, ?_⟩
  have hold : Shown resolver s' batch := by
    unfold Shown
    rw [htraces, hadded]
    exact hshown.imp fun trace stack htrace => htrace.grow added
  exact List.rel_append hold (.cons hshows .nil)

theorem Covers.addStacks (h : Covers resolver note w₀ met s w)
    {batch : List (Option (List UInt64))} (hshown : Shown resolver s batch)
    (more : List (Option (List UInt64))) :
    let (s', w') := addStacks (resolver.noting note) more s w
    Covers resolver note w₀ (met ++ more.flatMap (·.getD [])) s' w' ∧
      Shown resolver s' (batch ++ more) := by
  induction more generalizing met batch s w with
  | nil =>
    rw [List.flatMap_nil, List.append_nil, List.append_nil]
    exact ⟨h, hshown⟩
  | cons stack rest ih =>
    rcases hfirst : Symbolized.addStack (resolver.noting note) stack s w with ⟨s₁, w₁⟩
    have hstack := h.addStack hshown stack
    rw [hfirst] at hstack
    have hrest := ih hstack.1 hstack.2
    simp only [Symbolized.addStacks, hfirst]
    rw [List.append_assoc, List.append_assoc] at hrest
    exact hrest

section Erasure

/-! Whether the calls of a resolver are noted makes no difference to the batch. -/

variable {τ : Type} {source : SymbolSource σ} {source' : SymbolSource τ}
  (halike : ∀ address w v, (source address w).1 = (source' address v).1)
include halike

theorem resolve_alike (address : UInt64) (s : Symbolized) (w : σ) (v : τ) :
    (resolve source address s w).1 = (resolve source' address s v).1 ∧
      (resolve source address s w).2.1 = (resolve source' address s v).2.1 := by
  unfold resolve
  cases s.resolved.lookup address with
  | some indices => exact ⟨rfl, rfl⟩
  | none =>
    simp only [halike address w v]
    exact ⟨trivial, trivial⟩

theorem resolveStack_alike (stack : List UInt64) (s : Symbolized) (w : σ) (v : τ) :
    (resolveStack source stack s w).1 = (resolveStack source' stack s v).1 ∧
      (resolveStack source stack s w).2.1 = (resolveStack source' stack s v).2.1 := by
  induction stack generalizing s w v with
  | nil => exact ⟨rfl, rfl⟩
  | cons address rest ih =>
    obtain ⟨hindices, hstate⟩ := resolve_alike halike address s w v
    obtain ⟨hmore, hlast⟩ := ih (resolve source address s w).2.1
      (resolve source address s w).2.2 (resolve source' address s v).2.2
    rw [hstate] at hmore hlast
    simp only [resolveStack, hindices, hstate]
    exact ⟨congrArg _ hmore, hlast⟩

theorem addStacks_alike (batch : List (Option (List UInt64))) (s : Symbolized) (w : σ) (v : τ) :
    (addStacks source batch s w).1 = (addStacks source' batch s v).1 := by
  induction batch generalizing s w v with
  | nil => rfl
  | cons stack rest ih =>
    obtain ⟨hindices, hstate⟩ := resolveStack_alike halike (stack.getD []) s w v
    have hstack : (addStack source stack s w).1 = (addStack source' stack s v).1 := by
      simp only [addStack, hindices, hstate]
    simp only [addStacks]
    rw [hstack]
    exact ih _ _ _

end Erasure

/-- A batch has a list of indices for every stack, in order, which resolve to the frames of its
addresses; a missing stack has none. Every index is inside the table, which has the frames of all
addresses in the order of their first appearance. The resolver is called once for each address, in
this order, and its state afterwards is that of these calls. -/
theorem symbolize_addresses (resolver : Resolver) (batch : List (Option (List UInt64)))
    (note : UInt64 → σ → σ) (w : σ) :
    let asked := (batch.flatMap (·.getD [])).eraseDups
    let result := symbolize resolver batch
    List.Forall₂ (fun trace stack => trace.map (result.frames[·]?) =
      ((stack.getD []).flatMap resolver.frames).map some) result.traces batch ∧
    (∀ trace ∈ result.traces, ∀ i ∈ trace, i < result.frames.length) ∧
    result.frames = asked.flatMap resolver.frames ∧
    addStacks (resolver.noting note) batch {} w =
      (result, asked.foldl (fun w address => note address w) w) ∧
    asked.Nodup ∧
    ∀ address, address ∈ asked ↔ ∃ stack, some stack ∈ batch ∧ address ∈ stack := by
  intro asked result
  rcases hrun : addStacks (resolver.noting note) batch {} w with ⟨s', w'⟩
  have hstart : Covers resolver note w [] {} w := covers_empty
  have hnone : Shown resolver {} [] := .nil
  have hbatch := hstart.addStacks hnone batch
  rw [hrun] at hbatch
  obtain ⟨hcovers, hshown⟩ := hbatch
  have hresult : s' = result := by
    have halike : (addStacks (resolver.noting note) batch {} w).1 =
        (addStacks resolver.source batch {} ()).1 := by
      apply addStacks_alike
      intro address w v
      rfl
    rwa [hrun] at halike
  subst hresult
  refine ⟨hshown, ?_, hcovers.frames, ?_, nodup_eraseDups _, ?_⟩
  · exact (bounded_symbolize resolver batch).traces
  · rw [hcovers.asked]
    rfl
  · intro address
    rw [List.mem_eraseDups, List.mem_flatMap]
    constructor
    · rintro ⟨stack, hstack, haddress⟩
      cases stack with
      | none => cases haddress
      | some stack => exact ⟨stack, hstack, haddress⟩
    · rintro ⟨stack, hstack, haddress⟩
      exact ⟨some stack, hstack, haddress⟩

/-- Three and two come up again, and nobody is asked about them again. -/
example : (addStacks (Resolver.noting (fun _ => []) fun address asked => asked ++ [address])
    [some [1, 2, 3], none, some [3, 2]] {} []).2 = [1, 2, 3] := rfl

end Symbolized

end RankTrace
