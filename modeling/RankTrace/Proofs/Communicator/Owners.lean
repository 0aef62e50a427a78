import RankTrace.Proofs.Communicator.Mirror
import RankTrace.Proofs.Communicator.Seats

/-!
# A process and the scripted library

Communicators of one process are made, used and dropped over one scripted library, in which any call
may be made to fail. Each has a handle of its own, and its table of segments is at all times that of
the library for the handle. The library draws a handle once, and an operation on one communicator
does not touch what is held for another.
-/

namespace RankTrace

namespace Scripted

inductive Control
  | version (code : Option Int32)
  | initPolls (polls : PollBudget)
  | abortPolls (polls : PollBudget)
  | initFailure (failure : Option Status)
  | abortResult (result : Status)
  | diagnostics (state : Diagnostics)
  | lastError (message : Option String)
  | inject (raw : RawHandle) (status : Status)
  | force (failures : ForcedFailures) (fails : failures.deregister ≠ some .success)

def control (s : Scripted) : Control → Scripted
  | .version code => { s with version := code }
  | .initPolls polls => { s with initPolls := polls }
  | .abortPolls polls => { s with abortPolls := polls }
  | .initFailure failure => { s with initFailure := failure }
  | .abortResult result => { s with abortResult := result }
  | .diagnostics state => { s with diagnostics := state }
  | .lastError message => { s with lastError := message }
  | .inject raw status => s.inject raw status
  | .force failures _ => { s with forced := failures }

end Scripted

namespace Fleet

open Communicator (Mirrored Makes)
open Scripted (Touches Allots Draws Allotted IsScripted)

/-- One operation of a process, or a change from outside. A child that is split off by an operation
of its parent gets no name and is lost. -/
inductive Event
  | draw
  | create (name : String) (settings : CommSettings) (worldSize rank : Int32) (id : UniqueId)
      (config : InitConfig)
  | join (name : String) (boot : Bootstrap) (settings : CommSettings) (rank : UInt64)
      (config : InitConfig)
  | split (parent child : String) (color key : Int32) (config : InitConfig)
  | use (name : String) (operation : CommOperation)
  | drop (name : String)
  | enroll (name : String)
  | collect
  | control (change : Scripted.Control)
  | moveClock (clock : Clock)

def act (lib : Library Scripted) (f : Fleet Scripted) : Event → Fleet Scripted
  | .draw => { f with host := (f.host.call lib .uniqueId).2 }
  | .create name settings worldSize rank id config =>
    (f.add lib name (Communicator.create lib settings worldSize rank id config)).2
  | .join name boot settings rank config => (f.add lib name (boot.join lib settings rank config)).2
  | .split parent child color key config =>
    ((f.split lib parent child color key config).map Prod.snd).getD f
  | .use name operation =>
    ((f.operate name fun c host => (.ok (), operation.apply lib c host)).map Prod.snd).getD f
  | .drop name => f.drop lib name
  | .enroll name => f.register name
  | .collect => (f.nativeDumps lib).2
  | .control change => { f with host := { f.host with library := f.host.library.control change } }
  | .moveClock clock => { f with host := { f.host with clock } }

def run (lib : Library Scripted) (f : Fleet Scripted) (events : List Event) : Fleet Scripted :=
  events.foldl (act lib) f

def drawn (lib : Library Scripted) (f : Fleet Scripted) : List Event → Nat
  | [] => 0
  | event :: rest =>
    ((f.act lib event).host.library.nextHandle - f.host.library.nextHandle).toNat +
      (f.act lib event).drawn lib rest

def start (registration : Bool) (clock : Clock) : Fleet Scripted where
  host := { library := { registration }, clock }

/-- Handles are distinct, go by key, and are below the counter, and every member agrees with the
library on its segments. -/
structure Agrees (handles : List RawHandle) (drawn : Nat) (f : Fleet Scripted) : Prop where
  keyed : f.Keyed
  count : handles.length = f.nextKey
  allotted : Allotted handles drawn f.host.library
  mirrored : ∀ row ∈ f.members, ∃ raw, handles[row.2.key]? = some raw ∧
    Mirrored raw row.2.comm f.host.library

def Continues (handles : List RawHandle) (drawn : Nat) (f : Fleet Scripted) : Prop :=
  ∃ handles' n, n < 2 ^ 64 ∧ handles <+: handles' ∧ Agrees handles' (drawn + n) f

section Agreement

variable {lib : Library Scripted} {f : Fleet Scripted} {handles : List RawHandle} {drawn n : Nat}
  {name : String} {m : Member} {raw : RawHandle} {c : Communicator} {host : Host Scripted}

theorem Agrees.handle_ne (h : Agrees handles drawn f) {row row' : String × Member}
    (hrow : row ∈ f.members) (hrow' : row' ∈ f.members) (hne : row.1 ≠ row'.1) {raw' : RawHandle}
    (hraw : handles[row.2.key]? = some raw) (hraw' : handles[row'.2.key]? = some raw') :
    raw ≠ raw' := by
  rintro rfl
  have hlength : row.2.key < handles.length := h.count ▸ h.keyed.bounded row hrow
  have hkey : row.2.key = row'.2.key :=
    (List.getElem?_inj hlength h.allotted.distinct).mp (hraw.trans hraw'.symm)
  exact hne (congrArg Prod.fst (h.keyed.keys row hrow row' hrow' hkey))

/-- The library changes, but not at the handles of members. -/
theorem Agrees.move (h : Agrees handles drawn f) (hdraws : Draws n f.host.library host.library)
    (hkept : ∀ row ∈ f.members, ∀ raw, handles[row.2.key]? = some raw →
      host.library.pointers? raw = f.host.library.pointers? raw) :
    Agrees handles (drawn + n) { f with host } where
  keyed := { h.keyed with }
  count := h.count
  allotted := h.allotted.draw hdraws
  mirrored := by
    intro row hrow
    obtain ⟨raw, hraw, hmirrored⟩ := h.mirrored row hrow
    exact ⟨raw, hraw, hmirrored.congr hmirrored.coherent rfl (hkept row hrow raw hraw)⟩

theorem Agrees.replace (h : Agrees handles drawn f) (hm : f.members.lookup name = some m)
    (hraw : handles[m.key]? = some raw) (hdraws : Draws n f.host.library host.library)
    (hkept : ∀ other ∈ handles, other ≠ raw →
      host.library.pointers? other = f.host.library.pointers? other)
    (hmirrored : Mirrored raw c host.library) :
    Agrees handles (drawn + n) ({ f with host }.update name c) where
  keyed := Keyed.update { h.keyed with }
  count := h.count
  allotted := h.allotted.draw hdraws
  mirrored := by
    intro row hrow
    have hmem : (name, m) ∈ f.members := Table.mem_of_lookup hm
    rcases mem_update hrow with ⟨m', hmem', rfl⟩ | ⟨hmem', hne⟩
    · cases h.keyed.names.eq_of_key_eq hmem hmem' rfl
      exact ⟨raw, hraw, hmirrored⟩
    · obtain ⟨other, hother, hold⟩ := h.mirrored row hmem'
      have hne : other ≠ raw := h.handle_ne hmem' hmem hne hother hraw
      have hsame := hkept other (List.mem_of_getElem? hother) hne
      exact ⟨other, hother, hold.congr hold.coherent rfl hsame⟩

theorem Agrees.continues (h : Agrees handles (drawn + n) f) (hn : n < 2 ^ 64) :
    Continues handles drawn f := ⟨handles, n, hn, List.prefix_rfl, h⟩

theorem Agrees.filter (h : Agrees handles drawn f) (keep : String × Member → Bool) :
    Agrees handles drawn { f with members := f.members.filter keep } :=
  { h with
    keyed := h.keyed.filter keep
    mirrored := fun row hrow => h.mirrored row (List.mem_filter.mp hrow).1 }

theorem Agrees.keep (h : Agrees handles drawn f) (hkeeps : f.host.library.Keeps host.library) :
    Agrees handles drawn { f with host } :=
  h.move hkeeps.draws fun _ _ raw _ => hkeeps.pointers raw

/-- A change at a handle of no member. -/
theorem Agrees.forsake (h : Agrees handles drawn f)
    (htouches : Touches raw f.host.library host.library)
    (hunused : ∀ row ∈ f.members, handles[row.2.key]? ≠ some raw) :
    Agrees handles drawn { f with host } := by
  refine h.move htouches.draws fun row hrow other hother => htouches.elsewhere other ?_
  rintro rfl
  exact hunused row hrow hother

theorem Agrees.drop (hlib : IsScripted lib) (h : Agrees handles drawn f) (name : String) :
    Agrees handles drawn (f.drop lib name) := by
  unfold Fleet.drop get?
  cases hm : f.members.lookup name with
  | none => exact h
  | some m =>
    have hmem : (name, m) ∈ f.members := Table.mem_of_lookup hm
    obtain ⟨raw, hraw, hmirrored⟩ := h.mirrored (name, m) hmem
    have htouches := Communicator.touches_drop hlib hmirrored.coherent f.host
    refine (h.filter (·.1 != name)).forsake htouches fun row hrow hother => ?_
    obtain ⟨hold, hne⟩ := List.mem_filter.mp hrow
    exact h.handle_ne hold hmem (by simpa using hne) hother hraw rfl

theorem Agrees.seat (h : Agrees handles drawn f)
    (hallotted : Allotted (handles ++ [raw]) drawn f.host.library)
    (hmirrored : Mirrored raw c f.host.library) :
    Agrees (handles ++ [raw]) drawn (f.seat name c) where
  keyed := h.keyed.seat
  count := by
    rw [List.length_append, h.count]
    rfl
  allotted := hallotted
  mirrored := by
    intro row hrow
    rcases h.keyed.mem_seat hrow with rfl | ⟨hmem, _⟩
    · refine ⟨raw, ?_, hmirrored⟩
      rw [← h.count, List.getElem?_concat_length]
    · obtain ⟨other, hother, hold⟩ := h.mirrored row hmem
      refine ⟨other, ?_, hold⟩
      rw [List.getElem?_append_left (h.count ▸ h.keyed.bounded row hmem), hother]

theorem Agrees.store (hlib : IsScripted lib) (h : Agrees handles drawn f)
    (hallotted : Allotted (handles ++ [raw]) drawn f.host.library)
    (hmirrored : Mirrored raw c f.host.library) (name : String) :
    Agrees (handles ++ [raw]) drawn (f.store lib name c) := by
  have hseat : Agrees (handles ++ [raw]) drawn (f.seat name c) := h.seat hallotted hmirrored
  -- The new communicator is there before the old one is dropped, so all that counts is that the old
  -- handle is nobody's any more.
  unfold Fleet.store get?
  cases hm : f.members.lookup name with
  | none => exact hseat
  | some m =>
    have hmem : (name, m) ∈ f.members := Table.mem_of_lookup hm
    obtain ⟨old, hold, hreplaced⟩ := h.mirrored (name, m) hmem
    have htouches := Communicator.touches_drop hlib hreplaced.coherent f.host
    refine hseat.forsake htouches fun row hrow hother => ?_
    rcases h.keyed.mem_seat hrow with rfl | ⟨hmem', hne⟩
    · rw [← h.count, List.getElem?_concat_length] at hother
      obtain ⟨_, _, hapart⟩ := List.nodup_append.mp hallotted.distinct
      exact hapart old (List.mem_of_getElem? hold) raw List.mem_cons_self
        (Option.some.inj hother).symm
    · rw [List.getElem?_append_left (h.count ▸ h.keyed.bounded row hmem')] at hother
      exact h.handle_ne hmem' hmem hne hother hold rfl

theorem mirrored_of_allots {s s' : Scripted} (hcoherent : c.Coherent raw)
    (hsegments : c.segments = []) (hallots : Allots raw s s') : Mirrored raw c s' where
  coherent := hcoherent
  held := ⟨[], hallots.empty, by simp [hsegments]⟩
  undone := by simp [hsegments]

theorem Agrees.add (hlib : IsScripted lib) (h : Agrees handles drawn f)
    (hdrawn : drawn < 2 ^ 64) (name : String)
    {make : Host Scripted → Except CommError Communicator × Host Scripted}
    (hmakes : Makes f.host.library (make f.host).2.library (make f.host).1) :
    Continues handles drawn (f.add lib name make).2 := by
  unfold Fleet.add
  rcases hmake : make f.host with ⟨_ | c, host⟩ <;> rw [hmake] at hmakes
  · exact Agrees.continues (n := 0) (h.keep hmakes) (by decide)
  · obtain ⟨raw, hcoherent, hsegments, hallots⟩ := hmakes
    have hmoved : Agrees handles (drawn + 16) { f with host } := by
      refine h.move hallots.draws fun _ _ other hother => hallots.elsewhere other ?_
      rintro rfl
      exact h.allotted.fresh hdrawn hallots (List.mem_of_getElem? hother)
    exact ⟨handles ++ [raw], 16, by decide, List.prefix_append _ _,
      hmoved.store hlib (h.allotted.allot hdrawn hallots)
        (mirrored_of_allots hcoherent hsegments hallots) name⟩

theorem Agrees.divide (h : Agrees handles drawn f) (hdrawn : drawn < 2 ^ 64)
    (hm : f.members.lookup name = some m) (hraw : handles[m.key]? = some raw)
    (hmirrored : Mirrored raw m.comm f.host.library) (hcoherent : c.Coherent raw)
    (hsegments : c.segments = m.comm.segments) {child : RawHandle}
    (hallots : Allots child f.host.library host.library) :
    Agrees handles (drawn + 16) ({ f with host }.update name c) := by
  have hne {other : RawHandle} (hother : other ∈ handles) : other ≠ child := by
    rintro rfl
    exact h.allotted.fresh hdrawn hallots hother
  refine h.replace hm hraw hallots.draws (fun other hother _ => ?_) ?_
  · exact hallots.elsewhere other (hne hother)
  · exact hmirrored.congr hcoherent hsegments
      (hallots.elsewhere raw (hne (List.mem_of_getElem? hraw)))

theorem operate_of_absent {α : Type} (hm : f.members.lookup name = none)
    (op : Communicator → Host Scripted → Outcome Scripted α) : f.operate name op = none := by
  rw [operate, get?, hm]
  rfl

theorem operate_of_present {α : Type} (hm : f.members.lookup name = some m)
    (op : Communicator → Host Scripted → Outcome Scripted α) :
    f.operate name op = some ((op m.comm f.host).1,
      { f with host := (op m.comm f.host).2.2 }.update name (op m.comm f.host).2.1) := by
  rw [operate, get?, hm]
  rfl

theorem Agrees.use (hlib : IsScripted lib) (h : Agrees handles drawn f) (hdrawn : drawn < 2 ^ 64)
    (name : String) (operation : CommOperation) :
    Continues handles drawn (f.act lib (.use name operation)) := by
  rw [act]
  cases hm : f.members.lookup name with
  | none =>
    rw [operate_of_absent hm]
    exact Agrees.continues (n := 0) h (by decide)
  | some m =>
    rw [operate_of_present hm]
    obtain ⟨raw, hraw, hmirrored⟩ := h.mirrored (name, m) (Table.mem_of_lookup hm)
    rcases hmirrored.apply hlib h.allotted.fails operation with
      ⟨hnow, htouches⟩ | ⟨child, hcoherent, hsegments, hallots⟩
    · have hsame := h.replace hm hraw htouches.draws
        (fun other _ hne => htouches.elsewhere other hne) hnow
      exact hsame.continues (by decide)
    · have hmoved := h.divide hdrawn hm hraw hmirrored hcoherent hsegments hallots
      exact hmoved.continues (by decide)

theorem Agrees.split (hlib : IsScripted lib) (h : Agrees handles drawn f)
    (hdrawn : drawn < 2 ^ 64) (parent child : String) (color key : Int32) (config : InitConfig) :
    Continues handles drawn (f.act lib (.split parent child color key config)) := by
  rw [act, Fleet.split]
  cases hm : f.members.lookup parent with
  | none =>
    rw [operate_of_absent hm]
    exact Agrees.continues (n := 0) h (by decide)
  | some m =>
    rw [operate_of_present hm]
    obtain ⟨raw, hraw, hmirrored⟩ := h.mirrored (parent, m) (Table.mem_of_lookup hm)
    obtain ⟨hcoherent, hsegments, hmakes⟩ :=
      Communicator.split_spec hlib hmirrored.coherent color key config f.host
    rcases hsplit : m.comm.split lib color key config f.host with ⟨_ | c, m', host⟩ <;>
      rw [hsplit] at hcoherent hsegments hmakes
    · have hkept := hmirrored.congr hcoherent hsegments (hmakes.pointers raw)
      have hsame := h.replace hm hraw hmakes.draws (fun other _ _ => hmakes.pointers other) hkept
      exact hsame.continues (by decide)
    · obtain ⟨raw', hfresh, hempty, hallots⟩ := hmakes
      have hmoved := h.divide hdrawn hm hraw hmirrored hcoherent hsegments hallots
      exact ⟨handles ++ [raw'], 16, by decide, List.prefix_append _ _,
        hmoved.store hlib (h.allotted.allot hdrawn hallots)
          (mirrored_of_allots hfresh hempty hallots) child⟩

theorem Agrees.control (h : Agrees handles drawn f) (lib : Library Scripted)
    (change : Scripted.Control) : Agrees handles drawn (f.act lib (.control change)) := by
  cases change with
  | inject raw status =>
    refine h.keep ?_
    show f.host.library.Keeps (f.host.library.inject raw status)
    unfold Scripted.inject
    split
    · next hc => exact Scripted.keeps_setComm hc rfl
    · exact .refl _
  | force failures fails =>
    exact h.move (n := 0) ⟨by simp [Scripted.control], fun _ => fails⟩ fun _ _ _ _ => rfl
  | version | initPolls | abortPolls | initFailure | abortResult | diagnostics | lastError =>
    exact h.keep ⟨fun _ => rfl, rfl, rfl⟩

/-- An operation draws new handles only, and preserves the agreement. -/
theorem Agrees.act (hlib : IsScripted lib) (h : Agrees handles drawn f)
    (hdrawn : drawn < 2 ^ 64) (event : Event) :
    Continues handles drawn (f.act lib event) := by
  have hidle {f' : Fleet Scripted} (h' : Agrees handles drawn f') : Continues handles drawn f' :=
    Agrees.continues (n := 0) h' (by decide)
  cases event with
  | draw =>
    have hcall : (f.host.call lib .uniqueId).2.library = f.host.library.drawUniqueId.2 :=
      congrArg Prod.snd (hlib.answer_eq (by simp) _)
    obtain ⟨hpointers, n, hn, hdraws⟩ := f.host.library.drawUniqueId_spec
    rw [← hcall] at hpointers hdraws
    exact (h.move hdraws fun _ _ raw _ => hpointers raw).continues hn
  | create name settings worldSize rank id config =>
    exact h.add hlib hdrawn name
      (Communicator.makes_create hlib settings worldSize rank id config f.host)
  | join name boot settings rank config =>
    exact h.add hlib hdrawn name (Communicator.makes_join hlib boot settings rank config f.host)
  | split parent child color key config =>
    exact h.split hlib hdrawn parent child color key config
  | use name operation => exact h.use hlib hdrawn name operation
  | drop name => exact hidle (h.drop hlib name)
  | enroll name =>
    refine hidle ?_
    show Agrees handles drawn (f.register name)
    unfold Fleet.register
    split
    · exact { h with keyed := { h.keyed with } }
    · exact h
  | collect =>
    have hsame := Registry.nativeDumps_same hlib.quiet f.find? f.registry f.host
    have hkeeps : f.host.library.Keeps (f.registry.nativeDumps lib f.find? f.host).2.library := by
      rw [hsame.library]
      exact .refl _
    exact hidle (h.keep hkeeps)
  | control change => exact hidle (h.control lib change)
  | moveClock clock => exact hidle (h.keep (.refl _))

theorem agrees_start (registration : Bool) (clock : Clock) :
    Agrees [] 0 (start registration clock) where
  keyed := ⟨List.Pairwise.nil, fun _ hrow => (List.not_mem_nil hrow).elim,
    fun _ hrow => (List.not_mem_nil hrow).elim⟩
  count := rfl
  allotted := by
    refine ⟨List.nodup_nil, fun _ hraw => (List.not_mem_nil hraw).elim, ?_, by simp [start]⟩
    show (0x1000 : UInt64) = Scripted.numberAt 0
    decide
  mirrored := fun _ hrow => (List.not_mem_nil hrow).elim

theorem Agrees.run (hlib : IsScripted lib) (h : Agrees handles drawn f) (events : List Event)
    (hdrawn : drawn + f.drawn lib events < 2 ^ 64) :
    ∃ all, all.Nodup ∧ handles <+: all ∧
      ∀ n, ∃ known drawn', known <+: all ∧ Agrees known drawn' (f.run lib (events.take n)) := by
  -- On the events from the front: the list of all handles is that of the rest of the run, of which
  -- what was known before is a prefix.
  induction events generalizing f handles drawn with
  | nil =>
    refine ⟨handles, h.allotted.distinct, List.prefix_rfl, fun n => ?_⟩
    rw [List.take_nil]
    exact ⟨handles, drawn, List.prefix_rfl, h⟩
  | cons event rest ih =>
    rw [Fleet.drawn] at hdrawn
    obtain ⟨handles', n, hn, hprefix, h'⟩ := h.act hlib (by omega) event
    rw [h.allotted.counted h'.allotted hn, ← Nat.add_assoc] at hdrawn
    obtain ⟨all, hnodup, hall, hrun⟩ := ih h' hdrawn
    refine ⟨all, hnodup, hprefix.trans hall, fun k => ?_⟩
    cases k with
    | zero => exact ⟨handles, drawn, hprefix.trans hall, h⟩
    | succ k => exact hrun k

theorem Keyed.nodup_keys (h : f.Keyed) : (f.members.map (·.2.key)).Nodup :=
  (List.Nodup.of_map Prod.fst h.names.nodup_keys).map_on h.keys

end Agreement

/-- All communicators of a process have distinct handles. After any number of events a member has
its handle iff it is not aborted, its table and the library hold the same pointers for the handle,
every segment handle leads back to its pointer, and an abort empties both. Failures may be injected
anywhere. The counter of handles must not wrap. -/
theorem segments_agree {lib : Library Scripted} (hlib : IsScripted lib) (registration : Bool)
    (clock : Clock) (events : List Event)
    (hdrawn : (start registration clock).drawn lib events < 2 ^ 64) :
    ∃ handles : List RawHandle, handles.Nodup ∧ ∀ n,
      let f := (start registration clock).run lib (events.take n)
      (f.members.map (·.2.key)).Nodup ∧
      ∀ row ∈ f.members, ∃ raw held, handles[row.2.key]? = some raw ∧
        row.2.comm.raw = (if row.2.comm.aborted then none else some raw) ∧
        f.host.library.comm? raw = some held ∧
        (∀ ptr, ptr ∈ held.segments.map Prod.fst ↔ ptr ∈ row.2.comm.segments.map Prod.fst) ∧
        (∀ segment ∈ row.2.comm.segments, segment.2.val ^^^ Scripted.segmentMask = segment.1) ∧
        (row.2.comm.aborted = true → row.2.comm.segments = [] ∧ held.segments = []) := by
  obtain ⟨handles, hnodup, _, hrun⟩ :=
    (agrees_start registration clock).run hlib events (by rwa [Nat.zero_add])
  refine ⟨handles, hnodup, fun n => ?_⟩
  obtain ⟨known, drawn, hknown, h⟩ := hrun n
  refine ⟨h.keyed.nodup_keys, fun row hrow => ?_⟩
  obtain ⟨raw, hraw, hcoherent, ⟨pointers, hpointers, hmem⟩, hundone⟩ := h.mirrored row hrow
  obtain ⟨held, hheld, rfl⟩ := Option.map_eq_some_iff.mp hpointers
  refine ⟨raw, held, ?_, hcoherent.handle, hheld, hmem, hundone, fun ha => ?_⟩
  · obtain ⟨rest, rfl⟩ := hknown
    rw [List.getElem?_append_left (List.getElem?_eq_some_iff.mp hraw).1, hraw]
  · have hnone := hcoherent.segments ha
    have hempty (ptr : UInt64) : ptr ∉ held.segments.map Prod.fst := by
      rw [hmem, hnone]
      exact List.not_mem_nil
    exact ⟨hnone, List.map_eq_nil_iff.mp (List.eq_nil_iff_forall_not_mem.mpr hempty)⟩

/-- Two communicators register one pointer; a release fails for the one and the abort for the
other. -/
def failingSession : List Event :=
  [.create "c" .blocking 1 0 (.ofNat 1) {}, .use "c" (.register 0x2000 64),
    .split "c" "d" 0 0 {}, .use "d" (.register 0x2000 64),
    .control (.force { deregister := some .systemError } (by decide)),
    .use "c" (.deregister 0x2000), .control (.abortResult .systemError), .use "d" (.abort none)]

theorem failingSession_agrees :
    let f := (start true ⟨0, 0⟩).run Scripted.library failingSession
    IsScripted Scripted.library ∧
    (start true ⟨0, 0⟩).drawn Scripted.library failingSession < 2 ^ 64 ∧
    (f.members.map fun row => (row.1, row.2.comm.raw, row.2.comm.segments)) =
      [("c", some ⟨0x1000⟩, [(0x2000, ⟨0x2000 ^^^ Scripted.segmentMask⟩)]), ("d", none, [])] ∧
    ∃ handles : List RawHandle, handles.Nodup ∧ ∀ row ∈ f.members, ∃ raw held,
      handles[row.2.key]? = some raw ∧ f.host.library.comm? raw = some held ∧
      ∀ ptr, ptr ∈ held.segments.map Prod.fst ↔ ptr ∈ row.2.comm.segments.map Prod.fst := by
  intro f
  have hdrawn : (start true ⟨0, 0⟩).drawn Scripted.library failingSession = 32 := by rfl
  have hbound : (start true ⟨0, 0⟩).drawn Scripted.library failingSession < 2 ^ 64 := by
    rw [hdrawn]
    decide
  refine ⟨Scripted.isScripted_library, hbound, by rfl, ?_⟩
  obtain ⟨handles, hnodup, hrun⟩ :=
    segments_agree Scripted.isScripted_library true ⟨0, 0⟩ failingSession hbound
  refine ⟨handles, hnodup, fun row hrow => ?_⟩
  obtain ⟨_, hrows⟩ := hrun failingSession.length
  rw [List.take_length] at hrows
  obtain ⟨raw, held, hraw, _, hheld, hpointers, _⟩ := hrows row hrow
  exact ⟨raw, held, hraw, hheld, hpointers⟩

end Fleet

end RankTrace
