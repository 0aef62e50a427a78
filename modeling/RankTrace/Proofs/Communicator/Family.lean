import RankTrace.Native.Scripted
import RankTrace.Proofs.Communicator.Effects
import RankTrace.Proofs.Communicator.Pedigree
import RankTrace.Proofs.Communicator.Users

/-!
# Families of communicators

All communicators that splits grow from one that was created. Users of any of them may be in the
midst of operations, so that what happens at one place happens between two locked steps at another
one. Nothing but a split that succeeds adds to the count of a communicator, and it adds one child
that has this count for its number.
-/

namespace RankTrace

namespace Communicator

variable {σ : Type}

def label (c : Communicator) : String × Nat := (c.commId, c.splits)

theorem label_pollInit (lib : Library σ) (elapsed : Duration) (c : Communicator) (host : Host σ) :
    (c.pollInit lib elapsed host).2.1.label = c.label := by
  obtain ⟨_, _, heq⟩ := c.pollInit_eq lib elapsed host
  rw [heq]
  rfl

theorem label_waitFrom (lib : Library σ) (limit elapsed : Duration) (c : Communicator)
    (host : Host σ) : (c.waitFrom lib limit elapsed host).2.1.label = c.label := by
  have hpoll := label_pollInit lib elapsed c host
  fun_induction Communicator.waitFrom lib limit elapsed c host with
  | case1 elapsed c host result c' host' hp =>
    rw [hp] at hpoll
    exact hpoll
  | case2 elapsed c host c' host' hp hlimit =>
    rw [hp] at hpoll
    exact hpoll
  | case3 elapsed c host c' host' hp hlimit rest ih =>
    rw [hp] at hpoll
    exact (ih (label_pollInit lib _ c' _)).trans hpoll

theorem label_nativeHandle (lib : Library σ) (c : Communicator) (host : Host σ) :
    (c.nativeHandle lib host).2.1.label = c.label := by
  unfold nativeHandle
  split
  · rfl
  · rfl
  · have hwait := label_waitFrom lib c.settings.initTimeout .zero c host
    split <;> next hw =>
      rw [← wait, hw] at hwait
      exact hwait

theorem label_checkForError (lib : Library σ) (c : Communicator) (host : Host σ) :
    (c.checkForError lib host).2.1.label = c.label := by
  obtain ⟨_, heq⟩ := c.checkForError_eq lib host
  rw [heq]
  rfl

theorem label_abort (lib : Library σ) (reason : Option String) (c : Communicator) (host : Host σ) :
    (c.abort lib reason host).2.1.label = c.label := by
  unfold abort
  split
  · rfl
  · split <;> rfl

theorem label_register (lib : Library σ) (ptr size : UInt64) (c : Communicator) (host : Host σ) :
    (c.register lib ptr size host).2.1.label = c.label := by
  unfold register
  split
  · rfl
  · split
    · rfl
    · split
      · rfl
      · dsimp only
        split <;> rfl

theorem label_deregister (lib : Library σ) (ptr : UInt64) (c : Communicator) (host : Host σ) :
    (c.deregister lib ptr host).2.1.label = c.label := by
  unfold deregister
  split
  · rfl
  · split
    · rfl
    · split
      · rfl
      · dsimp only
        split <;> rfl

theorem label_drop (lib : Library σ) (c : Communicator) (host : Host σ) :
    (c.drop lib host).1.label = c.label := by
  unfold drop
  split
  · rfl
  · split
    · rfl
    · dsimp only
      split <;> rfl

/-- The effect of a step on a communicator, and its child if there is one. -/
inductive Bears (c : Communicator) : Communicator → Option Communicator → Prop
  | nobody {c' : Communicator} (same : c'.label = c.label) : Bears c c' none
  | child {c' child : Communicator} (name : c'.commId = c.commId)
      (counted : c'.splits = c.splits + 1) (named : child.commId = splitName c.commId c.splits)
      (childless : child.splits = 0) : Bears c c' (some child)

theorem bears_adopt (c : Communicator) (color key : Int32) (raw : RawHandle) (host : Host σ) :
    Bears c (c.adopt color key raw host).2.1 (some (c.adopt color key raw host).1) :=
  .child rfl rfl rfl rfl

/-- A failing split changes neither the name nor the count. -/
theorem bears_split (lib : Library σ) (color key : Int32) (config : InitConfig) (c : Communicator)
    (host : Host σ) :
    Bears c (c.split lib color key config host).2.1
      (c.split lib color key config host).1.toOption := by
  have hhandle := label_nativeHandle lib c host
  unfold split
  split
  · next e c' host' hfailed =>
    rw [hfailed] at hhandle
    exact .nobody hhandle
  · next raw c' host' hready =>
    rw [hready] at hhandle
    obtain ⟨hname, hcount⟩ := Prod.mk.inj hhandle
    split
    · exact .nobody hhandle
    · refine .child hname ?_ ?_ rfl
      · show c'.splits + 1 = c.splits + 1
        rw [hcount]
      · show splitName c'.commId c'.splits = splitName c.commId c.splits
        rw [hname, hcount]

end Communicator

open Communicator (Bears)

namespace CommOperation

variable {σ : Type}

def offspring? (lib : Library σ) (c : Communicator) (host : Host σ) :
    CommOperation → Option Communicator
  | split color key config => (c.split lib color key config host).1.toOption
  | _ => none

theorem bears_apply (lib : Library σ) (c : Communicator) (host : Host σ)
    (operation : CommOperation) :
    Bears c (operation.apply lib c host).1 (operation.offspring? lib c host) := by
  cases operation with
  | wait limit => exact .nobody (Communicator.label_waitFrom lib limit .zero c host)
  | handle => exact .nobody (Communicator.label_nativeHandle lib c host)
  | split color key config => exact Communicator.bears_split lib color key config c host
  | abort reason => exact .nobody (Communicator.label_abort lib reason c host)
  | check => exact .nobody (Communicator.label_checkForError lib c host)
  | register ptr size => exact .nobody (Communicator.label_register lib ptr size c host)
  | deregister ptr => exact .nobody (Communicator.label_deregister lib ptr c host)
  | dump | explain reason => exact .nobody rfl

end CommOperation

namespace SharedCommunicator

variable {σ : Type}

def offspring? (s : SharedCommunicator σ) : CommEvent σ → Option Communicator
  | .adopt k =>
    match s.users[k]? with
    | some ⟨.child color key _, .born raw⟩ => some (s.comm.adopt color key raw s.host).1
    | _ => none
  | _ => none

theorem bears_step (lib : Library σ) (s : SharedCommunicator σ) (event : CommEvent σ) :
    Bears s.comm (s.step lib event).comm (s.offspring? event) := by
  cases event with
  | poll k elapsed =>
    have hpoll := Communicator.label_pollInit lib elapsed s.comm s.host
    refine .nobody ?_
    rw [step, poll]
    split
    · split <;> next hp =>
        rw [hp] at hpoll
        exact hpoll
    · rfl
  | adopt k =>
    rw [step, adopt, offspring?]
    rcases s.users[k]? with _ | ⟨goal, stage⟩
    · exact .nobody rfl
    · cases goal with
      | child color key config =>
        cases stage with
        | born raw => exact Communicator.bears_adopt s.comm color key raw s.host
        | waiting | waited | holding | adopted | failed => exact .nobody rfl
      | initialized | handle => exact .nobody rfl
  | giveUp k elapsed limit =>
    refine .nobody ?_
    rw [step, giveUp]
    split <;> rfl
  | look k =>
    refine .nobody ?_
    rw [step, look]
    split <;> rfl
  | divide k =>
    refine .nobody ?_
    rw [step, divide]
    split <;> rfl
  | abort reason => exact .nobody (Communicator.label_abort lib reason s.comm s.host)
  | check => exact .nobody (Communicator.label_checkForError lib s.comm s.host)
  | register ptr size => exact .nobody (Communicator.label_register lib ptr size s.comm s.host)
  | deregister ptr => exact .nobody (Communicator.label_deregister lib ptr s.comm s.host)
  | enter | dump | explain | moveLibrary | moveClock => exact .nobody rfl

end SharedCommunicator

/-- A communicator of a family, with the users that are inside operations on it. -/
structure Kin where
  comm : Communicator
  users : List CommUser := []
  parent : Option Nat := none

def Kin.branch (kin : Kin) : Branch := ⟨kin.comm.commId, kin.comm.splits, kin.parent⟩

structure Family (σ : Type) where
  host : Host σ
  members : List Kin

/-- What happens at one place of a family. -/
inductive FamilyEvent (σ : Type)
  | operate (k : Nat) (operation : CommOperation)
  | step (k : Nat) (event : CommEvent σ)
  | drop (k : Nat)

namespace Family

variable {σ : Type}

def start (c : Communicator) (host : Host σ) : Family σ where
  host := host
  members := [{ comm := c }]

def settle (f : Family σ) (k : Nat) (kin : Kin) (host : Host σ) (child : Option Communicator) :
    Family σ where
  host := host
  members := f.members.set k kin ++ (child.map fun c => { comm := c, parent := some k }).toList

def act (lib : Library σ) (f : Family σ) : FamilyEvent σ → Family σ
  | .operate k operation =>
    match f.members[k]? with
    | none => f
    | some kin =>
      let after := operation.apply lib kin.comm f.host
      f.settle k { kin with comm := after.1 } after.2 (operation.offspring? lib kin.comm f.host)
  | .step k event =>
    match f.members[k]? with
    | none => f
    | some kin =>
      let shared : SharedCommunicator σ := ⟨kin.comm, f.host, kin.users⟩
      let after := shared.step lib event
      f.settle k { kin with comm := after.comm, users := after.users } after.host
        (shared.offspring? event)
  | .drop k =>
    match f.members[k]? with
    | none => f
    | some kin =>
      let after := kin.comm.drop lib f.host
      f.settle k { kin with comm := after.1 } after.2 none

def run (lib : Library σ) (f : Family σ) (events : List (FamilyEvent σ)) : Family σ :=
  events.foldl (act lib) f

def commIds (f : Family σ) : List String := f.members.map (·.comm.commId)

def childIds (f : Family σ) (k : Nat) : List String :=
  (f.members.filter fun kin => kin.parent = some k).map (·.comm.commId)

def pedigree (f : Family σ) : List Branch := f.members.map Kin.branch

variable {lib : Library σ} {f : Family σ} {kin : Kin} {k : Nat}

theorem names_pedigree (f : Family σ) : f.pedigree.map (·.name) = f.commIds := by
  rw [pedigree, List.map_map]
  rfl

theorem childNames_pedigree (f : Family σ) (k : Nat) :
    Pedigree.childNames k (f.pedigree.map Branch.origin) = f.childIds k := by
  rw [pedigree, List.map_map, Pedigree.childNames, List.filter_map, List.map_map]
  rfl

theorem grows_settle (kin' : Kin) (host : Host σ) {child : Option Communicator}
    (hk : f.members[k]? = some kin) (hparent : kin'.parent = kin.parent)
    (hbears : Bears kin.comm kin'.comm child) :
    Pedigree.Grows f.pedigree (f.settle k kin' host child).pedigree := by
  have hbranch : f.pedigree[k]? = some kin.branch := by
    rw [pedigree, List.getElem?_map, hk]
    rfl
  cases hbears with
  | nobody same =>
    obtain ⟨hname, hcount⟩ := Prod.mk.inj same
    have hsame : kin'.branch = kin.branch := by
      rw [Kin.branch, hname, hcount, hparent, ← Kin.branch]
    have hpedigree : (f.settle k kin' host none).pedigree = f.pedigree := by
      rw [pedigree, settle, Option.map_none, Option.toList_none, List.append_nil]
      exact Pedigree.map_set_same hk hsame
    rw [hpedigree]
    exact .same
  | @child child name counted named childless =>
    have hcounted : kin'.branch = kin.branch.counted := by
      rw [Kin.branch, name, counted, hparent]
      rfl
    have hchild : Kin.branch { comm := child, parent := some k } = kin.branch.child k := by
      rw [Kin.branch, named, childless]
      rfl
    have hpedigree : (f.settle k kin' host (some child)).pedigree =
        f.pedigree.set k kin.branch.counted ++ [kin.branch.child k] := by
      rw [← hcounted, ← hchild, pedigree, settle, List.map_append, List.map_set]
      rfl
    rw [hpedigree]
    exact .child k kin.branch hbranch

/-- An act leaves a pedigree unchanged or adds one child. -/
theorem grows_act (lib : Library σ) (f : Family σ) (event : FamilyEvent σ) :
    Pedigree.Grows f.pedigree (f.act lib event).pedigree := by
  cases event with
  | operate k operation =>
    rw [act]
    split
    · exact .same
    · next kin hk => exact grows_settle _ _ hk rfl (operation.bears_apply lib kin.comm f.host)
  | step k event =>
    rw [act]
    split
    · exact .same
    · next kin hk =>
      exact grows_settle _ _ hk rfl
        (SharedCommunicator.bears_step lib ⟨kin.comm, f.host, kin.users⟩ event)
  | drop k =>
    rw [act]
    split
    · exact .same
    · next kin hk => exact grows_settle _ _ hk rfl (.nobody (kin.comm.label_drop lib f.host))

theorem numbered_run {root : String} (hroot : '/' ∉ root.toList)
    (h : Pedigree.Numbered root f.pedigree) (events : List (FamilyEvent σ)) :
    Pedigree.Numbered root (f.run lib events).pedigree := by
  induction events generalizing f with
  | nil => exact h
  | cons event rest ih => exact ih (h.grow hroot (grows_act lib f event))

/-- The families that some run grows from a communicator that was created with this id. -/
def Grown (lib : Library σ) (id : UniqueId) (f : Family σ) : Prop :=
  ∃ settings worldSize rank config host c host' events,
    Communicator.create lib settings worldSize rank id config host = (.ok c, host') ∧
      f = (start c host').run lib events

theorem pedigree_created {settings : CommSettings} {worldSize rank : Int32} {id : UniqueId}
    {config : InitConfig} {host host' : Host σ} {c : Communicator}
    (h : Communicator.create lib settings worldSize rank id config host = (.ok c, host')) :
    (start c host').pedigree = [{ name := id.text }] := by
  unfold Communicator.create at h
  split at h
  · cases h
  · dsimp only at h
    split at h
    · cases h
    · cases h
      rfl

theorem Grown.numbered {id : UniqueId} (h : Grown lib id f) :
    Pedigree.Numbered id.text f.pedigree := by
  obtain ⟨settings, worldSize, rank, config, host, c, host', events, hcreate, rfl⟩ := h
  apply numbered_run id.slash_notMem_text
  rw [pedigree_created hcreate]
  exact Pedigree.numbered_single id.text

theorem Grown.begun {id : UniqueId} (h : Grown lib id f) {name : String}
    (hname : name ∈ f.commIds) :
    id.text.toList <+: name.toList := by
  rw [← names_pedigree] at hname
  obtain ⟨b, hb, rfl⟩ := List.mem_map.mp hname
  exact h.numbered.begun b hb

/-- In a family grown by any splits, in any order and with any failures: names are distinct, the
children of a member are numbered from zero in the order in which their splits succeeded, and its
count is their number. Families whose ids differ in the first 16 bytes share no name. Counts are
unbounded. -/
theorem commIds_unique {lib : Library σ} {id : UniqueId} {f : Family σ} (h : Grown lib id f) :
    f.commIds.Nodup ∧
    (∀ k kin, f.members[k]? = some kin → f.childIds k =
      (List.range kin.comm.splits).map fun i => s!"{kin.comm.commId}/split{i}") ∧
    ∀ {τ : Type} (lib' : Library τ) (id' : UniqueId) (f' : Family τ), Grown lib' id' f' →
      id.bytes.take 16 ≠ id'.bytes.take 16 → ∀ name ∈ f.commIds, name ∉ f'.commIds := by
  refine ⟨?_, ?_, ?_⟩
  · rw [← names_pedigree]
    exact h.numbered.distinct
  · intro k kin hk
    rw [← childNames_pedigree]
    apply h.numbered.children k kin.branch
    rw [pedigree, List.getElem?_map, hk]
    rfl
  · intro τ lib' id' f' h' hids name hname hname'
    apply hids
    apply UniqueId.take_eq_of_text
    apply String.toList_inj.mp
    have hlength : id.text.toList.length = id'.text.toList.length := by
      rw [UniqueId.length_text, UniqueId.length_text]
    have hprefix := List.prefix_of_prefix_length_le (h.begun hname) (h'.begun hname')
      (Nat.le_of_eq hlength)
    exact hprefix.eq_of_length hlength

def quietHost : Host Scripted where
  library := {}
  clock := ⟨0, 0⟩

def scriptedFamily (id : UniqueId) (events : List (FamilyEvent Scripted)) : Family Scripted :=
  match Communicator.create Scripted.library .blocking 2 0 id {} quietHost with
  | (.ok c, host) => (start c host).run Scripted.library events
  | (.error _, host) => { host, members := [] }

theorem grown_scriptedFamily (id : UniqueId) (events : List (FamilyEvent Scripted)) :
    Grown Scripted.library id (scriptedFamily id events) :=
  ⟨.blocking, 2, 0, {}, quietHost, _, _, events, rfl, rfl⟩

/-- Two interleaved splits. The child that is numbered first is split and aborted, so its next split
fails. -/
def tangledSplits : List (FamilyEvent Scripted) :=
  [.step 0 (.enter (.child 0 0 {})), .step 0 (.enter (.child 1 0 {})), .step 0 (.divide 0),
    .step 0 (.divide 1), .step 0 (.adopt 1), .operate 1 (.split 0 0 {}), .operate 1 (.abort none),
    .operate 1 (.split 0 0 {}), .step 0 (.adopt 0), .drop 0, .operate 2 (.split 7 0 {})]

theorem commIds_unique_tangledSplits :
    let f := scriptedFamily (.ofNat 1) tangledSplits
    let f' := scriptedFamily (.ofNat 2) tangledSplits
    Grown Scripted.library (.ofNat 1) f ∧ Grown Scripted.library (.ofNat 2) f' ∧
    f.members.map (fun kin => (kin.parent, kin.comm.splits)) =
      [(none, 2), (some 0, 1), (some 1, 1), (some 0, 0), (some 2, 0)] ∧
    f.childIds 0 =
      ["01000000000000000000000000000000/split0", "01000000000000000000000000000000/split1"] ∧
    f.commIds.Nodup ∧ ∀ name ∈ f.commIds, name ∉ f'.commIds := by
  intro f f'
  have h := grown_scriptedFamily (.ofNat 1) tangledSplits
  have h' := grown_scriptedFamily (.ofNat 2) tangledSplits
  obtain ⟨hdistinct, hchildren, hapart⟩ := commIds_unique h
  have hids : (UniqueId.ofNat 1).bytes.take 16 ≠ (UniqueId.ofNat 2).bytes.take 16 := by decide
  exact ⟨h, h', rfl, hchildren 0 _ rfl, hdistinct, hapart Scripted.library _ f' h' hids⟩

end Family

end RankTrace
