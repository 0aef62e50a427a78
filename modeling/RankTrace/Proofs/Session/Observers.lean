import RankTrace.Proofs.Session.Run

/-!
# Dumps are observers

Two runs of a session that differ in dumps have different states, because a dump stamps the entries
that it polls. What is shown of the entries is the same in both, and every later answer is a
function of that. A repeated dump gives the same bytes at any clock, because the first one has left
nothing to be stamped.
-/

namespace RankTrace

namespace Session

variable {s s' : Session}

/-- There is nothing to be stamped. -/
def Settled (s : Session) : Prop :=
  ∀ e ∈ s.tracer.recorder.slots, ∀ now, e.polledBy s.tracer.markers now = e

/-- The invariant of quiet events. Settled entries are unchanged. -/
structure Resting (s s' : Session) : Prop where
  fleet : s.SameFleet s'
  symbols : s'.tracer.symbols = s.tracer.symbols
  board : s'.tracer.board = s.tracer.board
  hasFired : s'.tracer.markers.hasFired = s.tracer.markers.hasFired
  recorder : { s'.tracer.recorder with slots := s.tracer.recorder.slots } = s.tracer.recorder
  slots : s.Settled → s'.tracer.recorder.slots = s.tracer.recorder.slots

theorem settled_polled (s : Session) : s.polled.Settled := by
  intro e he now
  obtain ⟨e, _, rfl⟩ := List.mem_map.mp he
  exact e.polledBy_polledBy s.tracer.markers s.now now

theorem Settled.polled (h : s.Settled) : s.polled.tracer.recorder = s.tracer.recorder := by
  have hslots : s.tracer.recorder.slots.map (·.polledBy s.tracer.markers s.now) =
      s.tracer.recorder.slots.map id := List.map_congr_left fun e he => h e he s.now
  rw [List.map_id] at hslots
  exact congrArg (fun slots => { s.tracer.recorder with slots }) hslots

theorem Resting.settled (h : s.Resting s') (hs : s.Settled) : s'.Settled := by
  intro e he now
  rw [h.slots hs] at he
  rw [Entry.polledBy_congr h.hasFired]
  exact hs e he now

theorem Resting.refl (s : Session) : s.Resting s := ⟨⟨rfl, rfl, rfl, rfl⟩, rfl, rfl, rfl, rfl,
  fun _ => rfl⟩

theorem Resting.trans {s'' : Session} (h : s.Resting s') (h' : s'.Resting s'') :
    s.Resting s'' where
  fleet := h.fleet.trans h'.fleet
  symbols := h'.symbols.trans h.symbols
  board := h'.board.trans h.board
  hasFired := h'.hasFired.trans h.hasFired
  recorder := by
    have hmiddle := congrArg (fun r : Recorder => { r with slots := s.tracer.recorder.slots })
      h'.recorder
    exact hmiddle.trans h.recorder
  slots hs := (h'.slots (h.settled hs)).trans (h.slots hs)

/-- Under quiet events the view is unchanged, except for the entries. -/
theorem Resting.view (h : s.Resting s') : s'.view = { s.view with entries := s'.view.entries } := by
  have hnative : (fun source => (s'.collectNative source).1) =
      fun source => (s.collectNative source).1 := funext h.fleet.collectNative
  have hresolver : s'.tracer.resolver = s.tracer.resolver := by
    funext address
    rw [Tracer.resolver, Tracer.resolver, h.symbols]
  have hranks : s'.tracer.recorder.ranks = s.tracer.recorder.ranks :=
    congrArg (·.ranks) h.recorder
  have hstatuses : s'.tracer.recorder.statuses = s.tracer.recorder.statuses :=
    congrArg (·.statuses) h.recorder
  simp only [Session.view, hnative, hresolver, hranks, Recorder.progress, hstatuses, h.board]

theorem Resting.view_of_settled (h : s.Resting s') (hs : s.Settled) : s'.view = s.view := by
  have hrecorder : s'.tracer.recorder = s.tracer.recorder := by
    have hkept := h.recorder
    rw [← h.slots hs] at hkept
    exact hkept
  have hentries : s'.view.entries = s.view.entries := by
    simp only [Session.view, hs.polled, (h.settled hs).polled, hrecorder]
  rw [h.view, hentries]

theorem resting_of_bare (h : s'.bare = s.bare) : s.Resting s' := by
  have htracer := tracer_of_bare h
  refine ⟨sameFleet_of_bare h, ?_, ?_, ?_, ?_, fun _ => ?_⟩ <;> rw [htracer]

theorem resting_polled (s : Session) : s.Resting s.polled where
  fleet := ⟨rfl, rfl, rfl, rfl⟩
  symbols := rfl
  board := rfl
  hasFired := rfl
  recorder := rfl
  slots hs := congrArg (·.slots) hs.polled

theorem board_addProgress (t : Tracer) : t.addProgress.2.board = t.board := by
  funext id
  simp only [Tracer.board, Tracer.addProgress, List.getD_eq_getElem?_getD]
  rcases Nat.lt_trichotomy id.val t.progress.length with h | h | h
  · rw [List.getElem?_append_left h]
  · simp [h]
  · rw [List.getElem?_eq_none (by simp; omega), List.getElem?_eq_none (by omega)]

theorem resting_look (h : s.Hosted) (l : Look) : s.Resting (s.look l).2 := by
  obtain ⟨s', heq, hbare⟩ := look_eq h l
  rw [heq]
  refine Resting.trans ?_ (resting_of_bare hbare)
  rw [lookedAt]
  split
  · exact s.resting_polled
  · exact .refl s

theorem resting_act (h : s.Hosted) {event : Event} (hquiet : event.isQuiet = true) :
    s.Resting (s.act event) := by
  cases event with
  | look l => exact resting_look h l
  | addMarker name =>
    exact ⟨⟨rfl, rfl, rfl, rfl⟩, rfl, rfl, s.tracer.markers.hasFired_add, rfl, fun _ => rfl⟩
  | nameStatus name =>
    simp only [act, status]
    split
    · exact .refl s
    · exact ⟨⟨rfl, rfl, rfl, rfl⟩, rfl, board_addProgress s.tracer, rfl, rfl, fun _ => rfl⟩
  | setStack | advance | setWall =>
    exact ⟨⟨rfl, rfl, rfl, rfl⟩, rfl, rfl, rfl, rfl, fun _ => rfl⟩
  | record | retire | setRanks | changeStatus | fire | setSymbols | replaceRecorder | refit =>
    cases hquiet

theorem resting_run (h : s.Hosted) {between : List Event}
    (hquiet : ∀ event ∈ between, event.isQuiet = true) : s.Resting (s.run between) := by
  induction between generalizing s with
  | nil => exact .refl s
  | cons event rest ih =>
    have hfirst := resting_act h (hquiet event List.mem_cons_self)
    exact hfirst.trans (ih (h.act event) fun later hlater =>
      hquiet later (List.mem_cons_of_mem event hlater))

theorem view_polled (s : Session) : s.polled.view = s.view := by
  have hentries : s.polled.view.entries = s.view.entries := by
    show s.polled.polled.tracer.recorder.entries.map _ = s.polled.tracer.recorder.entries.map _
    rw [s.settled_polled.polled]
  rw [s.resting_polled.view, hentries]

/-- A repeated look gives the same after quiet events. -/
theorem look_again (h : s.Hosted) (l : Look) {between : List Event}
    (hquiet : ∀ event ∈ between, event.isQuiet = true) :
    (((s.look l).2.run between).look l).1 = (s.look l).1 := by
  obtain ⟨next, hfirst, hbare⟩ := look_eq h l
  have hnext : next.Hosted := hosted_of_bare hbare (h.lookedAt l.polls)
  obtain ⟨_, hsecond, _⟩ := look_eq (hnext.run between) l
  have hresting := resting_run hnext hquiet
  rw [hfirst, hsecond]
  show l.sight (next.run between).view = l.sight s.view
  cases hpolls : l.polls with
  | true =>
    -- the first look has stamped what there was, so that the entries stay as well
    rw [hpolls] at hbare
    have hsettled : next.Settled := by
      have htracer : next.tracer = s.polled.tracer := tracer_of_bare hbare
      rw [Settled, htracer]
      exact s.settled_polled
    have hview : next.view = s.view := (view_of_bare hbare).trans s.view_polled
    rw [hresting.view_of_settled hsettled, hview]
  | false =>
    rw [hpolls] at hbare
    have hview : next.view = s.view := view_of_bare hbare
    rw [hresting.view, hview]
    exact sight_of_not_polls hpolls s.view _

end Session

structure SharedSession where
  session : Session
  retiring : List Retiring := []

/-- One call of some thread, or one of the locked parts of a retirement. Between the parts other
threads may do anything. -/
inductive CallEvent
  | call (event : Session.Event)
  | claim (id : Option Nat) (withDuration : Bool)
  | probe (k : Nat)
  | commit (k : Nat)

namespace SharedSession

def start (script : Scripted) (attached : Bool) (directory : String) : SharedSession where
  session := .start script attached directory

def recorder (s : SharedSession) : SharedRecorder MarkerBank where
  recorder := s.session.tracer.recorder
  device := s.session.tracer.markers
  retiring := s.retiring

def setRecorder (r : SharedRecorder MarkerBank) (s : SharedSession) : SharedSession where
  session := { s.session with tracer := { s.session.tracer with
    recorder := r.recorder
    markers := r.device } }
  retiring := r.retiring

def act (s : SharedSession) : CallEvent → SharedSession
  | .call event => { s with session := s.session.act event }
  | .claim id withDuration =>
    s.setRecorder (s.recorder.claim MarkerBank.device s.session.now id withDuration)
  | .probe k => s.setRecorder (s.recorder.probe MarkerBank.device k)
  | .commit k => s.setRecorder (s.recorder.commit k)

def run (s : SharedSession) (events : List CallEvent) : SharedSession := events.foldl act s

/-- A run with some of its dumps omitted. -/
inductive Thinned : List CallEvent → List CallEvent → Prop
  | nil : Thinned [] []
  | keep (event : CallEvent) {events kept : List CallEvent} (h : Thinned events kept) :
    Thinned (event :: events) (event :: kept)
  | leaveOut (l : Session.Look) {events kept : List CallEvent} (h : Thinned events kept) :
    Thinned (.call (.look l) :: events) kept

/-- Two sessions that show the same, with the same retirements under way. -/
structure Alike (s s' : SharedSession) : Prop where
  hosted : s.session.Hosted
  hosted' : s'.session.Hosted
  shown : s.session.shown = s'.session.shown
  retiring : s.retiring = s'.retiring

variable {s s' : SharedSession}

theorem Alike.markers (h : Alike s s') : s'.session.tracer.markers = s.session.tracer.markers :=
  congrArg (·.tracer.markers) h.shown.symm

theorem Alike.matches (h : Alike s s') :
    SharedRecorder.Matches s.session.tracer.markers s.recorder s'.recorder where
  device := rfl
  device' := h.markers
  layout := h.hosted.layout
  layout' := h.hosted'.layout
  shown := by
    have hshown : s.session.tracer.recorder.shown s.session.tracer.markers =
        s'.session.tracer.recorder.shown s'.session.tracer.markers :=
      congrArg (·.tracer.recorder) h.shown
    rw [h.markers] at hshown
    exact hshown
  retiring := h.retiring

theorem Alike.setRecorder (h : Alike s s') {r r' : SharedRecorder MarkerBank}
    (hr : SharedRecorder.Matches s.session.tracer.markers r r') :
    Alike (s.setRecorder r) (s'.setRecorder r') := by
  obtain ⟨hdevice, hdevice', hlayout, hlayout', hshown, hretiring⟩ := hr
  refine ⟨⟨?_, hlayout⟩, ⟨?_, hlayout'⟩, ?_, hretiring⟩
  · show r.device.HostOnly
    rw [hdevice]
    exact h.hosted.markers
  · show r'.device.HostOnly
    rw [hdevice']
    exact h.hosted.markers
  · have htracer : s.session.tracer.shown = s'.session.tracer.shown := congrArg (·.tracer) h.shown
    refine Session.shown_setTracer h.shown ?_
    simp only [Tracer.shown, hdevice, hdevice', hshown]
    exact congrArg (fun t : Tracer => { t with
      recorder := r'.recorder.shown s.session.tracer.markers
      markers := s.session.tracer.markers }) htracer

/-- The same event preserves `Alike`. -/
theorem Alike.act (h : Alike s s') (event : CallEvent) : Alike (s.act event) (s'.act event) := by
  have hmarkers := h.hosted.markers
  cases event with
  | call event =>
    exact ⟨h.hosted.act event, h.hosted'.act event,
      Session.shown_act h.hosted h.hosted' h.shown event, h.retiring⟩
  | claim id w =>
    have hclaim := h.matches.claim hmarkers s.session.now id w
    have hnow := Session.now_of_shown h.shown
    show Alike _ (s'.setRecorder (s'.recorder.claim MarkerBank.device s'.session.now id w))
    rw [← hnow]
    exact h.setRecorder hclaim
  | probe k => exact h.setRecorder (h.matches.probe hmarkers k)
  | commit k => exact h.setRecorder (h.matches.commit k)

theorem Alike.look (h : Alike s s') (l : Session.Look) :
    Alike (s.act (.call (.look l))) s' :=
  ⟨h.hosted.look l, h.hosted', (Session.shown_look h.hosted l).trans h.shown, h.retiring⟩

/-- Omitted dumps do not change what is shown after a run. -/
theorem Alike.run {events kept : List CallEvent} (h : Alike s s')
    (hthinned : Thinned events kept) : Alike (s.run events) (s'.run kept) := by
  induction hthinned generalizing s s' with
  | nil => exact h
  | keep event _ ih => exact ih (h.act event)
  | leaveOut l _ ih => exact ih (h.look l)

/-- Two runs with host markers, one of which omits any of the dumps. Records and retirements answer
alike afterwards, and dumps answer alike except for the values of their stamps. A repeated dump
gives the same bytes at any clock, if only quiet events are in between. -/
theorem dumps_unnoticed (script : Scripted) (attached : Bool) (directory : String)
    {events kept : List CallEvent} (hthinned : Thinned events kept) :
    let s := ((start script attached directory).run events).session
    let s' := ((start script attached directory).run kept).session
    (∀ op count, (s.record op count).1 = (s'.record op count).1) ∧
    (∀ id withDuration, (s.retire id withDuration).1 = (s'.retire id withDuration).1) ∧
    (∀ l, (s.look l).1.Like (s'.look l).1) ∧
    ∀ l between, (∀ event ∈ between, event.isQuiet = true) →
      (((s.look l).2.run between).look l).1 = (s.look l).1 := by
  intro s s'
  have hstart := Session.hosted_start script attached directory
  have hsame : Alike (start script attached directory) (start script attached directory) :=
    ⟨hstart, hstart, rfl, rfl⟩
  have h := hsame.run hthinned
  refine ⟨fun op count => (Session.shown_record h.shown op count).1, ?_, ?_, ?_⟩
  · intro id w
    rw [(Session.retire_eq h.hosted id w).1, (Session.retire_eq h.hosted' id w).1]
  · intro l
    obtain ⟨_, hlook, _⟩ := Session.look_eq h.hosted l
    obtain ⟨_, hlook', _⟩ := Session.look_eq h.hosted' l
    rw [hlook, hlook']
    exact Session.sight_like (Session.view_hideTimes h.shown) l
  · intro l between hquiet
    exact Session.look_again h.hosted l hquiet

/-- An operation that has completed is retired, with looks before and between the halves. -/
def retiredUnderLooks (looks : List Session.Look) : List CallEvent :=
  let op : Issued := { group := ⟨"0", "default"⟩, status := ⟨0⟩, name := "send" }
  let looked := looks.map fun l => CallEvent.call (.look l)
  [.call (.replaceRecorder 1 false), .call (.addMarker "start"), .call (.addMarker "stop"),
    .call (.record { op with start := some ⟨0⟩, stop := some ⟨1⟩ } 1), .call (.fire ⟨0⟩),
    .call (.fire ⟨1⟩)] ++
  looked ++ [.call (.advance ⟨5⟩), .claim (some 0) true] ++ looked ++ [.probe 0, .commit 0]

/-- The stamps of the two runs differ. -/
theorem retiredUnderLooks_unnoticed :
    let s := ((start {} true "/tmp").run (retiredUnderLooks [.entries])).session
    let s' := ((start {} true "/tmp").run (retiredUnderLooks [])).session
    s.tracer.recorder.slots.map (·.completed) = [some 1700000000000000000] ∧
    s'.tracer.recorder.slots.map (·.completed) = [some 1700000000000000005] ∧
    s.tracer.recorder.slots.map (·.duration.isSome) = [true] ∧
    (s.look (.bytes .text {} .absent)).1.Like (s'.look (.bytes .text {} .absent)).1 := by
  have hlast : Thinned [.probe 0, .commit 0] [.probe 0, .commit 0] := .keep _ (.keep _ .nil)
  have hthinned : Thinned (retiredUnderLooks [.entries]) (retiredUnderLooks []) :=
    .keep _ (.keep _ (.keep _ (.keep _ (.keep _ (.keep _ (.leaveOut .entries
      (.keep _ (.keep _ (.leaveOut .entries hlast)))))))))
  obtain ⟨_, _, hlike, _⟩ := dumps_unnoticed {} true "/tmp" hthinned
  exact ⟨rfl, rfl, rfl, hlike _⟩

end SharedSession

end RankTrace
