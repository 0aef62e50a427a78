import RankTrace.Proofs.Session.Looks

/-!
# Runs of a session

The events of a session with host markers, and what is shown of it: everything except the values of
stamps and what dumps only add to. What is shown after an event is a function of what was shown
before, and a look does not change it.
-/

namespace RankTrace

namespace Tracer

def shown (t : Tracer) : Tracer := { t with recorder := t.recorder.shown t.markers }

variable {t : Tracer}

theorem shown_record (now : Int64) (op : Issued) (t : Tracer) :
    (t.record now op).1 = (t.shown.record now op).1 ∧
      (t.record now op).2.shown = (t.shown.record now op).2.shown := by
  obtain ⟨hid, hrecorder⟩ := t.recorder.shown_record t.markers (t.moment now) op
  exact ⟨hid, congrArg (fun recorder => { t with recorder }) hrecorder⟩

theorem shown_recordMany (now : Int64) (op : Issued) (count : Nat) (last : Option Nat)
    {t t' : Tracer} (h : t.shown = t'.shown) :
    (t.recordMany now op count last).1 = (t'.recordMany now op count last).1 ∧
      (t.recordMany now op count last).2.shown = (t'.recordMany now op count last).2.shown := by
  induction count generalizing last t t' with
  | zero => exact ⟨rfl, h⟩
  | succ count ih =>
    obtain ⟨hid, hnext⟩ := shown_record now op t
    obtain ⟨hid', hnext'⟩ := shown_record now op t'
    rw [h, ← hid'] at hid
    rw [h, ← hnext'] at hnext
    simp only [recordMany, hid]
    exact ih _ hnext

theorem hosted_recordMany (now : Int64) (op : Issued) (count : Nat) (last : Option Nat)
    {t : Tracer} (h : t.recorder.Layout) :
    (t.recordMany now op count last).2.markers = t.markers ∧
      (t.recordMany now op count last).2.recorder.Layout := by
  induction count generalizing last t with
  | zero => exact ⟨rfl, h⟩
  | succ count ih => exact ih (t.record now op).1 (h.record (t.moment now) op)

theorem shown_setRanks (group : GroupName) (ranks : List UInt64) (t : Tracer) :
    (t.setRanks group ranks).shown = t.shown.setRanks group ranks := by
  have hrecorder : (t.recorder.setRanks group ranks).shown t.markers =
      (t.recorder.shown t.markers).setRanks group ranks := by
    unfold Recorder.setRanks
    exact apply_ite _ _ _ _
  exact congrArg (fun recorder => { t with recorder }) hrecorder

/-- What is shown after more fires is a function of what was shown before. -/
theorem shown_moveMarkers {b : MarkerBank} (h : t.markers.FiresIn b) :
    ({ t with markers := b } : Tracer).shown = ({ t.shown with markers := b } : Tracer).shown :=
  congrArg (fun recorder => { t with recorder, markers := b })
    (Recorder.shown_shown h t.recorder).symm

theorem shown_retire (hb : t.markers.HostOnly) (hl : t.recorder.Layout) (now : Int64)
    (id : Option Nat) (w : Bool) :
    ∃ outcome t', t.retire now id w = (.answered outcome, t') ∧ t'.markers = t.markers ∧
      t'.recorder.Layout ∧ t'.shown = (t.shown.retire now id w).2.shown := by
  have hb' : t.shown.markers.HostOnly := hb
  have hl' : t.shown.recorder.Layout := hl.map (Entry.shown_id t.markers)
  obtain ⟨outcome, r, hr, hlayout, hshown⟩ := Recorder.shown_retire hl hb (t.moment now) id w
  obtain ⟨_, r', hr', _, _⟩ := Recorder.shown_retire hl' hb' (t.shown.moment now) id w
  have hsame : r.shown t.markers = r'.shown t.markers :=
    hshown.trans (congrArg (fun next => next.2.1.shown t.markers) hr')
  refine ⟨outcome, { t with recorder := r }, ?_, rfl, hlayout, ?_⟩
  · simp only [retire, hr]
  · simp only [retire, hr']
    exact congrArg (fun recorder => { t with recorder }) hsame

end Tracer

namespace Session

inductive Event
  | record (op : Issued) (count : Nat)
  | retire (id : Option Nat) (withDuration : Bool)
  | setRanks (group : GroupName) (ranks : List UInt64)
  | nameStatus (name : String)
  | changeStatus (name : String) (change : GroupProgress → GroupProgress)
  | addMarker (name : String)
  | fire (id : MarkerId)
  | setStack (addresses : List UInt64)
  | setSymbols (symbols : List (UInt64 × List Symbol))
  | advance (d : Duration)
  | setWall (ns : Int)
  | replaceRecorder (capacity : Nat) (captureStacks : Bool)
  /-- The communicators and their library have come to be so, in whatever way. -/
  | refit (members : Table String Member) (registry : Registry) (library : Scripted)
    (detached : Option Scripted)
  | look (l : Look)

/-- Events that no dump can tell: nothing is recorded, retired or fired, and no group, symbol or
native diagnostic changes. -/
def Event.isQuiet : Event → Bool
  | nameStatus _ | addMarker _ | setStack _ | advance _ | setWall _ | look _ => true
  | _ => false

def act (s : Session) : Event → Session
  | .record op count => (s.record op count).2
  | .retire id withDuration => (s.retire id withDuration).2
  | .setRanks group ranks => { s with tracer := s.tracer.setRanks group ranks }
  | .nameStatus name => (s.status name).2
  | .changeStatus name change => (s.changeStatus name change).2
  | .addMarker name => s.addMarker name (.host none)
  | .fire id => s.fire id
  | .setStack addresses => { s with tracer := { s.tracer with stack := addresses } }
  | .setSymbols symbols => { s with tracer := { s.tracer with symbols } }
  | .advance d => s.advance d
  | .setWall ns => s.setWall ns
  | .replaceRecorder capacity captureStacks => s.replaceRecorder capacity captureStacks
  | .refit members registry library detached =>
    { s with
      fleet := { s.fleet with members, registry, host := { s.host with library } }
      detached }
  | .look l => (s.look l).2

def run (s : Session) (events : List Event) : Session := events.foldl act s

variable {s s' : Session}

theorem hosted_start (script : Scripted) (attached : Bool) (directory : String) :
    (start script attached directory).Hosted where
  markers := fun m hm => by cases hm
  layout := Recorder.layout_new 0 false

theorem hosted_emitOption (h : s.Hosted) (event : Option LogEvent) : (s.emitOption event).Hosted :=
  hosted_of_bare (bare_emitOption event s) h

theorem Hosted.look (h : s.Hosted) (l : Look) : (s.look l).2.Hosted := by
  obtain ⟨s', heq, hbare⟩ := look_eq h l
  rw [heq]
  exact hosted_of_bare hbare (h.lookedAt l.polls)

/-- A session with what would be shown of its entries, and without what dumps only add to. -/
def shown (s : Session) : Session := { s.bare with tracer := s.tracer.shown }

theorem shown_of_bare (h : s'.bare = s.bare) : s'.shown = s.shown := by
  show s'.bare.shown = s.bare.shown
  rw [h]

theorem shown_polled (s : Session) : s.polled.shown = s.shown :=
  congrArg (fun recorder => { s.bare with tracer := { s.tracer with recorder } })
    (s.tracer.recorder.shown_polledBy s.tracer.markers s.now)

/-- A look leaves what is shown unchanged. -/
theorem shown_look (h : s.Hosted) (l : Look) : (s.look l).2.shown = s.shown := by
  obtain ⟨s', heq, hbare⟩ := look_eq h l
  rw [heq, shown_of_bare hbare, lookedAt]
  split
  · exact s.shown_polled
  · rfl

/-- The view without the values of its stamps is what is shown. -/
theorem view_hideTimes (h : s.shown = s'.shown) : s.view.hideTimes = s'.view.hideTimes := by
  have hfleet : s.SameFleet s' :=
    ⟨congrArg (·.fleet.members) h.symm, congrArg (·.fleet.registry) h.symm,
      congrArg (·.host.library) h.symm, congrArg (·.detached) h.symm⟩
  have hnative : (fun source => (s'.collectNative source).1) =
      fun source => (s.collectNative source).1 := funext hfleet.collectNative
  have hentries (s : Session) : s.view.entries.map Entry.hideTimes =
      s.shown.tracer.recorder.entries.map Entry.clearMarkers :=
    Recorder.hideTimes_snapshot s.tracer.markers s.now s.tracer.recorder
  have hview (s : Session) : s.view.hideTimes = ⟨s.shown.tracer.resolver,
      fun source => (s.collectNative source).1, s.shown.tracer.recorder.ranks,
      s.shown.tracer.recorder.progress s.shown.tracer.board,
      s.shown.tracer.recorder.entries.map Entry.clearMarkers⟩ := by
    rw [← hentries]
    rfl
  rw [hview, hview, h, hnative]

theorem shown_setTracer (h : s.shown = s'.shown) {t t' : Tracer} (ht : t.shown = t'.shown) :
    ({ s with tracer := t } : Session).shown = ({ s' with tracer := t' } : Session).shown :=
  (congrArg (fun s : Session => { s with tracer := t.shown }) h).trans
    (congrArg (fun tracer => { s'.shown with tracer }) ht)

theorem now_of_shown (h : s.shown = s'.shown) : s.now = s'.now := by
  show s.shown.now = s'.shown.now
  rw [h]

theorem shown_record (h : s.shown = s'.shown) (op : Issued) (count : Nat) :
    (s.record op count).1 = (s'.record op count).1 ∧
      (s.record op count).2.shown = (s'.record op count).2.shown := by
  have htracer : s.tracer.shown = s'.tracer.shown := congrArg (·.tracer) h
  obtain ⟨hid, hnext⟩ := Tracer.shown_recordMany s.now op count none htracer
  simp only [record, withTracer, ← now_of_shown h]
  exact ⟨hid, shown_setTracer h hnext⟩

theorem retire_eq (h : s.Hosted) (id : Option Nat) (w : Bool) :
    (s.retire id w).1 = .answered () ∧ (s.retire id w).2.Hosted ∧
      (s.retire id w).2.shown =
        ({ s with tracer := (s.tracer.shown.retire s.now id w).2 } : Session).shown := by
  obtain ⟨outcome, t, heq, hmarkers, hlayout, hshown⟩ :=
    Tracer.shown_retire h.markers h.layout s.now id w
  have hnext : ({ s with tracer := t } : Session).Hosted := by
    refine ⟨?_, hlayout⟩
    show t.markers.HostOnly
    rw [hmarkers]
    exact h.markers
  simp only [retire, withTracer, heq]
  refine ⟨trivial, hosted_emitOption hnext _, ?_⟩
  rw [shown_of_bare (bare_emitOption _ _)]
  exact shown_setTracer rfl hshown

theorem shown_status (h : s.shown = s'.shown) (name : String) :
    (s.status name).1 = (s'.status name).1 ∧
      (s.status name).2.shown = (s'.status name).2.shown := by
  have hnames : s.statusNames = s'.statusNames := congrArg (·.statusNames) h
  have hprogress : s.tracer.progress = s'.tracer.progress := congrArg (·.tracer.progress) h
  unfold status
  rw [hnames]
  split
  · exact ⟨rfl, h⟩
  · refine ⟨?_, ?_⟩
    · simp only [newStatus, Tracer.addProgress, hprogress]
    · have hadded := congrArg (fun s : Session => { s.newStatus.2 with
        statusNames := s.statusNames.set name s.newStatus.1 }) h
      exact hadded

theorem hosted_status (h : s.Hosted) (name : String) : (s.status name).2.Hosted := by
  unfold status
  split
  · exact h
  · exact ⟨h.markers, h.layout⟩

theorem Hosted.act (h : s.Hosted) (event : Event) : (s.act event).Hosted := by
  cases event with
  | record op count =>
    obtain ⟨hmarkers, hlayout⟩ := Tracer.hosted_recordMany s.now op count none h.layout
    refine ⟨?_, hlayout⟩
    show (s.tracer.recordMany s.now op count none).2.markers.HostOnly
    rw [hmarkers]
    exact h.markers
  | retire id w => exact (retire_eq h id w).2.1
  | setRanks group ranks =>
    refine ⟨h.markers, ?_⟩
    show (s.tracer.recorder.setRanks group ranks).Layout
    unfold Recorder.setRanks
    split
    · exact h.layout.congr rfl rfl rfl rfl
    · exact h.layout
  | nameStatus name => exact hosted_status h name
  | changeStatus name change =>
    have hnamed := hosted_status h name
    exact ⟨hnamed.markers, hnamed.layout⟩
  | addMarker name => exact ⟨h.markers.add, h.layout⟩
  | fire id => exact ⟨h.markers.fire id s.host.clock.monotonic, h.layout⟩
  | setStack | setSymbols | advance | setWall | refit => exact ⟨h.markers, h.layout⟩
  | replaceRecorder capacity captureStacks =>
    refine hosted_emitOption ⟨?_, Recorder.layout_new capacity captureStacks⟩ _
    show s.tracer.markers.dropRecordings.HostOnly
    rw [h.markers.dropRecordings]
    exact h.markers
  | look l => exact h.look l

theorem Hosted.run (h : s.Hosted) (events : List Event) : (s.run events).Hosted :=
  List.foldlRecOn events _ h fun _ hs event _ => hs.act event

/-- What is shown after an event is a function of what was shown before. -/
theorem shown_act (hs : s.Hosted) (hs' : s'.Hosted) (h : s.shown = s'.shown)
    (event : Event) : (s.act event).shown = (s'.act event).shown := by
  have htracer : s.tracer.shown = s'.tracer.shown := congrArg (·.tracer) h
  have hmarkers : s.tracer.markers = s'.tracer.markers := congrArg (·.markers) htracer
  have hmoved (b : MarkerBank) (hb : s.tracer.markers.FiresIn b) :
      ({ s.tracer with markers := b } : Tracer).shown =
        ({ s'.tracer with markers := b } : Tracer).shown := by
    have hb' : s'.tracer.markers.FiresIn b := hmarkers ▸ hb
    rw [Tracer.shown_moveMarkers hb, Tracer.shown_moveMarkers hb', htracer]
  cases event with
  | record op count => exact (shown_record h op count).2
  | retire id w =>
    show (s.retire id w).2.shown = (s'.retire id w).2.shown
    rw [(retire_eq hs id w).2.2, (retire_eq hs' id w).2.2, htracer, now_of_shown h]
    exact shown_setTracer h rfl
  | setRanks group ranks =>
    refine shown_setTracer h ?_
    rw [Tracer.shown_setRanks, Tracer.shown_setRanks, htracer]
  | nameStatus name => exact (shown_status h name).2
  | changeStatus name change =>
    obtain ⟨hid, hnamed⟩ := shown_status h name
    simp only [act, changeStatus, ← hid]
    exact congrArg (fun next : Session => { next with
      tracer := next.tracer.setProgress (s.status name).1
        (change (next.tracer.board (s.status name).1)) }) hnamed
  | addMarker name =>
    have hnames : s.markerNames = s'.markerNames := congrArg (·.markerNames) h
    have hadded := shown_setTracer h (hmoved _ s.tracer.markers.firesIn_add)
    simp only [act, addMarker, ← hmarkers, ← hnames]
    exact congrArg (fun next : Session => { next with
      markerNames := s.markerNames.set name (s.tracer.markers.add (.host none)).1 }) hadded
  | fire id =>
    have hclock : s.host.clock = s'.host.clock := congrArg (·.host.clock) h
    simp only [act, fire, ← hmarkers, ← hclock]
    exact shown_setTracer h (hmoved _ (s.tracer.markers.firesIn_fire id s.host.clock.monotonic))
  | setStack addresses =>
    exact congrArg (fun s : Session => s.act (.setStack addresses)) h
  | setSymbols symbols => exact congrArg (fun s : Session => s.act (.setSymbols symbols)) h
  | advance d => exact congrArg (advance d) h
  | setWall ns => exact congrArg (setWall ns) h
  | refit members registry library detached =>
    exact congrArg (fun s : Session => s.act (.refit members registry library detached)) h
  | replaceRecorder capacity captureStacks =>
    have hreplaced (t : Tracer) : (t.replaceRecorder capacity captureStacks).shown =
        (t.shown.replaceRecorder capacity captureStacks).shown := rfl
    simp only [act, replaceRecorder]
    rw [shown_of_bare (bare_emitOption _ _), shown_of_bare (bare_emitOption _ _)]
    refine shown_setTracer h ?_
    rw [hreplaced, hreplaced s'.tracer, htracer]
  | look l =>
    show (s.look l).2.shown = (s'.look l).2.shown
    rw [shown_look hs, shown_look hs', h]

end Session

end RankTrace
