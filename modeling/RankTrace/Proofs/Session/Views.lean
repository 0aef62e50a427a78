import RankTrace.Proofs.Dump.Times
import RankTrace.Session.Serving

/-!
# What the dumps of a session are made of

With host markers every dump of a session is a function of its view: the symbols, the native
diagnostics, the groups, and the polled entries. Apart from the poll a dump adds only to the calls,
the log, the outlet and the number of tasks, which no other operation reads.
-/

namespace RankTrace

section Diagnostics

variable {σ : Type} {lib : Library σ}

/-- Dumps of the library change nothing in it. -/
def Library.DumpsQuietly (lib : Library σ) : Prop := ∀ raw s, (lib.answer (.dump raw) s).2 = s

structure Host.SameWorld (host host' : Host σ) : Prop where
  library : host'.library = host.library
  clock : host'.clock = host.clock

theorem Host.SameWorld.trans {h h' h'' : Host σ} (h₁ : h.SameWorld h') (h₂ : h'.SameWorld h'') :
    h.SameWorld h'' := ⟨h₂.library.trans h₁.library, h₂.clock.trans h₁.clock⟩

theorem Communicator.nativeDump_quiet (hlib : lib.DumpsQuietly) (c : Communicator)
    (host : Host σ) : host.SameWorld (c.nativeDump lib host).2 := by
  unfold nativeDump
  split
  · exact ⟨rfl, rfl⟩
  · next raw _ =>
    have hcall : host.SameWorld (host.call lib (.dump raw)).2 := ⟨hlib raw host.library, rfl⟩
    dsimp only
    split <;> exact hcall

theorem Communicator.nativeDump_congr (c : Communicator) {host host' : Host σ}
    (h : host'.library = host.library) :
    (c.nativeDump lib host').1 = (c.nativeDump lib host).1 := by
  unfold nativeDump
  split
  · rfl
  · next raw _ =>
    have hanswer : (host'.call lib (.dump raw)).1 = (host.call lib (.dump raw)).1 := by
      rw [Host.call_answer, Host.call_answer, h]
    have hlibrary : (host'.call lib (.dump raw)).2.library =
        (host.call lib (.dump raw)).2.library := by
      rw [Host.call_library, Host.call_library, h]
    dsimp only
    rw [hanswer]
    split
    · rfl
    · simp only [Host.nativeError, hlibrary]

theorem Registry.collect_quiet (hlib : lib.DumpsQuietly) (cs : List Communicator)
    (dumps : NativeDumps) (host : Host σ) :
    host.SameWorld (collect lib cs dumps host).2 := by
  induction cs generalizing dumps host with
  | nil => exact ⟨rfl, rfl⟩
  | cons c rest ih =>
    have hdump := c.nativeDump_quiet hlib host
    unfold collect
    split
    · next heq =>
      rw [heq] at hdump
      exact hdump.trans (ih _ _)
    · next heq =>
      rw [heq] at hdump
      exact hdump.trans (ih _ _)
    · next heq =>
      rw [heq] at hdump
      refine Host.SameWorld.trans ?_ (ih _ _)
      exact ⟨hdump.library, hdump.clock⟩

theorem Registry.collect_congr (hlib : lib.DumpsQuietly) (cs : List Communicator)
    (dumps : NativeDumps) {host host' : Host σ} (h : host'.library = host.library) :
    (collect lib cs dumps host').1 = (collect lib cs dumps host).1 := by
  induction cs generalizing dumps host host' with
  | nil => rfl
  | cons c rest ih =>
    have hsame : (c.nativeDump lib host').1 = (c.nativeDump lib host).1 := c.nativeDump_congr h
    have hnext : (c.nativeDump lib host').2.library = (c.nativeDump lib host).2.library :=
      (c.nativeDump_quiet hlib host').library.trans
        (h.trans (c.nativeDump_quiet hlib host).library.symm)
    rcases hd : c.nativeDump lib host with ⟨result, next⟩
    rcases hd' : c.nativeDump lib host' with ⟨result', next'⟩
    rw [hd, hd'] at hsame hnext
    obtain rfl : result' = result := hsame
    rw [collect, collect, hd, hd']
    rcases result' with e | ⟨_ | ⟨row, rows⟩⟩
    · exact ih dumps hnext
    · exact ih dumps hnext
    · exact ih _ hnext

theorem Registry.nativeDumps_same (hlib : lib.DumpsQuietly) (find : CommKey → Option Communicator)
    (r : Registry) (host : Host σ) : host.SameWorld (r.nativeDumps lib find host).2 := by
  have hcollect := collect_quiet hlib (r.members.filterMap find) [] host
  unfold nativeDumps
  split <;> next heq =>
    rw [heq] at hcollect
    exact hcollect

theorem Registry.nativeDumps_congr (hlib : lib.DumpsQuietly)
    (find : CommKey → Option Communicator) (r : Registry) {host host' : Host σ}
    (h : host'.library = host.library) :
    (r.nativeDumps lib find host').1 = (r.nativeDumps lib find host).1 := by
  have hcollect := collect_congr hlib (r.members.filterMap find) [] h
  rcases hd : collect lib (r.members.filterMap find) [] host with ⟨dumps, next⟩
  rcases hd' : collect lib (r.members.filterMap find) [] host' with ⟨dumps', next'⟩
  rw [hd, hd'] at hcollect
  obtain rfl : dumps' = dumps := hcollect
  rw [nativeDumps, nativeDumps, hd, hd']
  cases dumps' <;> rfl

theorem Scripted.library_quiet : Scripted.library.DumpsQuietly := by
  intro raw s
  show (s.dump raw).2 = s
  unfold dump
  split
  · rfl
  · split <;> rfl

theorem Scripted.libraryWithoutDump_quiet : Scripted.libraryWithoutDump.DumpsQuietly :=
  fun _ _ => rfl

end Diagnostics

namespace Session

theorem library_quiet (s : Session) : s.library.DumpsQuietly := by
  unfold library
  split
  · exact Scripted.library_quiet
  · exact Scripted.libraryWithoutDump_quiet

/-- A session without what dumps only add to. -/
def bare (s : Session) : Session :=
  { s with
    fleet := { s.fleet with host := { s.fleet.host with calls := [], events := [] } }
    outlet := { directory := { path := "" } }
    tasks := 0 }

theorem bare_emitOption (event : Option LogEvent) (s : Session) :
    (s.emitOption event).bare = s.bare := by
  cases event <;> rfl

theorem bare_collectNative (source : NativeSource) (s : Session) :
    (s.collectNative source).2.bare = s.bare := by
  cases source with
  | absent | silent | fixed => rfl
  | registry =>
    have hsame := Registry.nativeDumps_same s.library_quiet s.fleet.find? s.fleet.registry s.host
    have hhost : (s.collectNative .registry).2.bare = { s.bare with
        fleet := { s.bare.fleet with
          host := { s.bare.fleet.host with
            library := (s.fleet.registry.nativeDumps s.library s.fleet.find? s.host).2.library
            clock := (s.fleet.registry.nativeDumps s.library s.fleet.find? s.host).2.clock } } } :=
      rfl
    rw [hhost, hsame.library, hsame.clock]
    rfl

structure SameFleet (s s' : Session) : Prop where
  members : s'.fleet.members = s.fleet.members
  registry : s'.fleet.registry = s.fleet.registry
  library : s'.host.library = s.host.library
  detached : s'.detached = s.detached

theorem SameFleet.trans {s s' s'' : Session} (h : s.SameFleet s') (h' : s'.SameFleet s'') :
    s.SameFleet s'' where
  members := h'.members.trans h.members
  registry := h'.registry.trans h.registry
  library := h'.library.trans h.library
  detached := h'.detached.trans h.detached

theorem SameFleet.collectNative {s s' : Session} (h : s.SameFleet s') (source : NativeSource) :
    (s'.collectNative source).1 = (s.collectNative source).1 := by
  cases source with
  | absent | silent | fixed => rfl
  | registry =>
    have hlibrary : s'.library = s.library := by
      rw [Session.library, Session.library, h.detached]
    have hfind : s'.fleet.find? = s.fleet.find? := by
      funext key
      rw [Fleet.find?, Fleet.find?, h.members]
    show (s'.fleet.registry.nativeDumps s'.library s'.fleet.find? s'.host).1 =
      (s.fleet.registry.nativeDumps s.library s.fleet.find? s.host).1
    rw [hlibrary, hfind, h.registry]
    exact Registry.nativeDumps_congr s.library_quiet s.fleet.find? s.fleet.registry h.library

/-- All markers are host markers, and the ring is in order. -/
structure Hosted (s : Session) : Prop where
  markers : s.tracer.markers.HostOnly
  layout : s.tracer.recorder.Layout

def polled (s : Session) : Session :=
  { s with tracer := { s.tracer with
    recorder := s.tracer.recorder.polledBy s.tracer.markers s.now } }

def lookedAt (polls : Bool) (s : Session) : Session := if polls then s.polled else s

structure View where
  resolver : Resolver
  native : NativeSource → Option NativeDumps
  ranks : Table GroupName (List UInt64)
  progress : Table UInt64 GroupProgress
  entries : List Entry

def view (s : Session) : View where
  resolver := s.tracer.resolver
  native source := (s.collectNative source).1
  ranks := s.tracer.recorder.ranks
  progress := s.tracer.recorder.progress s.tracer.board
  entries := s.polled.tracer.recorder.entries.map Entry.clearMarkers

/-- The dump of a view. The entries count only if they are asked for. -/
def View.tree (flavor : Flavor) (options : DumpOptions) (source : NativeSource) (v : View) :
    Value :=
  Dump.tree v.resolver options flavor (v.native source)
    ⟨v.ranks, v.progress, if options.collectives then some v.entries else none⟩

variable {s s' : Session}

theorem Hosted.polled (h : s.Hosted) : s.polled.Hosted :=
  ⟨h.markers, h.layout.map (Entry.polledBy_id _ _)⟩

theorem Hosted.lookedAt (h : s.Hosted) (polls : Bool) : (s.lookedAt polls).Hosted := by
  cases polls with
  | true => exact h.polled
  | false => exact h

theorem tracer_of_bare (h : s'.bare = s.bare) : s'.tracer = s.tracer := congrArg (·.tracer) h

theorem sameFleet_of_bare (h : s'.bare = s.bare) : s.SameFleet s' where
  members := congrArg (·.fleet.members) h
  registry := congrArg (·.fleet.registry) h
  library := congrArg (·.fleet.host.library) h
  detached := congrArg (·.detached) h

theorem now_of_bare (h : s'.bare = s.bare) : s'.now = s.now := by
  show s'.bare.now = s.bare.now
  rw [h]

theorem hosted_of_bare (h : s'.bare = s.bare) (hs : s.Hosted) : s'.Hosted := by
  have htracer := tracer_of_bare h
  refine ⟨?_, ?_⟩
  · rw [htracer]
    exact hs.markers
  · rw [htracer]
    exact hs.layout

theorem lookedAt_of_bare (h : s'.bare = s.bare) (polls : Bool) :
    (s'.lookedAt polls).bare = (s.lookedAt polls).bare := by
  cases polls with
  | false => exact h
  | true =>
    have htracer : s'.polled.tracer = s.polled.tracer := by
      simp only [polled, tracer_of_bare h, now_of_bare h]
    have hbare (s : Session) : s.polled.bare = { s.bare with tracer := s.polled.tracer } := rfl
    show s'.polled.bare = s.polled.bare
    rw [hbare, hbare, htracer, h]

theorem view_of_bare (h : s'.bare = s.bare) : s'.view = s.view := by
  have hnative : (fun source => (s'.collectNative source).1) =
      fun source => (s.collectNative source).1 :=
    funext (sameFleet_of_bare h).collectNative
  simp only [view, polled, hnative, tracer_of_bare h, now_of_bare h]

theorem snapshot_eq (h : s.Hosted) :
    s.withTracer Tracer.snapshot = (.answered s.view.entries, s.polled) := by
  have hentries : (s.tracer.recorder.entries.map (·.polledBy s.tracer.markers s.now)) =
      s.polled.tracer.recorder.entries := (Recorder.entries_map _ _).symm
  simp only [withTracer, Tracer.snapshot, Recorder.snapshot_host h.layout h.markers, hentries]
  rfl

theorem read_eq (h : s.Hosted) (options : DumpOptions) :
    s.tracer.recorder.read MarkerBank.device s.now s.tracer.board options s.tracer.markers =
      (.answered ⟨s.view.ranks, s.view.progress,
          if options.collectives then some s.view.entries else none⟩,
        (s.lookedAt options.collectives).tracer.recorder, s.tracer.markers) := by
  have hentries : (s.tracer.recorder.entries.map (·.polledBy s.tracer.markers s.now)) =
      s.polled.tracer.recorder.entries := (Recorder.entries_map _ _).symm
  cases hcollectives : options.collectives with
  | true =>
    simp only [Recorder.read, hcollectives, Recorder.snapshot_host h.layout h.markers, hentries,
      ↓reduceIte]
    rfl
  | false =>
    simp only [Recorder.read, hcollectives, Bool.false_eq_true, ↓reduceIte]
    rfl

/-- A dump answers with the tree of the view, and polls the entries iff it lists them. -/
theorem dumpTree_eq (h : s.Hosted) (flavor : Flavor) (options : DumpOptions)
    (source : NativeSource) :
    ∃ s', s.dumpTree flavor options source = (.answered (s.view.tree flavor options source), s') ∧
      s'.bare = (s.lookedAt options.collectives).bare := by
  let next := (s.collectNative source).2
  have hbare : next.bare = s.bare := bare_collectNative source s
  have hnext : next.Hosted := hosted_of_bare hbare h
  refine ⟨next.lookedAt options.collectives, ?_, lookedAt_of_bare hbare _⟩
  have hread := read_eq hnext options
  rw [view_of_bare hbare] at hread
  have hresolver : next.tracer.resolver = s.view.resolver := by
    rw [tracer_of_bare hbare]
    rfl
  show next.withTracer (fun now t => t.dumpTree now options flavor (s.view.native source)) = _
  simp only [withTracer, Tracer.dumpTree, hread]
  have hkept : { next with tracer := { next.tracer with
      recorder := (next.lookedAt options.collectives).tracer.recorder } } =
      next.lookedAt options.collectives := by
    cases options.collectives <;> rfl
  refine Prod.ext ?_ hkept
  show Reply.answered (Dump.tree next.tracer.resolver options flavor _ _) = _
  rw [hresolver]
  rfl

theorem dump_eq (h : s.Hosted) (source : NativeSource) (flavor : Flavor) (options : DumpOptions) :
    ∃ s', s.dump source flavor options =
        (.answered (Dump.encode flavor (s.view.tree flavor options source)), s') ∧
      s'.bare = (s.lookedAt options.collectives).bare := by
  obtain ⟨s', htree, hbare⟩ := dumpTree_eq h flavor options source
  refine ⟨s', ?_, hbare⟩
  rw [dump, htree]

end Session

end RankTrace
