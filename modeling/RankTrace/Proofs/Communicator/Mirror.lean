import RankTrace.Proofs.Communicator.Held
import RankTrace.Proofs.Communicator.Life

/-!
# A communicator and the scripted library

The table of segments of a communicator has the pointers that the library holds for its handle, and
every segment handle leads back to its pointer. Operations preserve this under any failures: both
sides change together, and an abort empties both.
-/

namespace RankTrace

open Scripted (Keeps Touches Allots IsScripted segmentMask)

namespace Communicator

/-- The table of a communicator and what the library holds for its handle agree. -/
structure Mirrored (raw : RawHandle) (c : Communicator) (s : Scripted) : Prop where
  coherent : c.Coherent raw
  held : ∃ held, s.pointers? raw = some held ∧ ∀ ptr, ptr ∈ held ↔ ptr ∈ c.segments.map Prod.fst
  undone : ∀ row ∈ c.segments, row.2.val ^^^ segmentMask = row.1

structure Idles (raw : RawHandle) (c : Communicator) (host : Host Scripted) (c' : Communicator)
    (host' : Host Scripted) : Prop where
  coherent : c'.Coherent raw
  segments : c'.segments = c.segments
  keeps : host.library.Keeps host'.library

variable {lib : Library Scripted} {raw : RawHandle} {c c' : Communicator}
  {host host' : Host Scripted} {s s' : Scripted}

theorem Idles.refl (h : c.Coherent raw) (host : Host Scripted) : Idles raw c host c host :=
  ⟨h, rfl, .refl _⟩

theorem Mirrored.congr (h : Mirrored raw c s) (hcoherent : c'.Coherent raw)
    (hsegments : c'.segments = c.segments) (hpointers : s'.pointers? raw = s.pointers? raw) :
    Mirrored raw c' s' where
  coherent := hcoherent
  held := by
    rw [hpointers, hsegments]
    exact h.held
  undone := by
    rw [hsegments]
    exact h.undone

theorem Mirrored.idles (h : Mirrored raw c host.library) (hidles : Idles raw c host c' host') :
    Mirrored raw c' host'.library :=
  h.congr hidles.coherent hidles.segments (hidles.keeps.pointers raw)

theorem Mirrored.knows (h : Mirrored raw c s) : s.Knows raw := by
  obtain ⟨held, hheld, _⟩ := h.held
  rw [Scripted.Knows, hheld]
  rfl

section Asking

variable (hlib : IsScripted lib)
include hlib

theorem keeps_asyncError (raw : RawHandle) (host : Host Scripted) :
    host.library.Keeps (host.call lib (.asyncError raw)).2.library := by
  rw [Host.call_library, hlib.answer_eq (by simp)]
  exact Scripted.keeps_queryError host.library raw

theorem idles_poll (h : c.Coherent raw) (elapsed : Duration) (host : Host Scripted) :
    Idles raw c host (c.pollInit lib elapsed host).2.1 (c.pollInit lib elapsed host).2.2 := by
  obtain ⟨⟨_, hused, _⟩, _⟩ := h.poll lib elapsed host
  refine ⟨hused.coherent h, pollInit_segments lib elapsed c host, ?_⟩
  unfold pollInit
  split
  · exact .refl _
  · split
    · exact .refl _
    · next x _ =>
      have hkeeps := keeps_asyncError hlib x host
      dsimp only
      split <;> exact hkeeps

theorem idles_waitFrom (h : c.Coherent raw) (limit elapsed : Duration) (host : Host Scripted) :
    Idles raw c host (c.waitFrom lib limit elapsed host).2.1
      (c.waitFrom lib limit elapsed host).2.2 := by
  have hpoll := idles_poll hlib h elapsed host
  fun_induction Communicator.waitFrom lib limit elapsed c host with
  | case1 elapsed c host result c' host' hp =>
    rw [hp] at hpoll
    exact hpoll
  | case2 elapsed c host c' host' hp hlimit =>
    rw [hp] at hpoll
    exact hpoll
  | case3 elapsed c host c' host' hp hlimit rest ih =>
    rw [hp] at hpoll
    have hrest := ih hpoll.coherent (idles_poll hlib hpoll.coherent _ _)
    exact ⟨hrest.coherent, hrest.segments.trans hpoll.segments, hpoll.keeps.trans hrest.keeps⟩

theorem idles_handle (h : c.Coherent raw) (host : Host Scripted) :
    Idles raw c host (c.nativeHandle lib host).2.1 (c.nativeHandle lib host).2.2 := by
  unfold nativeHandle
  split
  · exact .refl h host
  · exact .refl h host
  · have hwait := idles_waitFrom hlib h c.settings.initTimeout .zero host
    split <;> next hw =>
      rw [← wait, hw] at hwait
      exact hwait

theorem idles_check (h : c.Coherent raw) (host : Host Scripted) :
    Idles raw c host (c.checkForError lib host).2.1 (c.checkForError lib host).2.2 := by
  obtain ⟨_, hused, _⟩ := h.check lib host
  refine ⟨hused.coherent h, checkForError_segments lib c host, ?_⟩
  unfold checkForError
  split
  · exact .refl _
  · split
    · exact .refl _
    · next x _ =>
      have hkeeps := keeps_asyncError hlib x host
      dsimp only
      split <;> split <;> exact hkeeps

theorem idles_dump (h : c.Coherent raw) (host : Host Scripted) :
    Idles raw c host c (c.nativeDump lib host).2 := by
  refine ⟨h, rfl, ?_⟩
  rw [(c.nativeDump_quiet hlib.quiet host).library]
  exact .refl _

theorem Mirrored.register (h : Mirrored raw c host.library) (ptr size : UInt64) :
    let r := c.register lib ptr size host
    Mirrored raw r.2.1 r.2.2.library ∧ Touches raw host.library r.2.2.library := by
  intro r
  obtain ⟨_, hused, _⟩ := h.coherent.register lib ptr size host
  have hcoherent : r.2.1.Coherent raw := hused.coherent h.coherent
  have hcases := h.coherent.register_cases lib ptr size host
  rw [hlib.answer_eq (by simp)] at hcases
  have hspec := Scripted.register_cases host.library raw ptr size
  rcases hcases with ⟨_, hsame, hlibrary⟩ | ⟨segment, hanswer, _, hadded, hlibrary⟩
  · have hkeeps : host.library.Keeps r.2.2.library := by
      rcases hlibrary with heq | ⟨status, hanswer, heq⟩
      · rw [heq]
        exact .refl _
      · rw [heq]
        rcases hspec with ⟨_, _, hkeeps⟩ | ⟨_, _, hok, _⟩
        · exact hkeeps
        · cases hanswer.symm.trans hok
    exact ⟨h.congr hcoherent (congrArg (·.segments) hsame) (hkeeps.pointers raw),
      hkeeps.touches raw⟩
  · rcases hspec with ⟨_, herror, _⟩ | ⟨held, hheld, hok, htouches, hnow⟩
    · cases hanswer.symm.trans herror
    obtain rfl : segment = ⟨ptr ^^^ segmentMask⟩ := Except.ok.inj (hanswer.symm.trans hok)
    have hsegments : r.2.1.segments = c.segments ++ [(ptr, ⟨ptr ^^^ segmentMask⟩)] :=
      congrArg (·.segments) hadded
    refine ⟨⟨hcoherent, ⟨_, hlibrary ▸ hnow, ?_⟩, ?_⟩, hlibrary ▸ htouches⟩
    · intro x
      obtain ⟨held', hheld', hmem⟩ := h.held
      obtain rfl : held = held' := Option.some.inj (hheld.symm.trans hheld')
      rw [hsegments, List.map_append, List.mem_append, ← hmem, List.mem_cons, List.mem_filter]
      by_cases hx : x = ptr
      · simp [hx]
      · simp [hx]
    · intro row hrow
      rw [hsegments] at hrow
      rcases List.mem_append.mp hrow with hold | hnew
      · exact h.undone row hold
      · rw [List.mem_singleton.mp hnew, UInt64.xor_assoc, UInt64.xor_self, UInt64.xor_zero]

theorem Mirrored.deregister (h : Mirrored raw c host.library)
    (hforced : host.library.forced.deregister ≠ some .success) (ptr : UInt64) :
    let r := c.deregister lib ptr host
    Mirrored raw r.2.1 r.2.2.library ∧ Touches raw host.library r.2.2.library := by
  intro r
  obtain ⟨_, hused, _⟩ := h.coherent.deregister lib ptr host
  have hcoherent : r.2.1.Coherent raw := hused.coherent h.coherent
  have hcases := h.coherent.deregister_cases lib ptr host
  have hanswer (segment : SegmentHandle) :
      lib.answer (.deregisterSegment raw segment) host.library =
        host.library.deregister raw segment := hlib.answer_eq (by simp) _
  simp only [hanswer] at hcases
  rcases hcases with ⟨hsame, hlibrary⟩ | ⟨segment, hrow, hsuccess, hremoved, _, hlibrary⟩
  · have hkeeps : host.library.Keeps r.2.2.library := by
      rcases hlibrary with heq | ⟨segment, hfailed, heq⟩
      · rw [heq]
        exact .refl _
      · rw [heq]
        rcases Scripted.deregister_cases host.library raw segment hforced with
          ⟨_, hkeeps⟩ | ⟨_, _, hok, _⟩
        · exact hkeeps
        · exact absurd hok hfailed
    exact ⟨h.congr hcoherent (congrArg (·.segments) hsame) (hkeeps.pointers raw),
      hkeeps.touches raw⟩
  · rcases Scripted.deregister_cases host.library raw segment hforced with
      ⟨hfailed, _⟩ | ⟨held, hheld, _, htouches, hnow⟩
    · exact absurd hsuccess hfailed
    have hsegments : r.2.1.segments = c.segments.filter (·.1 != ptr) :=
      congrArg (·.segments) hremoved
    have hptr : segment.val ^^^ segmentMask = ptr :=
      h.undone (ptr, segment) (Table.mem_of_lookup hrow)
    rw [hptr] at hnow
    refine ⟨⟨hcoherent, ⟨_, hlibrary ▸ hnow, ?_⟩, ?_⟩, hlibrary ▸ htouches⟩
    · intro x
      obtain ⟨held', hheld', hmem⟩ := h.held
      obtain rfl : held = held' := Option.some.inj (hheld.symm.trans hheld')
      have hkept : (c.segments.filter (·.1 != ptr)).map Prod.fst =
          (c.segments.map Prod.fst).filter (· != ptr) := by
        rw [List.filter_map]
        rfl
      rw [hsegments, hkept, List.mem_filter, List.mem_filter, hmem]
    · intro row hmem
      rw [hsegments] at hmem
      exact h.undone row (List.mem_filter.mp hmem).1

theorem touches_releaseSegments (commId : String) (raw : RawHandle)
    (segments : List (UInt64 × SegmentHandle)) (host : Host Scripted) :
    Touches raw host.library (releaseSegments lib commId raw segments host).library ∧
      (host.library.Knows raw →
        (releaseSegments lib commId raw segments host).library.Knows raw) := by
  induction segments generalizing host with
  | nil => exact ⟨(Keeps.refl _).touches raw, id⟩
  | cons row rest ih =>
    obtain ⟨ptr, segment⟩ := row
    have hcall : (host.call lib (.deregisterSegment raw segment)).2.library =
        (host.library.deregister raw segment).2 := congrArg Prod.snd (hlib.answer_eq (by simp) _)
    have hfirst (host' : Host Scripted)
        (hlibrary : host'.library = (host.library.deregister raw segment).2) :
        Touches raw host.library (releaseSegments lib commId raw rest host').library ∧
          (host.library.Knows raw →
            (releaseSegments lib commId raw rest host').library.Knows raw) := by
      obtain ⟨htouches, hknows⟩ := ih host'
      rw [hlibrary] at htouches hknows
      exact ⟨(Scripted.deregister_touches _ raw segment).trans htouches,
        fun h => hknows (Scripted.deregister_knows h segment)⟩
    simp only [releaseSegments]
    apply hfirst
    split
    · exact hcall
    · exact hcall

theorem nativeAbort_spec (raw : RawHandle) (reason : Option String) (c : Communicator)
    (host : Host Scripted) :
    Touches raw host.library (nativeAbort lib raw reason c host).2.library ∧
      (host.library.Knows raw →
        (nativeAbort lib raw reason c host).2.library.pointers? raw = some []) := by
  let between := (host.call lib (.abort raw)).2
  have hbetween : between.library = (host.library.abort raw).2 :=
    congrArg Prod.snd (hlib.answer_eq (by simp) _)
  obtain ⟨htouches, hempty⟩ := Scripted.abort_spec host.library raw
  rw [← hbetween] at htouches hempty
  have kept {host' : Host Scripted} (hkeeps : between.library.Keeps host'.library) :
      Touches raw host.library host'.library ∧
        (host.library.Knows raw → host'.library.pointers? raw = some []) := by
    refine ⟨htouches.trans (hkeeps.touches raw), fun hknows => ?_⟩
    rw [hkeeps.pointers, hempty hknows]
  unfold nativeAbort
  dsimp only
  split
  · exact kept (.refl _)
  split
  · apply kept
    exact waitForAbortFrom_induction (P := fun h => between.library.Keeps h.library)
      (fun host' h => h.trans (keeps_asyncError hlib raw host')) (fun _ _ h => h) _ _ (.refl _)
  · exact kept (.refl _)

theorem Mirrored.abort (h : Mirrored raw c host.library) (reason : Option String) :
    let r := c.abort lib reason host
    Mirrored raw r.2.1 r.2.2.library ∧ Touches raw host.library r.2.2.library := by
  intro r
  rcases h.coherent.gone_or_live with ⟨ha, _⟩ | ⟨ha, _⟩
  · have hsame : r = (.ok (), c, host) := if_pos ha
    rw [hsame]
    exact ⟨h, (Keeps.refl _).touches raw⟩
  have hcomm : r.2.1 = c.afterAbort reason := (h.coherent.abort ha lib reason host).1
  let released := releaseSegments lib c.commId raw c.segments host
  have hlibrary : r.2.2.library = (nativeAbort lib raw reason c released).2.library := by
    unfold r Communicator.abort
    rw [if_neg (Bool.eq_false_iff.mp ha), h.coherent.live ha]
    rfl
  obtain ⟨hrelease, hknows⟩ := touches_releaseSegments hlib c.commId raw c.segments host
  obtain ⟨habort, hempty⟩ := nativeAbort_spec hlib raw reason c released
  rw [hcomm, hlibrary]
  refine ⟨⟨h.coherent.afterAbort reason, ⟨[], hempty (hknows h.knows), ?_⟩, ?_⟩,
    hrelease.trans habort⟩
  · exact fun ptr => Iff.rfl
  · exact fun row hrow => (List.not_mem_nil hrow).elim

/-- A drop does not touch other handles. -/
theorem touches_drop (h : c.Coherent raw) (host : Host Scripted) :
    Touches raw host.library (c.drop lib host).2.library := by
  have hcall : Touches raw host.library (host.call lib (.abort raw)).2.library := by
    rw [Host.call_library, hlib.answer_eq (by simp)]
    exact (Scripted.abort_spec host.library raw).1
  unfold Communicator.drop
  split
  · exact (Keeps.refl _).touches raw
  · next hdue =>
    have ha : c.aborted = false := by
      cases ha : c.aborted with
      | true => simp [ha] at hdue
      | false => rfl
    rw [h.live ha]
    dsimp only
    split <;> exact hcall

end Asking

/-- The effect of a creation on the library: none if it fails, and otherwise the handle is drawn. -/
def Makes (s s' : Scripted) : Except CommError Communicator → Prop
  | .error _ => s.Keeps s'
  | .ok c => ∃ raw, c.Coherent raw ∧ c.segments = [] ∧ Allots raw s s'

section Making

variable (hlib : IsScripted lib)
include hlib

theorem makes_create (settings : CommSettings) (worldSize rank : Int32) (id : UniqueId)
    (config : InitConfig) (host : Host Scripted) :
    let r := create lib settings worldSize rank id config host
    Makes host.library r.2.library r.1 := by
  intro r
  unfold r create
  split
  · exact Keeps.refl _
  have hcall : lib.answer (.initRank worldSize rank id (effectiveConfig settings config))
      host.library = host.library.initRank (effectiveConfig settings config) :=
    hlib.answer_eq (by simp) _
  have hcases := Scripted.initRank_cases host.library (effectiveConfig settings config)
  rw [← hcall] at hcases
  dsimp only
  split
  · next status hanswer =>
    rcases hcases with ⟨_, _, hkeeps⟩ | ⟨raw, hraw, _⟩
    · exact hkeeps
    · cases hanswer.symm.trans hraw
  · next raw hanswer =>
    rcases hcases with ⟨_, hfailed, _⟩ | ⟨raw', hraw, hallots⟩
    · cases hanswer.symm.trans hfailed
    · obtain rfl : raw = raw' := Except.ok.inj (hanswer.symm.trans hraw)
      exact ⟨raw, coherent_fresh _ _ _ _ raw, rfl, hallots⟩

theorem makes_join (boot : Bootstrap) (settings : CommSettings) (rank : UInt64)
    (config : InitConfig) (host : Host Scripted) :
    let r := boot.join lib settings rank config host
    Makes host.library r.2.library r.1 := by
  intro r
  unfold r Bootstrap.join
  split
  · exact Keeps.refl _
  next worldSize _ =>
  split
  · exact Keeps.refl _
  next rank _ =>
  have hmakes := makes_create hlib settings worldSize rank boot.uniqueId config host
  split <;> next heq =>
    rw [heq] at hmakes
    exact hmakes

theorem splitLocked_cases (x : RawHandle) (color key : Int32) (config : InitConfig)
    (c : Communicator) (host : Host Scripted) :
    let r := splitLocked lib x color key config c host
    (∃ e, r.1 = .error e ∧ host.library.Keeps r.2.library) ∨
      ∃ child, r.1 = .ok child ∧ Allots child host.library r.2.library := by
  intro r
  have hcall : lib.answer (.split x color key (effectiveConfig c.settings config)) host.library =
      host.library.split x (effectiveConfig c.settings config) := hlib.answer_eq (by simp) _
  have hcases := Scripted.split_cases host.library x (effectiveConfig c.settings config)
  rw [← hcall] at hcases
  unfold r splitLocked
  split
  · exact .inl ⟨_, rfl, .refl _⟩
  dsimp only
  split
  · next child hanswer =>
    rcases hcases with ⟨_, hfailed, _⟩ | ⟨raw, hraw, hallots⟩
    · cases hanswer.symm.trans hfailed
    · obtain rfl : child = raw := Except.ok.inj (hanswer.symm.trans hraw)
      exact .inr ⟨child, rfl, hallots⟩
  · next status hanswer =>
    rcases hcases with ⟨_, _, hkeeps⟩ | ⟨raw, hraw, _⟩
    · exact .inl ⟨_, rfl, hkeeps⟩
    · cases hanswer.symm.trans hraw

/-- A split leaves the table of the parent unchanged and draws at most one handle. -/
theorem split_spec (h : c.Coherent raw) (color key : Int32) (config : InitConfig)
    (host : Host Scripted) :
    let r := c.split lib color key config host
    r.2.1.Coherent raw ∧ r.2.1.segments = c.segments ∧ Makes host.library r.2.2.library r.1 := by
  intro r
  have hidles := idles_handle hlib h host
  unfold r Communicator.split
  split
  · next hn =>
    rw [hn] at hidles
    exact ⟨hidles.coherent, hidles.segments, hidles.keeps⟩
  next x c' host' hn =>
  rw [hn] at hidles
  have hcases := splitLocked_cases hlib x color key config c' host'
  split
  · next hs =>
    rw [hs] at hcases
    rcases hcases with ⟨_, _, hkeeps⟩ | ⟨_, hok, _⟩
    · exact ⟨hidles.coherent, hidles.segments, hidles.keeps.trans hkeeps⟩
    · cases hok
  · next hs =>
    rw [hs] at hcases
    rcases hcases with ⟨_, herror, _⟩ | ⟨_, hok, hallots⟩
    · cases herror
    · cases hok
      exact ⟨{ hidles.coherent with }, hidles.segments, _, coherent_fresh _ _ _ _ _, rfl,
        hallots.keeps_trans hidles.keeps⟩

/-- An operation preserves the agreement and draws at most one handle. -/
theorem Mirrored.apply (h : Mirrored raw c host.library)
    (hforced : host.library.forced.deregister ≠ some .success) (operation : CommOperation) :
    let r := operation.apply lib c host
    (Mirrored raw r.1 r.2.library ∧ Touches raw host.library r.2.library) ∨
      ∃ child, r.1.Coherent raw ∧ r.1.segments = c.segments ∧
        Allots child host.library r.2.library := by
  have hidle {c' : Communicator} {host' : Host Scripted} (hidles : Idles raw c host c' host') :
      Mirrored raw c' host'.library ∧ Touches raw host.library host'.library :=
    ⟨h.idles hidles, hidles.keeps.touches raw⟩
  cases operation with
  | wait limit => exact .inl (hidle (idles_waitFrom hlib h.coherent limit .zero host))
  | handle => exact .inl (hidle (idles_handle hlib h.coherent host))
  | split color key config =>
    obtain ⟨hcoherent, hsegments, hmakes⟩ := split_spec hlib h.coherent color key config host
    cases hresult : (c.split lib color key config host).1 with
    | error e =>
      rw [hresult] at hmakes
      exact .inl (hidle ⟨hcoherent, hsegments, hmakes⟩)
    | ok child =>
      rw [hresult] at hmakes
      obtain ⟨x, _, _, hallots⟩ := hmakes
      exact .inr ⟨x, hcoherent, hsegments, hallots⟩
  | abort reason => exact .inl (h.abort hlib reason)
  | check => exact .inl (hidle (idles_check hlib h.coherent host))
  | register ptr size => exact .inl (h.register hlib ptr size)
  | deregister ptr => exact .inl (h.deregister hlib hforced ptr)
  | dump => exact .inl (hidle (idles_dump hlib h.coherent host))
  | explain reason => exact .inl (hidle ⟨{ h.coherent with }, rfl, .refl _⟩)

end Making

end Communicator

end RankTrace
