import RankTrace.Proofs.Session.Views

/-!
# Looks

Every way in which a dump leaves a session, with its answer. The answer is a function of the view,
and views that differ in the values of stamps have answers that differ in these values only.
-/

namespace RankTrace

namespace Control

variable {σ : Type}

def replied (dumped : Flavor → DumpOptions → List UInt8) (name : String)
    (params : List (String × String)) : Response :=
  match handler? name with
  | none => refusal (.unknownHandler name)
  | some flavor =>
    match DumpOptions.ofParams flavor params with
    | .error fault => refusal fault
    | .ok options =>
      { status := 200, contentType := some (contentType flavor), body := dumped flavor options }

def polls (name : String) (params : List (String × String)) : Bool :=
  match (handler? name).map fun flavor => DumpOptions.ofParams flavor params with
  | some (.ok options) => options.collectives
  | _ => false

def routed (dumped : Flavor → DumpOptions → List UInt8) (method : Method)
    (target : RequestTarget) : Response :=
  let response := match route method target.path with
    | .missing => missing
    | .methodNotAllowed => methodNotAllowed
    | .badName => badName
    | .handler name => replied dumped name (Form.fields target.query)
  if method = .head then { response with body := [] } else response

def routePolls (method : Method) (target : RequestTarget) : Bool :=
  match route method target.path with
  | .handler name => polls name (Form.fields target.query)
  | _ => false

variable {service : DumpService σ} {dumped : Flavor → DumpOptions → List UInt8}
  {left : Bool → σ → Prop}

theorem dispatch_eq {s : σ} (hleft : left false s)
    (hdump : ∀ flavor options, ∃ s', service.dump flavor options s =
      (.answered (dumped flavor options), s') ∧ left options.collectives s')
    (name : String) (params : List (String × String)) :
    ∃ s', dispatch service name params s = (.answered (replied dumped name params), s') ∧
      left (polls name params) s' := by
  cases hhandler : handler? name with
  | none => exact ⟨s, by simp only [dispatch, replied, hhandler], by simpa [polls, hhandler]⟩
  | some flavor =>
    cases hparams : DumpOptions.ofParams flavor params with
    | error fault =>
      refine ⟨s, ?_, by simpa [polls, hhandler, hparams]⟩
      simp only [dispatch, handle, replied, hhandler, hparams]
    | ok options =>
      obtain ⟨s', heq, hleft'⟩ := hdump flavor options
      refine ⟨s', ?_, by simpa [polls, hhandler, hparams]⟩
      simp only [dispatch, handle, replied, hhandler, hparams, heq]

theorem answer_eq {s : σ} (hleft : ∀ event, left false s ∧ left false (service.emit event s))
    (hdump : ∀ event flavor options, ∃ s', service.dump flavor options (service.emit event s) =
      (.answered (dumped flavor options), s') ∧ left options.collectives s')
    (task : Nat) (method : Method) (target : RequestTarget) :
    ∃ s', answer service task method target s = (routed dumped method target, s') ∧
      left (routePolls method target) s' := by
  have hstay : left false s := (hleft ⟨.debug, "", "", []⟩).1
  unfold answer routed routePolls
  cases route method target.path with
  | missing => exact ⟨s, rfl, hstay⟩
  | methodNotAllowed => exact ⟨s, rfl, hstay⟩
  | badName => exact ⟨s, rfl, hstay⟩
  | handler name =>
    dsimp only
    generalize LogEvent.mk _ _ _ _ = event
    obtain ⟨s', heq, hleft'⟩ := dispatch_eq (hleft event).2 (hdump event) name
      (Form.fields target.query)
    rw [heq]
    exact ⟨s', rfl, hleft'⟩

variable {dumped' : Flavor → DumpOptions → List UInt8} {name : String}
  {params : List (String × String)} {method : Method} {target : RequestTarget}

theorem replied_congr (hpolls : polls name params = false)
    (h : ∀ flavor options, options.collectives = false →
      dumped flavor options = dumped' flavor options) :
    replied dumped name params = replied dumped' name params := by
  cases hhandler : handler? name with
  | none => simp only [replied, hhandler]
  | some flavor =>
    cases hparams : DumpOptions.ofParams flavor params with
    | error fault => simp only [replied, hhandler, hparams]
    | ok options =>
      have hnone : options.collectives = false := by simpa [polls, hhandler, hparams] using hpolls
      simp only [replied, hhandler, hparams, h flavor options hnone]

theorem routed_congr (hpolls : routePolls method target = false)
    (h : ∀ flavor options, options.collectives = false →
      dumped flavor options = dumped' flavor options) :
    routed dumped method target = routed dumped' method target := by
  cases hroute : route method target.path with
  | missing | methodNotAllowed | badName => simp only [routed, hroute]
  | handler name =>
    have hnone : polls name (Form.fields target.query) = false := by
      simpa [routePolls, hroute] using hpolls
    simp only [routed, hroute, replied_congr hnone h]

end Control

inductive Response.Like : Response → Response → Prop
  | same (r : Response) : Like r r
  | dump (r : Response) (flavor : Flavor) {v v' : Value} (h : v.hideTimes = v'.hideTimes) :
    Like { r with body := Dump.encode flavor v } { r with body := Dump.encode flavor v' }

theorem Response.Like.withoutBody {r r' : Response} (h : r.Like r') :
    Response.Like { r with body := [] } { r' with body := [] } := by
  cases h with
  | same r => exact .same _
  | dump r => exact .same { r with body := [] }

namespace Control

variable {trees trees' : Flavor → DumpOptions → Value}

theorem replied_like (h : ∀ flavor options,
      (trees flavor options).hideTimes = (trees' flavor options).hideTimes)
    (name : String) (params : List (String × String)) :
    (replied (fun flavor options => Dump.encode flavor (trees flavor options)) name params).Like
      (replied (fun flavor options => Dump.encode flavor (trees' flavor options)) name params) := by
  unfold replied
  split
  · exact .same _
  · next flavor _ =>
    split
    · exact .same _
    · next options _ =>
      exact .dump { status := 200, contentType := some (contentType flavor) } flavor
        (h flavor options)

theorem routed_like (h : ∀ flavor options,
      (trees flavor options).hideTimes = (trees' flavor options).hideTimes)
    (method : Method) (target : RequestTarget) :
    (routed (fun flavor options => Dump.encode flavor (trees flavor options)) method target).Like
      (routed (fun flavor options => Dump.encode flavor (trees' flavor options)) method
        target) := by
  unfold routed
  cases route method target.path with
  | missing | methodNotAllowed | badName => exact .same _
  | handler name =>
    have hreplied := replied_like h name (Form.fields target.query)
    by_cases hhead : method = .head
    · simp only [hhead, ↓reduceIte]
      exact hreplied.withoutBody
    · simp only [hhead, ↓reduceIte]
      exact hreplied

end Control

namespace Directory

/-- The file of a path, inside any directory. -/
theorem locate_congr (d d' : Directory) (relative name : String)
    (h : d.locate relative = .ok name) : d'.locate relative = .ok name := by
  unfold locate at h ⊢
  split at h
  · cases h
  · next hnul =>
    rw [if_neg hnul]
    split at h
    · exact h
    · split at h
      · cases h
      · split at h <;> cases h
    · cases h

end Directory

namespace Writer

def arrives : Writer → Bool
  | memory _ => true
  | file relative => (Directory.locate { path := "" } relative).isOk

end Writer

def Outlet.last? (w : Writer) (o : Outlet) : Option (List UInt8) :=
  match w with
  | .memory name => (o.payloads name).getLast?
  | .file relative => o.directory.read? relative

/-- A written payload is the last one, unless the path names no file. -/
theorem Outlet.last_write (w : Writer) (payload : List UInt8) (o : Outlet) :
    (o.write w payload).2.last? w = if w.arrives then some payload else none := by
  cases w with
  | memory name => simp [write, last?, payloads, Writer.arrives]
  | file relative =>
    have hcongr (d d' : Directory) := Directory.locate_congr d d' relative
    cases hd : o.directory.locate relative with
    | ok name =>
      have harrives : (Writer.file relative).arrives = true := by
        simp [Writer.arrives, hcongr o.directory { path := "" } name hd, Except.isOk, Except.toBool]
      have hkept (files : List (String × List UInt8)) :
          Directory.locate ⟨o.directory.path, files⟩ relative = .ok name := hcongr _ _ name hd
      simp only [write, Directory.write, hd, last?, Directory.read?, hkept, harrives, ↓reduceIte,
        List.lookup_cons, beq_self_eq_true]
    | error fault =>
      have harrives : (Writer.file relative).arrives = false := by
        cases hempty : Directory.locate { path := "" } relative with
        | ok name =>
          rw [hcongr { path := "" } o.directory name hempty] at hd
          cases hd
        | error fault => simp [Writer.arrives, hempty, Except.isOk, Except.toBool]
      simp [write, Directory.write, hd, last?, Directory.read?, harrives]

namespace Session

inductive Look
  | entries
  | tree (flavor : Flavor) (options : DumpOptions) (source : NativeSource)
  | bytes (flavor : Flavor) (options : DumpOptions) (source : NativeSource)
  | handler (name : String) (params : List (String × String)) (source : NativeSource)
  | request (method target : String) (source : NativeSource)
  | debugInfo (w : Writer) (source : NativeSource)

/-- What a look gives. Of debug info this is what the writer has at last. -/
inductive Sight
  | entries (reply : Reply (List Entry))
  | tree (reply : Reply Value)
  | bytes (reply : Reply (List UInt8))
  | response (reply : Reply Response)
  | requested (response : Except RequestLineFault Response)
  | delivered (reply : Reply Unit) (payload : Option (List UInt8))

def look (s : Session) : Look → Sight × Session
  | .entries =>
    let (reply, s) := s.withTracer Tracer.snapshot
    (.entries reply, s)
  | .tree flavor options source =>
    let (reply, s) := s.dumpTree flavor options source
    (.tree reply, s)
  | .bytes flavor options source =>
    let (reply, s) := s.dump source flavor options
    (.bytes reply, s)
  | .handler name params source =>
    let (reply, s) := s.runHandler name params source
    (.response reply, s)
  | .request method target source =>
    let (response, s) := s.request method target source
    (.requested response, s)
  | .debugInfo w source =>
    let (reply, s) := s.dumpDebugInfo w source
    (.delivered reply (s.outlet.last? w), s)

/-- Whether a look polls the entries, which it does if it shows them. -/
def Look.polls : Look → Bool
  | entries => true
  | tree _ options _ | bytes _ options _ => options.collectives
  | handler name params _ => Control.polls name params
  | request method target _ =>
    match Method.ofName method, RequestTarget.parse target with
    | .ok method, .ok target => Control.routePolls method target
    | _, _ => false
  | debugInfo .. => true

def View.bytes (source : NativeSource) (v : View) (flavor : Flavor) (options : DumpOptions) :
    List UInt8 :=
  Dump.encode flavor (v.tree flavor options source)

def Look.sight (v : View) : Look → Sight
  | entries => .entries (.answered v.entries)
  | tree flavor options source => .tree (.answered (v.tree flavor options source))
  | bytes flavor options source => .bytes (.answered (v.bytes source flavor options))
  | handler name params source =>
    .response (.answered (Control.replied (v.bytes source) name params))
  | request method target source =>
    .requested (match Method.ofName method, RequestTarget.parse target with
      | .error fault, _ => .error fault
      | .ok _, .error fault => .error fault
      | .ok method, .ok target => .ok (Control.routed (v.bytes source) method target))
  | debugInfo w source =>
    .delivered (.answered ()) (if w.arrives then some (v.bytes source .binary {}) else none)

variable {s s' : Session}

theorem outlet_emitOption (event : Option LogEvent) (s : Session) :
    (s.emitOption event).outlet = s.outlet := by
  cases event <;> rfl

theorem outlet_write (w : Writer) (payload : List UInt8) (s : Session) :
    (s.write w payload).outlet = (s.outlet.write w payload).2 :=
  outlet_emitOption _ _

theorem bare_write (w : Writer) (payload : List UInt8) (s : Session) :
    (s.write w payload).bare = s.bare :=
  (bare_emitOption _ _).trans rfl

theorem look_eq (h : s.Hosted) (l : Look) : ∃ s', s.look l = (l.sight s.view, s') ∧
    s'.bare = (s.lookedAt l.polls).bare := by
  cases l with
  | entries =>
    refine ⟨s.polled, ?_, rfl⟩
    simp only [look, snapshot_eq h]
    rfl
  | tree flavor options source =>
    obtain ⟨s', heq, hbare⟩ := dumpTree_eq h flavor options source
    refine ⟨s', ?_, hbare⟩
    simp only [look, heq]
    rfl
  | bytes flavor options source =>
    obtain ⟨s', heq, hbare⟩ := dump_eq h source flavor options
    refine ⟨s', ?_, hbare⟩
    simp only [look, heq]
    rfl
  | handler name params source =>
    obtain ⟨s', heq, hbare⟩ := @Control.dispatch_eq Session (dumpService source)
      (s.view.bytes source) (fun polls s' => s'.bare = (s.lookedAt polls).bare) s rfl
      (dump_eq h source) name params
    refine ⟨s', ?_, hbare⟩
    simp only [look, runHandler, heq]
    rfl
  | request method target source =>
    cases hmethod : Method.ofName method with
    | error fault =>
      refine ⟨s, ?_, ?_⟩
      · simp only [look, request, Look.sight, hmethod]
      · simp only [Look.polls, hmethod]
        rfl
    | ok m =>
      cases htarget : RequestTarget.parse target with
      | error fault =>
        refine ⟨s, ?_, ?_⟩
        · simp only [look, request, Look.sight, hmethod, htarget]
        · simp only [Look.polls, hmethod, htarget]
          rfl
      | ok t =>
        let next : Session := { s with tasks := s.tasks + 1 }
        have hdump (event : LogEvent) (flavor : Flavor) (options : DumpOptions) :
            ∃ s', (next.emit event).dump source flavor options =
              (.answered (s.view.bytes source flavor options), s') ∧
              s'.bare = (s.lookedAt options.collectives).bare := by
          have hbare : (next.emit event).bare = s.bare := rfl
          obtain ⟨s', heq, hlooked⟩ := dump_eq (hosted_of_bare hbare h) source flavor options
          rw [view_of_bare hbare] at heq
          exact ⟨s', heq, hlooked.trans (lookedAt_of_bare hbare _)⟩
        obtain ⟨s', heq, hbare⟩ := @Control.answer_eq Session (dumpService source)
          (s.view.bytes source) (fun polls s' => s'.bare = (s.lookedAt polls).bare) next
          (fun _ => ⟨rfl, rfl⟩) hdump next.tasks m t
        refine ⟨s', ?_, ?_⟩
        · simp only [look, request, Look.sight, hmethod, htarget]
          rw [heq]
        · simp only [Look.polls, hmethod, htarget]
          exact hbare
  | debugInfo w source =>
    obtain ⟨s', heq, hbare⟩ := dump_eq h source .binary {}
    refine ⟨(s.look (.debugInfo w source)).2, Prod.ext ?_ rfl, ?_⟩
    · simp only [look, dumpDebugInfo, heq, outlet_write, Outlet.last_write]
      rfl
    · simp only [look, dumpDebugInfo, heq, bare_write]
      exact hbare

/-- What two looks give, apart from the times of discovery in it. Both have answered. -/
inductive Sight.Like : Sight → Sight → Prop
  | entries {es es' : List Entry} (h : es.map Entry.hideTimes = es'.map Entry.hideTimes) :
    Like (.entries (.answered es)) (.entries (.answered es'))
  | tree {v v' : Value} (h : v.hideTimes = v'.hideTimes) :
    Like (.tree (.answered v)) (.tree (.answered v'))
  | bytes (flavor : Flavor) {v v' : Value} (h : v.hideTimes = v'.hideTimes) :
    Like (.bytes (.answered (Dump.encode flavor v))) (.bytes (.answered (Dump.encode flavor v')))
  | response {r r' : Response} (h : r.Like r') :
    Like (.response (.answered r)) (.response (.answered r'))
  | refused (fault : RequestLineFault) :
    Like (.requested (.error fault)) (.requested (.error fault))
  | requested {r r' : Response} (h : r.Like r') : Like (.requested (.ok r)) (.requested (.ok r'))
  | undelivered : Like (.delivered (.answered ()) none) (.delivered (.answered ()) none)
  | delivered {v v' : Value} (h : v.hideTimes = v'.hideTimes) :
    Like (.delivered (.answered ()) (some (Dump.encode .binary v)))
      (.delivered (.answered ()) (some (Dump.encode .binary v')))

def View.hideTimes (v : View) : View := { v with entries := v.entries.map Entry.hideTimes }

variable {v v' : View}

theorem View.hideTimes_tree (flavor : Flavor) (options : DumpOptions) (source : NativeSource)
    (v : View) : (v.tree flavor options source).hideTimes =
      v.hideTimes.tree flavor options source := by
  rw [View.tree, Dump.hideTimes_tree]
  cases h : options.collectives <;> simp only [View.tree, Reading.hideTimes, h] <;> rfl

theorem sight_like (h : v.hideTimes = v'.hideTimes) (l : Look) :
    (l.sight v).Like (l.sight v') := by
  have htree (flavor : Flavor) (options : DumpOptions) (source : NativeSource) :
      (v.tree flavor options source).hideTimes = (v'.tree flavor options source).hideTimes := by
    rw [View.hideTimes_tree, View.hideTimes_tree, h]
  cases l with
  | entries => exact .entries (congrArg View.entries h)
  | tree flavor options source => exact .tree (htree flavor options source)
  | bytes flavor options source => exact .bytes flavor (htree flavor options source)
  | handler name params source =>
    exact .response (Control.replied_like (fun flavor options => htree flavor options source) name
      params)
  | request method target source =>
    cases hmethod : Method.ofName method with
    | error fault =>
      simp only [Look.sight, hmethod]
      exact .refused fault
    | ok m =>
      cases htarget : RequestTarget.parse target with
      | error fault =>
        simp only [Look.sight, hmethod, htarget]
        exact .refused fault
      | ok t =>
        simp only [Look.sight, hmethod, htarget]
        exact .requested
          (Control.routed_like (fun flavor options => htree flavor options source) m t)
  | debugInfo w source =>
    cases harrives : w.arrives with
    | true =>
      simp only [Look.sight, harrives, ↓reduceIte]
      exact .delivered (htree .binary {} source)
    | false =>
      simp only [Look.sight, harrives]
      exact .undelivered

/-- A look that does not poll is independent of the entries. -/
theorem sight_of_not_polls {l : Look} (hpolls : l.polls = false) (v : View)
    (entries : List Entry) : l.sight { v with entries } = l.sight v := by
  have htree (source : NativeSource) (flavor : Flavor) (options : DumpOptions)
      (hnone : options.collectives = false) :
      View.tree flavor options source { v with entries } = v.tree flavor options source := by
    simp only [View.tree, hnone]
    rfl
  have hbytes (source : NativeSource) (flavor : Flavor) (options : DumpOptions)
      (hnone : options.collectives = false) :
      View.bytes source { v with entries } flavor options = v.bytes source flavor options := by
    rw [View.bytes, View.bytes, htree source flavor options hnone]
  cases l with
  | entries => cases hpolls
  | tree flavor options source =>
    simp only [Look.sight, htree source flavor options hpolls]
  | bytes flavor options source =>
    simp only [Look.sight, hbytes source flavor options hpolls]
  | handler name params source =>
    simp only [Look.sight, Control.replied_congr hpolls (hbytes source)]
  | request method target source =>
    cases hmethod : Method.ofName method with
    | error fault => simp only [Look.sight, hmethod]
    | ok m =>
      cases htarget : RequestTarget.parse target with
      | error fault => simp only [Look.sight, hmethod, htarget]
      | ok t =>
        have hnone : Control.routePolls m t = false := by
          simpa only [Look.polls, hmethod, htarget] using hpolls
        simp only [Look.sight, hmethod, htarget, Control.routed_congr hnone (hbytes source)]
  | debugInfo w source => cases hpolls

end Session

end RankTrace
