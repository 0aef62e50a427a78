import RankTrace.Session.Serving

/-!
# What a request for a dump gets

Parameters are read one after the other, and the first wrong value ends the reading. The result is
stated on the list as a whole: the first wrong value, then whether a name is unknown, and then the
last value for each name.
-/

namespace RankTrace

namespace DumpOptions

def knownNames : Flavor → List String
  | .binary => ["includecollectives", "includestacktraces", "onlyactive"]
  | .text => ["includecollectives", "onlyactive"]

def isInvalid (flavor : Flavor) (param : String × String) : Bool :=
  (knownNames flavor).contains param.1 && param.2 != "true" && param.2 != "false"

def isUnknown (flavor : Flavor) (param : String × String) : Bool :=
  !(knownNames flavor).contains param.1

def lastValue (name : String) (default : Bool) (params : List (String × String)) : Bool :=
  match (params.filter fun param => param.1 = name).getLast? with
  | some (_, raw) => raw = "true"
  | none => default

def given (flavor : Flavor) (params : List (String × String)) (options : DumpOptions) :
    DumpOptions where
  collectives := lastValue "includecollectives" options.collectives params
  stackTraces := match flavor with
    | .binary => lastValue "includestacktraces" options.stackTraces params
    | .text => options.stackTraces
  onlyActive := lastValue "onlyactive" options.onlyActive params

/-- The options that the parameters set. Stacks do not apply to a text dump. -/
def requested (flavor : Flavor) (params : List (String × String)) : DumpOptions where
  collectives := lastValue "includecollectives" true params
  stackTraces := match flavor with
    | .binary => lastValue "includestacktraces" true params
    | .text => false
  onlyActive := lastValue "onlyactive" false params

variable {flavor : Flavor} {flag : DumpFlag} {key raw : String}
  {params : List (String × String)} {options : DumpOptions}

theorem given_ofRequest : given flavor params (ofRequest flavor) = requested flavor params := by
  cases flavor <;> rfl

theorem knownNames_eq : knownNames flavor = (DumpFlag.allowed flavor).map DumpFlag.name := by
  cases flavor <;> rfl

theorem find_some (h : DumpFlag.find? flavor key = some flag) :
    flag ∈ DumpFlag.allowed flavor ∧ flag.name = key := by
  refine ⟨List.mem_of_find?_eq_some h, ?_⟩
  have hname := List.find?_some h
  simpa using hname

theorem known_of_find (h : DumpFlag.find? flavor key = some flag) : key ∈ knownNames flavor := by
  obtain ⟨hallowed, rfl⟩ := find_some h
  rw [knownNames_eq]
  exact List.mem_map_of_mem hallowed

theorem unknown_of_find (h : DumpFlag.find? flavor key = none) : key ∉ knownNames flavor := by
  intro hknown
  rw [knownNames_eq] at hknown
  obtain ⟨flag, hallowed, rfl⟩ := List.mem_map.mp hknown
  simpa using List.find?_eq_none.mp h flag hallowed

theorem isInvalid_unknown (h : DumpFlag.find? flavor key = none) :
    isInvalid flavor (key, raw) = false := by
  simp [isInvalid, unknown_of_find h]

theorem isInvalid_of_value (raw : String) (h : DumpFlag.find? flavor key = some flag) :
    isInvalid flavor (key, raw) = (DumpFlag.value? raw).isNone := by
  unfold DumpFlag.value?
  by_cases htrue : raw = "true"
  · simp [isInvalid, htrue]
  · by_cases hfalse : raw = "false"
    · simp [isInvalid, hfalse]
    · simp [isInvalid, known_of_find h, htrue, hfalse]

theorem value_eq {value : Bool} (h : DumpFlag.value? raw = some value) :
    value = decide (raw = "true") := by
  unfold DumpFlag.value? at h
  by_cases htrue : raw = "true"
  · simpa [htrue] using h.symm
  · by_cases hfalse : raw = "false"
    · simpa [hfalse] using h.symm
    · simp [htrue, hfalse] at h

/-- The first value for a name is the default for the others. -/
theorem lastValue_cons (name : String) (default : Bool) :
    lastValue name default ((key, raw) :: params) =
      lastValue name (if key = name then decide (raw = "true") else default) params := by
  by_cases hkey : key = name
  · rw [lastValue, List.filter_cons_of_pos (by simpa using hkey), List.getLast?_cons, lastValue,
      if_pos hkey]
    cases (params.filter fun param => param.1 = name).getLast? <;> rfl
  · rw [lastValue, List.filter_cons_of_neg (by simpa using hkey), if_neg hkey]
    rfl

theorem given_set (h : flag ∈ DumpFlag.allowed flavor) :
    given flavor ((flag.name, raw) :: params) options =
      given flavor params (flag.set (decide (raw = "true")) options) := by
  cases flavor with
  | binary => cases flag <;> simp [given, lastValue_cons, DumpFlag.name, DumpFlag.set]
  | text =>
    cases flag with
    | stackTraces => simp [DumpFlag.allowed] at h
    | collectives | onlyActive => simp [given, lastValue_cons, DumpFlag.name, DumpFlag.set]

/-- The first wrong value ends the reading, regardless of what precedes it. -/
theorem applyParams_invalid (unknown : Bool) (options : DumpOptions)
    (h : params.find? (isInvalid flavor) = some (key, raw)) :
    ∃ flag : DumpFlag, flag.name = key ∧
      applyParams flavor unknown params options = .error (.invalidValue flag) := by
  induction params generalizing unknown options with
  | nil => cases h
  | cons param rest ih =>
    obtain ⟨name, value⟩ := param
    cases hflag : DumpFlag.find? flavor name with
    | none =>
      rw [List.find?_cons_of_neg (by simp [isInvalid_unknown hflag])] at h
      simpa only [applyParams, hflag] using ih true options h
    | some flag =>
      have hinvalid := isInvalid_of_value value hflag
      cases hvalue : DumpFlag.value? value with
      | none =>
        rw [List.find?_cons_of_pos (by simp [hinvalid, hvalue])] at h
        cases h
        exact ⟨flag, (find_some hflag).2, by simp only [applyParams, hflag, hvalue]⟩
      | some b =>
        rw [List.find?_cons_of_neg (by simp [hinvalid, hvalue])] at h
        simpa only [applyParams, hflag, hvalue] using ih unknown _ h

/-- Without a wrong value all parameters are read, and unknown names are refused at the end. -/
theorem applyParams_valid (unknown : Bool) (h : params.find? (isInvalid flavor) = none) :
    applyParams flavor unknown params options =
      if unknown || params.any (isUnknown flavor) then .error .unexpectedParameter
      else .ok (given flavor params options) := by
  induction params generalizing unknown options with
  | nil => cases flavor <;> cases unknown <;> rfl
  | cons param rest ih =>
    obtain ⟨name, value⟩ := param
    have hrest : rest.find? (isInvalid flavor) = none := by
      rw [List.find?_eq_none] at h ⊢
      exact fun p hp => h p (List.mem_cons_of_mem _ hp)
    cases hflag : DumpFlag.find? flavor name with
    | none =>
      have hunknown : isUnknown flavor (name, value) = true := by
        simp [isUnknown, unknown_of_find hflag]
      simp only [applyParams, hflag, ih true hrest, List.any_cons, hunknown, Bool.true_or,
        Bool.or_true, ↓reduceIte]
    | some flag =>
      have hknown : isUnknown flavor (name, value) = false := by
        simp [isUnknown, known_of_find hflag]
      obtain ⟨hallowed, rfl⟩ := find_some hflag
      cases hvalue : DumpFlag.value? value with
      | none =>
        have hinvalid := isInvalid_of_value value hflag
        rw [List.find?_cons_of_pos (by simp [hinvalid, hvalue])] at h
        cases h
      | some b =>
        obtain rfl := value_eq hvalue
        simp only [applyParams, hflag, hvalue, ih unknown hrest, List.any_cons, hknown,
          Bool.false_or, given_set hallowed]

theorem any_isUnknown : params.any (isUnknown flavor) = true ↔
    ∃ param ∈ params, param.1 ∉ knownNames flavor := by
  simp [isUnknown]

end DumpOptions

def Reply.status? : Reply Response → Option Nat
  | answered response => some response.status
  | unwound => none

namespace Control

open DumpOptions

def badRequest (why : String) : Response where
  status := 400
  contentType := some "text/plain"
  body := Utf8.bytes why

variable {σ : Type} {flavor : Flavor} {key raw : String} {params : List (String × String)}

theorem handler_handlerName (flavor : Flavor) : handler? (handlerName flavor) = some flavor := by
  cases flavor <;> rfl

theorem handler_eq_none {name : String} :
    handler? name = none ↔ name ≠ "dump_fr_trace_msgpack" ∧ name ≠ "dump_fr_trace_json" := by
  unfold handler?
  constructor
  · intro h
    constructor
    · rintro rfl
      cases h
    · rintro rfl
      cases h
  · intro ⟨hbinary, htext⟩
    exact (if_neg hbinary).trans (if_neg htext)

def dumped (service : DumpService σ) (flavor : Flavor) (options : DumpOptions) (s : σ) :
    Reply Response × σ :=
  match service.dump flavor options s with
  | (.answered body, s) =>
    (.answered { status := 200, contentType := some (contentType flavor), body }, s)
  | (.unwound, s) => (.unwound, s)

theorem status_of_dumped {service : DumpService σ} {options : DumpOptions} {s : σ}
    {response : Response} (h : (dumped service flavor options s).1 = .answered response) :
    response.status = 200 := by
  unfold dumped at h
  split at h
  · cases h
    rfl
  · cases h

section Handler

variable (service : DumpService σ) (s : σ)

theorem dispatch_some {name : String} (h : handler? name = some flavor) :
    dispatch service name params s = handle service flavor params s := by
  rw [dispatch, h]

theorem dispatch_none {name : String} (h : handler? name = none) :
    dispatch service name params s = (.answered (refusal (.unknownHandler name)), s) := by
  rw [dispatch, h]

theorem handle_invalid (h : params.find? (isInvalid flavor) = some (key, raw)) :
    handle service flavor params s = (.answered (badRequest
      s!"Invalid value for {key} valid values are true or false"), s) := by
  obtain ⟨flag, rfl, hfault⟩ := applyParams_invalid false (ofRequest flavor) h
  rw [handle, ofParams, hfault]
  rfl

theorem handle_unexpected (h : params.find? (isInvalid flavor) = none)
    (hunknown : ∃ param ∈ params, param.1 ∉ knownNames flavor) :
    handle service flavor params s = (.answered (badRequest
      "Invalid parameters - unexpected param passed in"), s) := by
  rw [handle, ofParams, applyParams_valid false h, any_isUnknown.mpr hunknown]
  rfl

theorem handle_dumped (h : params.find? (isInvalid flavor) = none)
    (hknown : ¬ ∃ param ∈ params, param.1 ∉ knownNames flavor) :
    handle service flavor params s = dumped service flavor (requested flavor params) s := by
  have hnone : params.any (isUnknown flavor) = false := by
    rw [← Bool.not_eq_true, any_isUnknown]
    exact hknown
  rw [handle, ofParams, applyParams_valid false h, hnone, given_ofRequest]
  rfl

/-- A request is refused without a use of the service, or gets a dump. -/
theorem refused_or_dumped (flavor : Flavor) (params : List (String × String)) :
    (∃ response, response.status = 400 ∧ ∀ service : DumpService σ,
      handle service flavor params s = (.answered response, s)) ∨
    ∀ service : DumpService σ,
      handle service flavor params s = dumped service flavor (requested flavor params) s := by
  cases hinvalid : params.find? (isInvalid flavor) with
  | some param => exact .inl ⟨_, rfl, fun service => handle_invalid service s hinvalid⟩
  | none =>
    by_cases hunknown : ∃ param ∈ params, param.1 ∉ knownNames flavor
    · exact .inl ⟨_, rfl, fun service => handle_unexpected service s hinvalid hunknown⟩
    · exact .inr fun service => handle_dumped service s hinvalid hunknown

theorem status_handle : (handle service flavor params s).1.status? ≠ some 404 := by
  rcases refused_or_dumped s flavor params with ⟨response, hstatus, hrefused⟩ | hdumped
  · rw [hrefused service, Reply.status?, hstatus]
    decide
  · rw [hdumped service]
    cases hreply : (dumped service flavor (requested flavor params) s).1 with
    | answered response =>
      rw [Reply.status?, status_of_dumped hreply]
      decide
    | unwound => decide

theorem unknown_of_unexpected (h : params.find? (isInvalid flavor) = none)
    (hanswered : (handle service flavor params s).1 =
      .answered (badRequest "Invalid parameters - unexpected param passed in")) :
    ∃ param ∈ params, param.1 ∉ knownNames flavor := by
  by_cases hunknown : ∃ param ∈ params, param.1 ∉ knownNames flavor
  · exact hunknown
  · rw [handle_dumped service s h hunknown] at hanswered
    cases status_of_dumped hanswered

/-- A response other than a dump leaves the state unchanged and does not depend on the service. -/
theorem unnoticed_handle {response : Response}
    (hanswered : (handle service flavor params s).1 = .answered response)
    (hstatus : response.status ≠ 200) :
    (handle service flavor params s).2 = s ∧ ∀ other : DumpService σ,
      handle other flavor params s = handle service flavor params s := by
  rcases refused_or_dumped s flavor params with ⟨refused, _, hrefused⟩ | hdumped
  · refine ⟨by rw [hrefused service], fun other => ?_⟩
    rw [hrefused other, hrefused service]
  · rw [hdumped service] at hanswered
    exact absurd (status_of_dumped hanswered) hstatus

end Handler

/-- The first known name with a wrong value is refused, also behind an unknown name; then any
unknown name; otherwise the request gets the dump with the last value of every flag, or its default.
Any response but a dump leaves the state unchanged and does not depend on the service. -/
theorem dispatch_contract (service : DumpService σ) (name : String)
    (params : List (String × String)) (s : σ) :
    let served := dispatch service name params s
    (served.1.status? = some 404 ↔
      name ≠ "dump_fr_trace_msgpack" ∧ name ≠ "dump_fr_trace_json") ∧
    (∀ flavor, name = handlerName flavor →
      match params.find? (isInvalid flavor) with
      | some (key, _) => served = (.answered (badRequest
          s!"Invalid value for {key} valid values are true or false"), s)
      | none =>
        (served.1 = .answered (badRequest "Invalid parameters - unexpected param passed in") ↔
          ∃ param ∈ params, param.1 ∉ knownNames flavor) ∧
        ((∀ param ∈ params, param.1 ∈ knownNames flavor) →
          served = dumped service flavor (requested flavor params) s)) ∧
    (∀ response, served.1 = .answered response → response.status ≠ 200 →
      served.2 = s ∧ ∀ other : DumpService σ, dispatch other name params s = served) := by
  intro served
  refine ⟨?_, ?_, ?_⟩
  · rw [← handler_eq_none]
    cases hhandler : handler? name with
    | none => simp [served, dispatch_none service s hhandler, Reply.status?, refusal]
    | some flavor => simp [served, dispatch_some service s hhandler, status_handle]
  · rintro flavor rfl
    have hserved : served = handle service flavor params s :=
      dispatch_some service s (handler_handlerName flavor)
    rw [hserved]
    split
    · next key raw hinvalid => exact handle_invalid service s hinvalid
    · next hinvalid =>
      refine ⟨⟨unknown_of_unexpected service s hinvalid, ?_⟩, ?_⟩
      · intro hunknown
        rw [handle_unexpected service s hinvalid hunknown]
      · intro hknown
        apply handle_dumped service s hinvalid
        rintro ⟨param, hparam, hunknown⟩
        exact hunknown (hknown param hparam)
  · intro response hanswered hstatus
    cases hhandler : handler? name with
    | none =>
      refine ⟨?_, fun other => ?_⟩
      · simp only [served, dispatch_none service s hhandler]
      · simp only [served, dispatch_none _ s hhandler]
    | some flavor =>
      simp only [served, dispatch_some _ s hhandler] at hanswered ⊢
      exact unnoticed_handle service s hanswered hstatus

/-- An operation that has completed, and that no dump has polled. -/
def endedSession : Session :=
  let op : Issued := { group := ⟨"0", "default"⟩, status := ⟨0⟩, name := "send", stop := some ⟨0⟩ }
  let s := (Session.start {} true "/tmp").replaceRecorder 1 false
  (((s.addMarker "stop" (.host none)).record op 1).2).fire ⟨0⟩

/-- The first request has a wrong value behind an unknown name. The last value of the second one
asks for all entries, and its dump lists the operation as completed. That of the third one asks for
active entries only, and its dump lists none. -/
theorem dispatch_contract_endedSession :
    let request := fun params => endedSession.runHandler "dump_fr_trace_json" params .absent
    let refused := request [("rank", "1"), ("onlyactive", "True")]
    let all := request
      [("onlyactive", "true"), ("includecollectives", "true"), ("onlyactive", "false")]
    let active := request [("onlyactive", "false"), ("onlyactive", "true")]
    let lists := fun (served : Reply Response × Session) (states : List String) => ∃ tree items,
      served.1 = .answered ⟨200, some (contentType .text), none, Dump.encode .text tree⟩ ∧
      tree.get? "entries" = some (.list items) ∧
      items.map (·.get? "state") = states.map fun state => some (.str state)
    refused = (.answered (badRequest
      "Invalid value for onlyactive valid values are true or false"), endedSession) ∧
    all = dumped (Session.dumpService .absent) .text { stackTraces := false } endedSession ∧
    lists all ["completed"] ∧ lists active [] ∧
    refused.2.tracer.recorder.slots.map (·.completed) = [none] ∧
    all.2.tracer.recorder.slots.map (·.completed) = [some 1700000000000000000] := by
  intro request refused all active lists
  have hrefused := (dispatch_contract (Session.dumpService .absent) "dump_fr_trace_json"
    [("rank", "1"), ("onlyactive", "True")] endedSession).2.1 .text rfl
  have hall := ((dispatch_contract (Session.dumpService .absent) "dump_fr_trace_json"
    [("onlyactive", "true"), ("includecollectives", "true"), ("onlyactive", "false")]
    endedSession).2.1 .text rfl).2 (by decide)
  have hactive := ((dispatch_contract (Session.dumpService .absent) "dump_fr_trace_json"
    [("onlyactive", "false"), ("onlyactive", "true")] endedSession).2.1 .text rfl).2 (by decide)
  exact ⟨hrefused, hall, ⟨_, _, congrArg Prod.fst hall, rfl, rfl⟩,
    ⟨_, _, congrArg Prod.fst hactive, rfl, rfl⟩, rfl, rfl⟩

end Control

end RankTrace
