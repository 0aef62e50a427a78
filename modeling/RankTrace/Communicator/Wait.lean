import RankTrace.Communicator.Basic

/-!
# Waiting for initialization

A nonblocking communicator is polled at a fixed interval until the library reports success, until
it fails, or until the deadline has passed. One poll is one step under the lock; between two polls
the lock is free. The last pause is cut short so that the deadline is met exactly.
-/

namespace RankTrace.Communicator

variable {σ : Type}

def pollInterval : Duration := .ofMillis 10

/-- One poll under the lock, `elapsed` after the wait began. `none` means: still in progress. -/
def pollInit (lib : Library σ) (elapsed : Duration) (c : Communicator) (host : Host σ) :
    Option (Except CommError Unit) × Communicator × Host σ :=
  if c.initialized then (some (.ok ()), c, host)
  else
    match c.liveHandle? with
    | none => (some (.error c.abortedError), c, host)
    | some raw =>
      let (answer, host) := host.call lib (.asyncError raw)
      let failed := fun status =>
        (some (.error (host.nativeError lib .initialization status (some raw) c.failureReason)),
          { c with asyncError := status }, host)
      match answer with
      | .ok .success =>
        (some (.ok ()), { c with initialized := true },
          host.emit ⟨.info, target, "communicator initialized",
            [("rank", toString c.rank.toInt), ("comm_id", c.commId),
              ("elapsed_ms", toString elapsed.millis)]⟩)
      | .ok .inProgress => (none, c, host)
      | .ok status => failed status
      | .error status => failed status

def pause (elapsed limit : Duration) : Duration := ⟨min pollInterval.ns (limit.ns - elapsed.ns)⟩

theorem pause_pos {elapsed limit : Duration} (h : ¬ limit.ns ≤ elapsed.ns) :
    0 < (pause elapsed limit).ns := by
  have : 0 < pollInterval.ns := by decide
  simp only [pause]
  omega

def waitFrom (lib : Library σ) (limit elapsed : Duration) (c : Communicator) (host : Host σ) :
    Outcome σ Unit :=
  match pollInit lib elapsed c host with
  | (some result, c, host) => (result, c, host)
  | (none, c, host) =>
    if limit.ns ≤ elapsed.ns then (.error (.timeout .initialization elapsed limit), c, host)
    else
      let rest := pause elapsed limit
      waitFrom lib limit ⟨elapsed.ns + rest.ns⟩ c (host.sleep rest)
termination_by limit.ns - elapsed.ns
decreasing_by
  have := pause_pos ‹_›
  omega

def wait (lib : Library σ) (limit : Duration) (c : Communicator) (host : Host σ) :
    Outcome σ Unit :=
  waitFrom lib limit .zero c host

/-- The first step of asking for the raw handle, under the lock. `none` means that the
initialization has to be waited for. -/
def readyHandle (c : Communicator) : Except CommError (Option RawHandle) :=
  match c.liveHandle with
  | .error e => .error e
  | .ok raw => .ok (if c.initialized || !c.settings.nonblocking then some raw else none)

/-- The raw handle of a usable communicator. One that is still being initialized is waited for,
and looked at again under the lock afterwards. -/
def nativeHandle (lib : Library σ) (c : Communicator) (host : Host σ) : Outcome σ RawHandle :=
  match c.readyHandle with
  | .error e => (.error e, c, host)
  | .ok (some raw) => (.ok raw, c, host)
  | .ok none =>
    match wait lib c.settings.initTimeout c host with
    | (.error e, c, host) => (.error e, c, host)
    | (.ok (), c, host) => (c.liveHandle, c, host)

end RankTrace.Communicator
