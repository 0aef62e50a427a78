import RankTrace.Communicator.Segments
import RankTrace.Communicator.Wait

/-!
# Aborting

An abort releases every segment, makes the native abort, and in nonblocking mode polls until the
library has finished or the deadline has passed. Whatever the library answers, the communicator is
aborted afterwards, and a further abort does nothing.
-/

namespace RankTrace.Communicator

variable {σ : Type}

def waitForAbortFrom (lib : Library σ) (raw : RawHandle) (limit elapsed : Duration)
    (host : Host σ) : Except CommError Unit × Host σ :=
  let (answer, host) := host.call lib (.asyncError raw)
  match answer with
  | .ok .inProgress =>
    if limit.ns ≤ elapsed.ns then (.error (.timeout .abort elapsed limit), host)
    else
      let rest := pause elapsed limit
      waitForAbortFrom lib raw limit ⟨elapsed.ns + rest.ns⟩ (host.sleep rest)
  | _ => (.ok (), host)
termination_by limit.ns - elapsed.ns
decreasing_by
  have := pause_pos ‹_›
  omega

def nativeAbort (lib : Library σ) (raw : RawHandle) (reason : Option String) (c : Communicator)
    (host : Host σ) : Except CommError Unit × Host σ :=
  let (status, host) := host.call lib (.abort raw)
  if status.isFailure then
    (.error (host.nativeError lib .abort status (some raw) (reason <|> c.failureReason)), host)
  else if c.settings.nonblocking then
    waitForAbortFrom lib raw c.settings.initTimeout .zero host
  else (.ok (), host)

/-- The state after an abort: no handle, no segments, a failure to report, the reason if one was
given. -/
def afterAbort (c : Communicator) (reason : Option String) : Communicator :=
  { c with
    aborted := true
    raw := none
    segments := []
    failureReason := reason <|> c.failureReason
    asyncError := if c.asyncError.isFailure then c.asyncError else .systemError }

def abort (lib : Library σ) (reason : Option String) (c : Communicator) (host : Host σ) :
    Outcome σ Unit :=
  if c.aborted then (.ok (), c, host)
  else
    match c.raw with
    | none => (.ok (), { c with aborted := true }, host)
    | some raw =>
      let host := releaseSegments lib c.commId raw c.segments host
      let (result, host) := nativeAbort lib raw reason c host
      let c := c.afterAbort reason
      (result, c, host.emit ⟨.warn, target, "communicator aborted",
        [("rank", toString c.rank.toInt), ("comm_id", c.commId),
          ("reason", c.failureReason.getD "unspecified")]⟩)

end RankTrace.Communicator
