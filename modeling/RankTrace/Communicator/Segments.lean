import RankTrace.Communicator.Basic

/-!
# Registered memory segments

A pointer is registered at most once at a time. The table changes only after the library has
agreed, so a segment whose release failed stays registered.
-/

namespace RankTrace.Communicator

variable {σ : Type}

def register (lib : Library σ) (ptr size : UInt64) (c : Communicator) (host : Host σ) :
    Outcome σ Unit :=
  match c.liveHandle with
  | .error e => (.error e, c, host)
  | .ok raw =>
    if !lib.supportsRegistration host.library then (.error (.unsupported .registration), c, host)
    else if (c.segments.lookup ptr).isSome then
      (.error (.duplicateRegistration ptr c.commId), c, host)
    else
      let (answer, host) := host.call lib (.registerSegment raw ptr size)
      match answer with
      | .error status =>
        (.error (host.nativeError lib .registration status (some raw) none), c, host)
      | .ok segment =>
        (.ok (), { c with segments := c.segments ++ [(ptr, segment)] },
          host.emit ⟨.debug, target, "registered segment",
            [("comm_id", c.commId), ("ptr", Hex.number ptr.toNat), ("size", toString size)]⟩)

def deregister (lib : Library σ) (ptr : UInt64) (c : Communicator) (host : Host σ) :
    Outcome σ Unit :=
  match c.liveHandle with
  | .error e => (.error e, c, host)
  | .ok raw =>
    if !lib.supportsRegistration host.library then
      (.error (.unsupported .deregistration), c, host)
    else
      match c.segments.lookup ptr with
      | none => (.error (.notRegistered ptr c.commId), c, host)
      | some segment =>
        let (status, host) := host.call lib (.deregisterSegment raw segment)
        if status.isSuccess then
          (.ok (), { c with segments := c.segments.filter (·.1 != ptr) },
            host.emit ⟨.debug, target, "deregistered segment",
              [("comm_id", c.commId), ("ptr", Hex.number ptr.toNat)]⟩)
        else (.error (host.nativeError lib .deregistration status (some raw) none), c, host)

/-- Deregister every segment of an abort, in any order; failures are only logged. -/
def releaseSegments (lib : Library σ) (commId : String) (raw : RawHandle) :
    List (UInt64 × SegmentHandle) → Host σ → Host σ
  | [], host => host
  | (ptr, segment) :: rest, host =>
    let (status, host) := host.call lib (.deregisterSegment raw segment)
    let host :=
      if status.isSuccess then host
      else host.emit ⟨.warn, target, "failed to deregister segment during abort",
        [("comm_id", commId), ("ptr", Hex.number ptr.toNat), ("error", status.text)]⟩
    releaseSegments lib commId raw rest host

end RankTrace.Communicator
