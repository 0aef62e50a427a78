import RankTrace.Communicator.Wait

/-!
# Splitting

A split makes a child communicator of the ranks that pass the same color. It first gets hold of
the parent's raw handle, which may mean waiting, and then looks at the parent again under the lock
before it calls the library. Children are numbered in the order in which their splits succeeded.
-/

namespace RankTrace.Communicator

variable {σ : Type}

def splitLocked (lib : Library σ) (raw : RawHandle) (color key : Int32) (config : InitConfig)
    (c : Communicator) (host : Host σ) : Except CommError RawHandle × Host σ :=
  if c.aborted then (.error c.abortedError, host)
  else
    let (answer, host) :=
      host.call lib (.split raw color key (effectiveConfig c.settings config))
    match answer with
    | .ok child => (.ok child, host)
    | .error status =>
      (.error (host.nativeError lib .split status (some raw) c.failureReason), host)

def childId (c : Communicator) : String := s!"{c.commId}/split{c.splits}"

def adopt (c : Communicator) (color key : Int32) (child : RawHandle) (host : Host σ) :
    Communicator × Communicator × Host σ :=
  let commId := c.childId
  (fresh c.settings none commId key child, { c with splits := c.splits + 1 },
    host.emit ⟨.debug, target, "split communicator",
      [("parent", c.commId), ("child", commId), ("color", toString color.toInt),
        ("rank", toString key.toInt)]⟩)

def split (lib : Library σ) (color key : Int32) (config : InitConfig) (c : Communicator)
    (host : Host σ) : Outcome σ Communicator :=
  match nativeHandle lib c host with
  | (.error e, c, host) => (.error e, c, host)
  | (.ok raw, c, host) =>
    match splitLocked lib raw color key config c host with
    | (.error e, host) => (.error e, c, host)
    | (.ok raw, host) =>
      let (child, c, host) := adopt c color key raw host
      (.ok child, c, host)

end RankTrace.Communicator
