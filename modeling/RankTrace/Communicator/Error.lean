import RankTrace.Bytes
import RankTrace.Native.Status
import RankTrace.Time.Duration

/-!
# Communicator errors

Why an operation on a communicator failed. No failure of the library is taken to be transient, and
nothing is retried; only a timeout may clear with time.
-/

namespace RankTrace

inductive Operation
  | uniqueId
  | init
  | split
  | initialization
  | abort
  | registration
  | deregistration
  | dump
  deriving DecidableEq, Repr

namespace Operation

def label : Operation → String
  | uniqueId => "unique id generation"
  | init => "communicator init"
  | split => "communicator split"
  | initialization => "communicator initialization"
  | abort => "communicator abort"
  | registration => "segment registration"
  | deregistration => "segment deregistration"
  | dump => "communicator dump"

end Operation

inductive BootstrapFault
  | size (expected actual : Nat)
  | worldSize (n : UInt64)
  deriving DecidableEq, Repr

namespace BootstrapFault

def message : BootstrapFault → String
  | size expected actual => s!"expected {expected} bytes, got {actual}"
  | worldSize n => s!"world size {n} out of range"

end BootstrapFault

inductive CommError
  | native (operation : Operation) (status : Status) (version detail : String)
  /-- A bounded wait ran out; the operation may still succeed. -/
  | timeout (operation : Operation) (elapsed limit : Duration)
  | aborted (rank : Int32) (reason : Option String)
  | duplicateRegistration (ptr : UInt64) (commId : String)
  | notRegistered (ptr : UInt64) (commId : String)
  | unsupported (operation : Operation)
  | invalidRank (rank worldSize : Int32)
  | invalidBootstrap (fault : BootstrapFault)
  deriving DecidableEq, Repr

namespace CommError

def message : CommError → String
  | native operation status version detail =>
    s!"{operation.label} failed: {status.text}, library version {version}\n{detail}"
  | timeout operation elapsed limit =>
    s!"timeout in {operation.label} after {elapsed.text} (limit {limit.text})"
  | aborted rank reason =>
    let suffix := match reason with
      | some reason => s!" Original reason for failure was: {reason}"
      | none => ""
    s!"communicator was aborted on rank {rank.toInt}." ++ suffix
  | duplicateRegistration ptr commId =>
    s!"segment with ptr {Hex.number ptr.toNat} has already been registered on communicator {commId}"
  | notRegistered ptr commId =>
    s!"segment with ptr {Hex.number ptr.toNat} is not registered on communicator {commId}"
  | unsupported operation =>
    s!"{operation.label} is not supported by the native communication library"
  | invalidRank rank worldSize =>
    s!"rank {rank.toInt} is invalid for world size {worldSize.toInt}"
  | invalidBootstrap fault => s!"invalid bootstrap data: {fault.message}"

def isTimeout : CommError → Bool
  | timeout .. => true
  | _ => false

def isAborted : CommError → Bool
  | aborted .. => true
  | _ => false

def status? : CommError → Option Status
  | native _ status _ _ => some status
  | _ => none

end CommError

end RankTrace
