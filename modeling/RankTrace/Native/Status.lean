/-!
# Status codes of the native library

A status is one of eight known codes or an unknown one. `ofCode` and `code` are inverse to each
other on what `ofCode` produces. Being in progress is no error.
-/

namespace RankTrace

inductive Status
  | success
  | deviceError
  | systemError
  | internalError
  | invalidArgument
  | invalidUsage
  | remoteError
  | inProgress
  | unknown (code : Int32)
  deriving DecidableEq, Inhabited, Repr

namespace Status

def ofCode (code : Int32) : Status :=
  if code = 0 then success
  else if code = 1 then deviceError
  else if code = 2 then systemError
  else if code = 3 then internalError
  else if code = 4 then invalidArgument
  else if code = 5 then invalidUsage
  else if code = 6 then remoteError
  else if code = 7 then inProgress
  else unknown code

def code : Status → Int32
  | success => 0
  | deviceError => 1
  | systemError => 2
  | internalError => 3
  | invalidArgument => 4
  | invalidUsage => 5
  | remoteError => 6
  | inProgress => 7
  | unknown code => code

theorem code_ofCode (code : Int32) : (ofCode code).code = code := by
  unfold ofCode
  repeat' split
  all_goals simp_all [Status.code]

def isSuccess (s : Status) : Bool := s == success

def isInProgress (s : Status) : Bool := s == inProgress

def isFailure (s : Status) : Bool := !s.isSuccess && !s.isInProgress

def name : Status → String
  | success => "Success"
  | deviceError => "UnhandledCudaError"
  | systemError => "SystemError"
  | internalError => "InternalError"
  | invalidArgument => "InvalidArgument"
  | invalidUsage => "InvalidUsage"
  | remoteError => "RemoteError"
  | inProgress => "InProgress"
  | unknown code => s!"Unknown({code.toInt})"

/-- Short description, the same for every unknown code. -/
def summary : Status → String
  | success => "no error"
  | deviceError => "unhandled cuda error"
  | systemError => "unhandled system error"
  | internalError => "internal error"
  | invalidArgument => "invalid argument"
  | invalidUsage => "invalid usage"
  | remoteError => "remote process exited or there was a network error"
  | inProgress => "operation in progress"
  | unknown _ => "unknown result code"

def text (s : Status) : String :=
  match s with
  | unknown code => s!"{s.summary} ({code.toInt})"
  | _ => s.summary

def interpretation : Status → String
  | deviceError => "UnhandledCudaError: Call to CUDA function failed."
  | systemError =>
    "SystemError: System call (e.g. socket, malloc) or external library call failed or device error."
  | internalError => "InternalError: Internal check failed."
  | invalidArgument => "InvalidArgument: Invalid value for an argument."
  | invalidUsage => "InvalidUsage: This usually reflects invalid usage of the communication library."
  | remoteError =>
    "RemoteError: A call failed possibly due to a network error or a remote process exiting prematurely."
  | success | inProgress | unknown _ => "Unknown communication library error!"

/-- The detail line of a failure. A reason given by the owner replaces everything else, since the
owner may have aborted the communicator itself. -/
def detail (s : Status) (reason lastError : Option String) : String :=
  match reason, lastError with
  | some reason, _ => reason
  | none, some last =>
    if last.isEmpty then s.interpretation ++ "\nLast error: Unknown error\n"
    else s.interpretation ++ "\nLast error:\n" ++ last
  | none, none => s.interpretation ++ "\nLast error: Unknown error\n"

end Status

end RankTrace
