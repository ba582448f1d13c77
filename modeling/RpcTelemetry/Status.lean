import RpcTelemetry.Text.Quoted

/-!
# The status of a call

A call ends well or with a `Failure`: a status, or some other error that may wrap a status. The
status of a failure is the first one on its chain of causes.
-/

namespace RpcTelemetry

/-- The seventeen status codes. -/
inductive Code where
  | ok
  | cancelled
  | unknown
  | invalidArgument
  | deadlineExceeded
  | notFound
  | alreadyExists
  | permissionDenied
  | resourceExhausted
  | failedPrecondition
  | aborted
  | outOfRange
  | unimplemented
  | internal
  | unavailable
  | dataLoss
  | unauthenticated
  deriving DecidableEq, Repr

namespace Code

instance : Inhabited Code := ⟨.unknown⟩

/-- The number of a code. -/
def number : Code → Nat
  | .ok => 0
  | .cancelled => 1
  | .unknown => 2
  | .invalidArgument => 3
  | .deadlineExceeded => 4
  | .notFound => 5
  | .alreadyExists => 6
  | .permissionDenied => 7
  | .resourceExhausted => 8
  | .failedPrecondition => 9
  | .aborted => 10
  | .outOfRange => 11
  | .unimplemented => 12
  | .internal => 13
  | .unavailable => 14
  | .dataLoss => 15
  | .unauthenticated => 16

/-- The codes in the order of their numbers. -/
def all : List Code :=
  [.ok, .cancelled, .unknown, .invalidArgument, .deadlineExceeded, .notFound, .alreadyExists,
    .permissionDenied, .resourceExhausted, .failedPrecondition, .aborted, .outOfRange,
    .unimplemented, .internal, .unavailable, .dataLoss, .unauthenticated]

/-- The code of a number; a number without a code stands for `unknown`. -/
def ofInt (number : Int) : Code :=
  if number < 0 then .unknown else all.getD number.toNat .unknown

/-- The name of a code on the wire. -/
def name : Code → String
  | .ok => "OK"
  | .cancelled => "CANCELLED"
  | .unknown => "UNKNOWN"
  | .invalidArgument => "INVALID_ARGUMENT"
  | .deadlineExceeded => "DEADLINE_EXCEEDED"
  | .notFound => "NOT_FOUND"
  | .alreadyExists => "ALREADY_EXISTS"
  | .permissionDenied => "PERMISSION_DENIED"
  | .resourceExhausted => "RESOURCE_EXHAUSTED"
  | .failedPrecondition => "FAILED_PRECONDITION"
  | .aborted => "ABORTED"
  | .outOfRange => "OUT_OF_RANGE"
  | .unimplemented => "UNIMPLEMENTED"
  | .internal => "INTERNAL"
  | .unavailable => "UNAVAILABLE"
  | .dataLoss => "DATA_LOSS"
  | .unauthenticated => "UNAUTHENTICATED"

/-- The name of a code in a debugging text. -/
def debugName : Code → String
  | .ok => "Ok"
  | .cancelled => "Cancelled"
  | .unknown => "Unknown"
  | .invalidArgument => "InvalidArgument"
  | .deadlineExceeded => "DeadlineExceeded"
  | .notFound => "NotFound"
  | .alreadyExists => "AlreadyExists"
  | .permissionDenied => "PermissionDenied"
  | .resourceExhausted => "ResourceExhausted"
  | .failedPrecondition => "FailedPrecondition"
  | .aborted => "Aborted"
  | .outOfRange => "OutOfRange"
  | .unimplemented => "Unimplemented"
  | .internal => "Internal"
  | .unavailable => "Unavailable"
  | .dataLoss => "DataLoss"
  | .unauthenticated => "Unauthenticated"

end Code

/-- A code with a message for people. -/
structure Status where
  code : Code
  message : String
  deriving DecidableEq, Repr, Inhabited

namespace Status

/-- The status of a call that went well. -/
def ok : Status := ⟨.ok, ""⟩

/-- Whether the code is `ok`. -/
def isOk (status : Status) : Bool := status.code = .ok

/-- The text of a status. -/
def display (status : Status) : String :=
  "rpc status " ++ status.code.name ++ ": " ++ status.message

/-- A status in a debugging text. -/
def debug (status : Status) : String :=
  "Status \x7b code: " ++ status.code.debugName ++ ", message: " ++ Text.quoted status.message ++
    " \x7d"

end Status

/-- Why a call failed: a status, an error of another kind, or such an error with its cause. -/
inductive Failure where
  | status (found : Status)
  | plain (message : String)
  | caused (message : String) (cause : Failure)
  deriving DecidableEq, Repr

namespace Failure

/-- The text of the outermost error. -/
def display : Failure → String
  | .status found => found.display
  | .plain message => message
  | .caused message _ => message

/-- The first status on the chain of causes. -/
def status? : Failure → Option Status
  | .status found => some found
  | .plain _ => none
  | .caused _ cause => cause.status?

/-- The status of a failure: the first one on the chain of causes, or else `unknown` with the text
of the outermost error. -/
def toStatus (failure : Failure) : Status :=
  failure.status?.getD ⟨.unknown, failure.display⟩

/-- The failure with the messages as a chain, outermost first, that ends in `root` if there is
one. -/
def ofChain (root : Option Status) : List String → Option Failure
  | [] => root.map .status
  | message :: inner =>
    some <| match ofChain root inner with
      | none => .plain message
      | some cause => .caused message cause

end Failure

end RpcTelemetry
