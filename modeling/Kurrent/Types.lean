import Mathlib.Algebra.Group.Nat.Defs
import Kurrent.Lib.Loop
import Kurrent.Lib.Text

/-!
# Shared types and errors

The values the client hands around (`types.rs`), the gRPC status as the transport reports
it, and `Error.fromGrpc`, which decides what an operation's failure is. A `Status` carries
the text its `Display` implementation prints; metadata values are bytes, readable as text
only when every byte is printable.
-/

namespace Kurrent

open Lib

abbrev Uuid := BitVec 128

def Uuid.nil : Uuid := 0

structure Endpoint where
  host : String
  port : Nat
  deriving DecidableEq, Repr

/-- A record's place in the transaction file. -/
structure Position where
  commit : UInt64
  prepare : UInt64
  deriving DecidableEq, Repr

inductive StreamPosition (A : Type) where
  | start
  | end
  | position (a : A)
  deriving DecidableEq, Repr

inductive StreamState where
  | any
  | streamExists
  | noStream
  | streamRevision (rev : UInt64)
  deriving DecidableEq, Repr

inductive CurrentRevision where
  | current (rev : UInt64)
  | noStream
  deriving DecidableEq, Repr

inductive NodePreference where
  | leader
  | follower
  | random
  | readOnlyReplica
  deriving DecidableEq, Repr

/-- Login and password, as bytes. -/
structure Credentials where
  login : List UInt8
  password : List UInt8
  deriving DecidableEq, Repr

def Credentials.new (login password : String) : Credentials :=
  ⟨login.toUTF8.toList, password.toUTF8.toList⟩

/-! ## gRPC statuses -/

inductive Code where
  | ok | cancelled | unknown | invalidArgument | deadlineExceeded | notFound | alreadyExists
  | permissionDenied | resourceExhausted | failedPrecondition | aborted | outOfRange
  | unimplemented | internal | unavailable | dataLoss | unauthenticated
  deriving DecidableEq, Repr

structure Status where
  code : Code
  message : String
  metadata : List (String × List UInt8) := []
  display : String := message
  deriving DecidableEq, Repr

/-- `HeaderValue::to_str`: printable ASCII and tab only. -/
def headerToStr (bs : List UInt8) : Option String :=
  if bs.all fun b => (32 ≤ b && b < 127) || b == 9 then
    some (String.ofList (bs.map fun b => Char.ofNat b.toNat))
  else none

def Status.get (s : Status) (key : String) : Option (List UInt8) := s.metadata.lookup key

/-! ## Errors -/

inductive GrpcConnectionError where
  | maxDiscoveryAttemptReached (count : Nat)
  | grpc (message : String)
  deriving DecidableEq, Repr

inductive Error where
  | serverError (message : String)
  | notLeaderException (leader : Endpoint)
  | connectionClosed
  | grpc (code : Code) (message : String)
  | grpcConnectionError (e : GrpcConnectionError)
  | internalParsingError (message : String)
  | accessDenied
  | resourceAlreadyExists
  | resourceNotFound
  | resourceDeleted
  | unsupportedFeature
  | internalClientError
  | deadlineExceeded
  | initializationError (message : String)
  | illegalStateError (message : String)
  | wrongExpectedVersion (expected : StreamState) (current : CurrentRevision)
  deriving DecidableEq, Repr

namespace Error

/-- The leader a `not-leader` status names, if it names one that can be read. -/
def leaderOf (status : Status) : Option Endpoint := do
  let host ← status.get "leader-endpoint-host"
  let port ← status.get "leader-endpoint-port"
  let host ← headerToStr host
  let port ← headerToStr port
  let port ← (parseUnsigned (2 ^ 32 - 1) port).toOption
  some ⟨host, port⟩

/-- What `from_grpc` decides from the status code and message alone. -/
def ofCode (status : Status) : Error :=
  if (status.code = .cancelled ∧ status.message = "Timeout expired") ∨
      status.code = .deadlineExceeded then deadlineExceeded
  else match status.code with
    | .unauthenticated | .permissionDenied => accessDenied
    | .alreadyExists => resourceAlreadyExists
    | .notFound => resourceNotFound
    | .unavailable | .internal | .dataLoss | .unknown => serverError status.display
    | .unimplemented => unsupportedFeature
    | code => grpc code status.message

def fromGrpc (status : Status) : Error :=
  match (status.get "exception").bind headerToStr with
  | some "not-leader" =>
    match leaderOf status with
    | some leader => notLeaderException leader
    | none => ofCode status
  | some "stream-deleted" => resourceDeleted
  | _ => ofCode status

def isAccessDenied : Error → Bool
  | accessDenied => true
  | _ => false

end Error

end Kurrent
