/-!
# Known statuses

The HTTP statuses that the console has words for.
-/

namespace CameraConsole

inductive KnownStatus where
  | invalidRequest
  | authentication
  | permissionDenied
  | notFound
  | timeout
  | serverError
  | badGateway
  | serviceUnavailable
  | gatewayTimeout
  deriving DecidableEq, Repr

namespace KnownStatus

/-- Every known status, in ascending order of codes. -/
def all : List KnownStatus :=
  [invalidRequest, authentication, permissionDenied, notFound, timeout, serverError, badGateway,
    serviceUnavailable, gatewayTimeout]

def code : KnownStatus → Nat
  | invalidRequest => 400
  | authentication => 401
  | permissionDenied => 403
  | notFound => 404
  | timeout => 408
  | serverError => 500
  | badGateway => 502
  | serviceUnavailable => 503
  | gatewayTimeout => 504

def ofCode? (code : Nat) : Option KnownStatus :=
  all.find? (·.code = code)

def name : KnownStatus → String
  | invalidRequest => "invalid_request"
  | authentication => "authentication"
  | permissionDenied => "permission_denied"
  | notFound => "not_found"
  | timeout => "timeout"
  | serverError => "server_error"
  | badGateway => "bad_gateway"
  | serviceUnavailable => "service_unavailable"
  | gatewayTimeout => "gateway_timeout"

/-- What to tell the person at the console. -/
def userMessage : KnownStatus → String
  | invalidRequest => "Invalid request. Please check your input."
  | authentication => "Authentication required. Please log in."
  | permissionDenied => "Access denied. You do not have permission for this action."
  | notFound => "The requested resource was not found."
  | timeout => "Request timed out. Please try again."
  | serverError => "Server error. Please try again later."
  | badGateway => "Bad gateway. The camera server is unreachable."
  | serviceUnavailable => "Service unavailable. The camera server is busy or restarting."
  | gatewayTimeout => "Gateway timeout. The camera server took too long to respond."

/-- Whether another attempt may succeed. -/
def retryable : KnownStatus → Bool
  | badGateway | serviceUnavailable | gatewayTimeout => true
  | _ => false

def retryableCodes : List Nat :=
  (all.filter retryable).map code

def display (s : KnownStatus) : String :=
  toString s.code ++ " (" ++ s.name ++ ")"

end KnownStatus

/-- The statuses of success. -/
def isSuccess (status : Nat) : Bool :=
  200 ≤ status && status < 300

end CameraConsole
