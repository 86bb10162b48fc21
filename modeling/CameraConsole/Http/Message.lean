import CameraConsole.Json.Printer
import CameraConsole.Text.Base64
import CameraConsole.Status
import CameraConsole.Url.Basic

/-!
# Requests and responses

What goes over the wire in either direction.
-/

namespace CameraConsole

inductive Method where
  | get
  | post
  | patch
  | delete
  deriving DecidableEq, Repr

namespace Method

def text : Method → String
  | get => "GET"
  | post => "POST"
  | patch => "PATCH"
  | delete => "DELETE"

/-- Whether the verb changes something at the daemon, and so needs a token. -/
def mutating : Method → Bool
  | get => false
  | _ => true

end Method

/-- A call of the API, as its caller states it. -/
structure Request where
  method : Method
  /-- A path with an optional query. -/
  endpoint : String
  /-- No body differs from the body `null`. -/
  body : Option Json := none
  /-- The retries spent so far. -/
  retryCount : Nat := 0
  deriving DecidableEq

def Request.get (endpoint : String) : Request :=
  { method := .get, endpoint }

structure Credentials where
  username : String
  password : String
  deriving DecidableEq

/-- The value of an authorization header of the scheme `Basic`. -/
def basicAuthorization (username password : String) : String :=
  "Basic " ++ Text.base64 (Text.bytes (username ++ ":" ++ password))

def Credentials.authorization (c : Credentials) : String :=
  basicAuthorization c.username c.password

/-- The headers that matter to the daemon, each with its values in order. -/
structure Headers where
  accept : List String
  contentType : List String
  csrfToken : List String
  authorization : List String
  deriving DecidableEq

/-- A request on the wire. -/
structure Message where
  method : Method
  url : Url
  headers : Headers
  body : String
  deriving DecidableEq

/-- A complete answer, whatever its status. -/
structure Response where
  status : Nat
  reason : String
  body : String
  deriving DecidableEq, Repr

def Response.isSuccess (r : Response) : Bool :=
  CameraConsole.isSuccess r.status

/-- Whether a header may have this value: no control characters other than tabs. -/
def headerValueAllowed (s : String) : Bool :=
  (Text.bytes s).all fun b => (0x20 ≤ b.toNat || b.toNat = 9) && b.toNat ≠ 0x7F

end CameraConsole
