import CameraConsole.Json.Cursor
import CameraConsole.Status
import CameraConsole.Text.Blank
import CameraConsole.Url.Basic

/-!
# Failures

Why a call or the construction of a client fails, and what to say about it.
-/

namespace CameraConsole

/-- Where a configuration is wrong. -/
structure FailureContext where
  field : Option String
  details : Option String
  source : Option String
  deriving DecidableEq

/-- What can go wrong between the client and the daemon. -/
inductive NetworkFault where
  | badEndpoint (endpoint : String) (fault : UrlFault)
  | badScheme (url : String)
  /-- The host has characters that cannot be sent. -/
  | badHost (url : String)
  | badHeaderValue
  | unreachable (url : String)
  | refused (url : String)
  /-- The connection was closed without an answer. -/
  | closed (url : String)
  /-- The answer was not HTTP. -/
  | garbled (url : String)
  /-- The body ended too early. -/
  | truncated
  | tooManyRedirects (url : String)
  /-- The body is not JSON. -/
  | notJson (fault : Fault)
  /-- The body is not the payload that was asked for. -/
  | wrongPayload (mismatch : Mismatch)
  | other (message : String)
  deriving DecidableEq

namespace NetworkFault

def sending (url reason : String) : String :=
  "error sending request for url (" ++ url ++ "): " ++ reason

def connecting (url reason : String) : String :=
  sending url ("error trying to connect: tcp connect error: " ++ reason)

def message : NetworkFault → String
  | badEndpoint endpoint fault => "invalid endpoint " ++ endpoint ++ ": " ++ fault.message
  | badScheme url => "builder error for url (" ++ url ++ "): URL scheme is not allowed"
  | badHost url => "builder error for url (" ++ url ++ "): Parsed Url is not a valid Uri"
  | badHeaderValue => "builder error: failed to parse header value"
  | unreachable url => connecting url "Network is unreachable (os error 101)"
  | refused url => connecting url "Connection refused (os error 111)"
  | closed url => sending url "connection closed before message completed"
  | garbled url => sending url "invalid HTTP version parsed"
  | truncated =>
    "request or response body error: error reading a body from connection: " ++
      "end of file before message length reached"
  | tooManyRedirects url => "error following redirect for url (" ++ url ++ "): too many redirects"
  | notJson fault => "Failed to parse response JSON: " ++ fault.message
  | wrongPayload mismatch => "Failed to parse response JSON: " ++ mismatch.message
  | other message => message

end NetworkFault

inductive Failure where
  /-- The daemon demands authentication, or credentials were rejected. -/
  | authentication (status : Nat) (message : String)
  /-- A change was refused and a fresh token did not help. -/
  | tokenRejected
  | timeout
  | http (status : Nat) (message : String)
  | network (fault : NetworkFault)
  /-- The daemon reported an error in a successful answer. -/
  | daemon (message : String)
  | configuration (message : String) (context : FailureContext)
  deriving DecidableEq

namespace Failure

def authenticationRequired : Failure :=
  .authentication 401 "Authentication required"

/-- The failure of an answer with this status and reason phrase. -/
def ofAnswer (status : Nat) (reason : String) : Failure :=
  let reason := Text.trim reason
  .http status <|
    if reason = "" then "HTTP " ++ toString status
    else "HTTP " ++ toString status ++ ": " ++ reason

def message : Failure → String
  | authentication _ message => message
  | tokenRejected => "CSRF validation failed"
  | timeout => "Request timeout"
  | http _ message => message
  | network fault => fault.message
  | daemon message => message
  | configuration message _ => message

def status? : Failure → Option Nat
  | authentication status _ => some status
  | tokenRejected => some 403
  | timeout => some 408
  | http status _ => some status
  | network _ | daemon _ | configuration _ _ => none

/-- The words for the person at the console: those of a known status, else the message. -/
def userMessage (f : Failure) : String :=
  match f.status?.bind KnownStatus.ofCode? with
  | some s => s.userMessage
  | none => f.message

def contextText (c : FailureContext) : String :=
  let parts := (c.field.map ("field: " ++ ·)).toList ++
    (c.details.map ("details: " ++ ·)).toList ++ (c.source.map ("source: " ++ ·)).toList
  match parts with
  | [] => ""
  | _ => " (" ++ ", ".intercalate parts ++ ")"

/-- The message as it stands in logs. -/
def display : Failure → String
  | configuration message context => "Configuration error: " ++ message ++ contextText context
  | f => f.message

end Failure

end CameraConsole
