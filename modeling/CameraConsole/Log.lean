import CameraConsole.Failure
import CameraConsole.Http.Message
import CameraConsole.Text.Quoted

/-!
# Log events

What a client and the console report while they work. Events of a call carry its number.
-/

namespace CameraConsole

inductive Level where
  | debug
  | info
  | warn
  deriving DecidableEq, Repr

def Level.text : Level → String
  | debug => "DEBUG"
  | info => "INFO"
  | warn => "WARN"

inductive LogEvent where
  /-- An attempt starts. -/
  | attempt (call : Nat) (method : Method) (endpoint : String) (retryCount : Nat) (hasToken : Bool)
  /-- An attempt got an answer. -/
  | answered (call : Nat) (status : Nat)
  /-- An attempt failed before it got an answer. -/
  | unanswered (call : Nat) (endpoint : String) (failure : Failure)
  | authenticationRequired (call : Nat) (method : Method) (endpoint : String)
  | retrying (call : Nat) (status : Nat) (endpoint : String) (retryCount : Nat) (delay : Nat)
  | failed (call : Nat) (status : Nat) (method : Method) (endpoint : String) (retryCount : Nat)
  | tokenRejected (call : Nat) (method : Method) (endpoint : String)
  | noFreshToken (call : Nat)
  | refreshFailed (call : Nat) (failure : Failure)
  | replayed (call : Nat)
  | replayFailed (call : Nat) (status : Nat) (endpoint : String)
  /-- Nobody listened to an auth event. -/
  | unheard (status : Nat)
  | loggedIn (username : String)
  /-- The console could not get a token beforehand. -/
  | noToken (failure : Failure)
  /-- The console tells that the daemon demanded authentication. -/
  | credentialsNeeded (status : Nat)
  | eventsMissed (count : Nat)
  deriving DecidableEq

/-- The value of a field: text is quoted in a line of the log, words are not. -/
inductive FieldValue where
  | number (n : Nat)
  | bool (b : Bool)
  | text (s : String)
  | words (s : String)
  deriving DecidableEq

namespace LogEvent

def level : LogEvent → Level
  | attempt .. | answered .. | unheard .. => .debug
  | unanswered .. | authenticationRequired .. | failed .. | tokenRejected .. | replayed ..
  | replayFailed .. | loggedIn .. => .info
  | retrying .. | noFreshToken .. | refreshFailed .. | noToken .. | credentialsNeeded ..
  | eventsMissed .. => .warn

def message : LogEvent → String
  | attempt .. => "motion-console request attempt"
  | answered .. => "motion-console response received"
  | unanswered .. => "motion-console request did not complete"
  | authenticationRequired .. => "motion-console request requires authentication"
  | retrying .. => "motion-console transient failure, retrying"
  | failed .. => "motion-console request failed"
  | tokenRejected .. => "motion-console CSRF token rejected, refreshing"
  | noFreshToken .. => "motion-console config response carried no CSRF token"
  | refreshFailed .. => "motion-console CSRF token refresh failed"
  | replayed .. => "motion-console request succeeded after CSRF refresh"
  | replayFailed .. => "motion-console replay after CSRF refresh failed"
  | unheard .. => "auth event dropped: no subscribers"
  | loggedIn .. => "motion-console login succeeded"
  | noToken .. => "could not prefetch CSRF token"
  | credentialsNeeded .. => "daemon requires authentication; pass --user/--password"
  | eventsMissed .. => "auth events dropped"

/-- The call that an event belongs to. -/
def call? : LogEvent → Option Nat
  | attempt call .. | answered call .. | unanswered call .. | authenticationRequired call ..
  | retrying call .. | failed call .. | tokenRejected call .. | noFreshToken call
  | refreshFailed call .. | replayed call | replayFailed call .. => some call
  | unheard .. | loggedIn .. | noToken .. | credentialsNeeded .. | eventsMissed .. => none

/-- The short name of a status. -/
def statusName (status : Nat) : String :=
  ((KnownStatus.ofCode? status).map KnownStatus.name).getD "unmapped"

/-- The fields other than the call, in the order of a line. Delays are 64-bit numbers. -/
def fields : LogEvent → List (String × FieldValue)
  | attempt _ method endpoint retryCount hasToken =>
    [("method", .text method.text), ("endpoint", .text endpoint),
      ("retry_count", .number retryCount), ("has_csrf_token", .bool hasToken)]
  | answered _ status => [("http_status", .number status)]
  | unanswered _ endpoint failure =>
    [("endpoint", .text endpoint), ("error", .words failure.display)]
  | authenticationRequired _ method endpoint | tokenRejected _ method endpoint =>
    [("method", .text method.text), ("endpoint", .text endpoint)]
  | retrying _ status endpoint retryCount delay =>
    [("http_status", .number status), ("standard_code", .text (statusName status)),
      ("endpoint", .text endpoint), ("retry_count", .number retryCount),
      ("delay_ms", .number (delay % UInt64.size))]
  | failed _ status method endpoint retryCount =>
    [("http_status", .number status), ("standard_code", .text (statusName status)),
      ("method", .text method.text), ("endpoint", .text endpoint),
      ("retry_count", .number retryCount)]
  | noFreshToken _ | replayed _ => []
  | refreshFailed _ failure | noToken failure => [("error", .words failure.display)]
  | replayFailed _ status endpoint =>
    [("http_status", .number status), ("endpoint", .text endpoint)]
  | unheard status | credentialsNeeded status => [("status", .number status)]
  | loggedIn username => [("username", .text username)]
  | eventsMissed count => [("skipped", .number count)]

/-- Events that end with the time that an attempt took. -/
def timed : LogEvent → Bool
  | answered .. | unanswered .. => true
  | _ => false

/-- The names of all that an event carries. -/
def names (e : LogEvent) : List String :=
  "message" :: (if e.call?.isSome then ["call_id"] else []) ++ e.fields.map (·.1) ++
    (if e.timed then ["duration_ms"] else [])

/-- The part of the program that reports an event. -/
def source : LogEvent → String
  | noToken .. | credentialsNeeded .. | eventsMissed .. => "motion_console"
  | unheard .. => "motion_console::context"
  | loggedIn .. => "motion_console::api::auth"
  | _ => "motion_console::client::execution"

end LogEvent

def FieldValue.render : FieldValue → String
  | number n => toString n
  | bool true => "true"
  | bool false => "false"
  | text s => Text.quote s
  | words s => s

/-- A line of the log. The number of the call and the time of an attempt do not show. -/
def LogEvent.line (e : LogEvent) : String :=
  let call := if e.call?.isSome then " call_id=*" else ""
  let fields := e.fields.map fun (name, value) => " " ++ name ++ "=" ++ value.render
  let time := if e.timed then " duration_ms=*" else ""
  e.level.text ++ " " ++ e.source ++ ": " ++ e.message ++ call ++ String.join fields ++ time ++ "\n"

end CameraConsole
