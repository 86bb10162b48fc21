import CameraConsole.Call.Body
import CameraConsole.Call.Retry
import CameraConsole.Resource
import CameraConsole.World

/-!
# Calls

A call makes attempts until one settles it. A demand for authentication ends it. A mutating verb
that is forbidden fetches a fresh token and is repeated once. A retryable status is tried again as
long as retries are left.
-/

namespace CameraConsole

namespace Client

/-- One attempt at a request, with the token and the credentials of the moment. -/
def attempt (c : Client) (call : Nat) (r : Request) (w : World) :
    Except Failure Response × World :=
  let token := w.context.tokenFor r.method
  let w := w.note (.attempt call r.method r.endpoint r.retryCount token.isSome)
  let dispatch : Dispatch :=
    { method := r.method, endpoint := r.endpoint, body := r.body, token,
      credentials := w.context.credentials }
  match w.transmit c dispatch r.retryCount with
  | (.ok response, w) => (.ok response, w.note (.answered call response.status))
  | (.error failure, w) => (.error failure, w.note (.unanswered call r.endpoint failure))

/-! ## Token recovery -/

/-- Asks the daemon for a fresh token, once. -/
def fetchToken (c : Client) (call : Nat) (w : World) : Except Failure (Option String) × World :=
  match c.attempt call (.get Resource.config.endpoint) w with
  | (.error failure, w) => (.error failure, w)
  | (.ok response, w) =>
    if response.status = 401 then (.error .authenticationRequired, w.announce 401)
    else if response.isSuccess then ((readBody response.body).map tokenOf, w)
    else (.error (.ofAnswer response.status response.reason), w)

/-- Repeats a request with a fresh token. -/
def replay (c : Client) (call : Nat) (r : Request) (w : World) : Except Failure Json × World :=
  match c.attempt call r w with
  | (.error failure, w) => (.error failure, w)
  | (.ok response, w) =>
    if response.isSuccess then (readBody response.body, w.note (.replayed call))
    else
      let w := w.note (.replayFailed call response.status r.endpoint)
      let w := if response.status = 401 ∨ response.status = 403 then w.announce response.status
        else w
      (.error .tokenRejected, w)

/-- Handles a request that was forbidden: the token was stale, so it is replaced. -/
def recover (c : Client) (call : Nat) (r : Request) (w : World) : Except Failure Json × World :=
  let w := w.adjust Context.invalidateToken
  let w := w.note (.tokenRejected call r.method r.endpoint)
  match c.fetchToken call w with
  | (.ok (some token), w) => c.replay call r (w.adjust (·.setToken token))
  | (.ok none, w) => (.error .tokenRejected, w.note (.noFreshToken call))
  | (.error failure, w) => (.error .tokenRejected, w.note (.refreshFailed call failure))

/-! ## The main loop -/

/-- Makes attempts with `left` retries left. -/
def persist (c : Client) (call : Nat) (left : Nat) (r : Request) (w : World) :
    Except Failure Json × World :=
  match c.attempt call r w with
  | (.error failure, w) => (.error failure, w)
  | (.ok response, w) =>
    if response.isSuccess then (readBody response.body, w)
    else if response.status = 401 then
      let w := w.note (.authenticationRequired call r.method r.endpoint)
      (.error .authenticationRequired, w.announce 401)
    else if response.status = 403 ∧ r.method.mutating then c.recover call r w
    else
      let fail : Except Failure Json × World :=
        (.error (.ofAnswer response.status response.reason),
          w.note (.failed call response.status r.method r.endpoint r.retryCount))
      match left with
      | 0 => fail
      | left + 1 =>
        if response.status ∈ c.config.retryableStatuses then
          let delay := c.config.backoff r.retryCount
          let w := w.note (.retrying call response.status r.endpoint r.retryCount delay)
          c.persist call left { r with retryCount := r.retryCount + 1 } (w.wait delay)
        else fail

/-- Runs a call. Retries that the request has behind it count. -/
def run (c : Client) (r : Request) (w : World) : Except Failure Json × World :=
  c.persist w.nextCall (c.config.maxRetries - r.retryCount) r
    { w with nextCall := w.nextCall + 1 }

end Client

end CameraConsole
