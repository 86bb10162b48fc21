import CameraConsole.Client.Basic
import CameraConsole.Http.Link

/-!
# Exchanges

One attempt to get an answer: the message that is sent, the redirects that are followed, and the
time it takes. An attempt that takes as long as the timeout ends there.
-/

namespace CameraConsole

/-- What an attempt is given. -/
structure Dispatch where
  method : Method
  endpoint : String
  body : Option Json := none
  token : Option String := none
  credentials : Option Credentials := none
  deriving DecidableEq

/-- What became of an attempt. -/
structure Exchange where
  outcome : Except Failure Response
  sent : List Message
  /-- In milliseconds. -/
  duration : Nat
  /-- The replies that are left. -/
  replies : List Reply

/-! ## The first message -/

namespace Url

/-- User name and password of a URL, when they are well-formed texts. -/
def user? (u : Url) : Option (String × Option String) := do
  let a ← u.authority
  let username ← Text.fromUtf8? (Text.percentDecode a.username.toList)
  let password := a.password.bind fun p => Text.fromUtf8? (Text.percentDecode p.toList)
  if username = "" ∧ password = none then none else some (username, password)

/-- The web schemes over which requests are sent. -/
def isHttp (u : Url) : Bool :=
  u.scheme = "http" || u.scheme = "https"

end Url

/-- The text of a body. Members are written in the order of keys. -/
def bodyText (v : Json) : String :=
  v.ordered.render

/-- The message of a dispatch. User name and password of the URL move to a header, before that of
the credentials. -/
def Client.message (c : Client) (d : Dispatch) : Except Failure Message := do
  let url ← c.resolve d.endpoint
  if !(d.token.all headerValueAllowed) then .error (.network .badHeaderValue)
  let user := url.user?
  let url := if user.isSome then url.withoutUser else url
  if !url.isHttp then .error (.network (.badScheme url.text))
  if !url.hostIsPlain then .error (.network (.badHost url.text))
  .ok {
    method := d.method
    url
    headers := {
      accept := ["application/json"]
      contentType := if d.body.isSome then ["application/json"] else []
      csrfToken := d.token.toList
      authorization :=
        (user.map fun (name, password) => basicAuthorization name (password.getD "")).toList ++
          (d.credentials.map Credentials.authorization).toList }
    body := (d.body.map bodyText).getD "" }

/-! ## Redirects -/

/-- How a redirect of this status repeats a message: 301, 302 and 303 ask for the new place without
a body, 307 and 308 repeat it as it is. -/
def Message.repeated? (m : Message) (status : Nat) : Option Message :=
  if status = 301 ∨ status = 302 ∨ status = 303 then
    some { m with method := .get, body := "", headers := { m.headers with contentType := [] } }
  else if status = 307 ∨ status = 308 then some m
  else none

/-- Same host and same port. -/
def Url.sameServer (u v : Url) : Bool :=
  u.host? = v.host? && u.port? = v.port?

/-- The message that follows a redirect. Another server does not learn the authorization. -/
def Message.redirected? (m : Message) (r : Reply) : Option Message := do
  let next ← m.repeated? r.status
  let location ← r.location
  let url ← (m.url.join location).toOption.filter Url.hostIsPlain
  some { next with
    url
    headers :=
      if m.url.sameServer url then next.headers else { next.headers with authorization := [] } }

/-- The redirects that are followed in one attempt. -/
def maxRedirects : Nat := 9

/-- Sends a message at `elapsed` milliseconds into an attempt, and follows up to `left`
redirects. -/
def converse (timeout : Nat) (left elapsed : Nat) (m : Message) (replies : List Reply) : Exchange :=
  match replies with
  | [] => ⟨.error (.network (.closed m.url.text)), [m], elapsed, []⟩
  | r :: rest =>
    let headAt := elapsed + r.delay
    if timeout ≤ headAt then ⟨.error .timeout, [m], timeout, rest⟩
    else if r.breakdown = some .close then
      ⟨.error (.network (.closed m.url.text)), [m], headAt, rest⟩
    else if r.breakdown = some .garbage then
      ⟨.error (.network (.garbled m.url.text)), [m], headAt, rest⟩
    else
      match m.redirected? r with
      | some next =>
        match left with
        | 0 => ⟨.error (.network (.tooManyRedirects m.url.text)), [m], headAt, rest⟩
        | left + 1 =>
          if next.url.isHttp then
            let x := converse timeout left headAt next rest
            { x with sent := m :: x.sent }
          else ⟨.error (.network (.badScheme next.url.text)), [m], headAt, rest⟩
      | none =>
        let bodyAt := headAt + r.bodyDelay
        if timeout ≤ bodyAt then ⟨.error .timeout, [m], timeout, rest⟩
        else if r.breakdown = some .truncate ∧ r.hasBody then
          ⟨.error (.network .truncated), [m], bodyAt, rest⟩
        else ⟨.ok r.response, [m], bodyAt, rest⟩

/-- One attempt over a link. -/
@[irreducible]
def Client.exchange (c : Client) (d : Dispatch) (link : Link) : Exchange :=
  match c.message d with
  | .error failure => ⟨.error failure, [], 0, link.replies⟩
  | .ok m =>
    match link.route with
    | .direct => converse c.config.timeout maxRedirects 0 m link.replies
    | .unreachable => ⟨.error (.network (.unreachable m.url.text)), [], 0, link.replies⟩
    | .refused => ⟨.error (.network (.refused m.url.text)), [], 0, link.replies⟩

end CameraConsole
