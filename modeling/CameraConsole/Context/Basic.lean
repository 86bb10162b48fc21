import CameraConsole.Context.Channel
import CameraConsole.Http.Message
import CameraConsole.Text.Quoted

/-!
# Contexts

What the clients of one session share: a token, credentials and the channel of auth events.
-/

namespace CameraConsole

structure Context where
  token : Option String
  credentials : Option Credentials
  channel : Channel
  deriving DecidableEq

namespace Context

def empty : Context :=
  { token := none, credentials := none, channel := .empty }

/-- Keeps a token; the empty text is none. -/
def setToken (c : Context) (token : String) : Context :=
  { c with token := if token = "" then none else some token }

def invalidateToken (c : Context) : Context :=
  { c with token := none }

def setCredentials (c : Context) (credentials : Credentials) : Context :=
  { c with credentials := some credentials }

def clearCredentials (c : Context) : Context :=
  { c with credentials := none }

/-- The token that an attempt with this verb carries. -/
def tokenFor (c : Context) (m : Method) : Option String :=
  if m.mutating then c.token else none

end Context

/-! ## For diagnostics -/

/-- The password does not show. -/
def Credentials.debugText (c : Credentials) : String :=
  "Credentials \x7b username: " ++ Text.quote c.username ++ ", password: \"<redacted>\" \x7d"

def Context.debugText (c : Context) : String :=
  let credentials := match c.credentials with
    | none => "None"
    | some k => "Some(" ++ k.debugText ++ ")"
  "ClientContext \x7b has_csrf_token: " ++ (if c.token.isSome then "true" else "false") ++
    ", credentials: " ++ credentials ++
    ", auth_subscribers: " ++ toString c.channel.subscribers.length ++ " \x7d"

end CameraConsole
