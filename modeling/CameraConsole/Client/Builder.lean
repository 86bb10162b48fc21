import CameraConsole.Client.Basic

/-!
# Building clients

Settings are made step by step; the last step that sets a value counts.
-/

namespace CameraConsole

structure Builder where
  config : ClientConfig
  credentials : Option Credentials
  deriving DecidableEq

inductive BuildStep where
  | baseUrl (url : String)
  | proxy (url : String)
  /-- A timeout of zero is ignored. -/
  | timeout (ms : Nat)
  | retryBaseDelay (ms : Nat)
  | maxRetries (n : Nat)
  | basicAuth (credentials : Credentials)
  /-- Replaces all settings, but not the credentials. -/
  | config (config : ClientConfig)
  deriving DecidableEq

namespace Builder

def default : Builder :=
  { config := {}, credentials := none }

/-- Credentials of the environment count when both variables are set and the user has a name. -/
def ofEnvironment (env : Environment) : Builder where
  config := .ofEnvironment env
  credentials :=
    match env.lookup "MOTION_USER", env.lookup "MOTION_PASSWORD" with
    | some user, some password => if user = "" then none else some ⟨user, password⟩
    | _, _ => none

def apply (b : Builder) : BuildStep → Builder
  | .baseUrl url => { b with config := { b.config with baseUrl := url } }
  | .proxy url => { b with config := { b.config with proxyUrl := some url } }
  | .timeout ms => if ms = 0 then b else { b with config := { b.config with timeout := ms } }
  | .retryBaseDelay ms => { b with config := { b.config with retryBaseDelay := ms } }
  | .maxRetries n => { b with config := { b.config with maxRetries := n } }
  | .basicAuth credentials => { b with credentials := some credentials }
  | .config config => { b with config }

def applyAll (b : Builder) (steps : List BuildStep) : Builder :=
  steps.foldl apply b

/-- Makes a client of the settings, and then gives the credentials to the context that clients
share. The context comes back in any case. -/
def assemble (b : Builder) (context : Context) : Except Failure Client × Context :=
  match Client.ofConfig b.config with
  | .error failure => (.error failure, context)
  | .ok client =>
    match b.credentials with
    | none => (.ok client, context)
    | some credentials => (.ok client, context.setCredentials credentials)

/-- A client in a context, which receives the credentials. -/
def build (b : Builder) (context : Context) : Except Failure (Client × Context) :=
  match b.assemble context with
  | (.ok client, context) => .ok (client, context)
  | (.error failure, _) => .error failure

end Builder

end CameraConsole
