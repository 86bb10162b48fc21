import CameraConsole.Client.Config
import CameraConsole.Context.Basic
import CameraConsole.Failure
import CameraConsole.Url.Reference

/-!
# Clients

A client has its settings and a base URL that endpoints are resolved against.
-/

namespace CameraConsole

structure Client where
  config : ClientConfig
  base : Url
  deriving DecidableEq

namespace Client

/-- A text ending in a slash, so that references are resolved below its path. -/
def slashed (s : String) : String :=
  if s.toList.getLast? = some '/' then s else s ++ "/"

def badBaseUrl (details : String) : Failure :=
  .configuration "invalid base URL"
    { field := some "base_url", details := some details, source := some "http_transport" }

/-- The base URL of a text; it has to be one of the web's own schemes. -/
def baseUrl (raw : String) : Except Failure Url :=
  match Url.ofText (slashed raw) with
  | .error fault => .error (badBaseUrl (raw ++ ": " ++ fault.message))
  | .ok url =>
    if url.scheme = "http" ∨ url.scheme = "https" then .ok url
    else .error (badBaseUrl ("unsupported scheme " ++ url.scheme))

/-! ## Proxies -/

/-- Why a text is no URL with a host. -/
inductive ProxyFault where
  | url (fault : UrlFault)
  | noHost (url : String)
  | scheme
  | character

def ProxyFault.message : ProxyFault → String
  | .url fault => "builder error: builder error: " ++ fault.message
  | .noHost u => "builder error: builder error for url (" ++ u ++ "): URL scheme is not allowed"
  | .scheme => "builder error: unknown proxy scheme"
  | .character => "builder error: invalid uri character"

def hostedUrl (s : String) : Except ProxyFault Url :=
  match Url.ofText s with
  | .error fault => .error (.url fault)
  | .ok url => if url.host?.isSome then .ok url else .error (.noHost url.text)

/-- The URL of a proxy. A text that seems to lack a scheme is read as an address of the web; when
that fails too, the first fault counts. -/
def proxyUrl (s : String) : Except ProxyFault Url := do
  let url ← match hostedUrl s with
    | .ok url => .ok url
    | .error fault =>
      match fault, hostedUrl ("http://" ++ s) with
      | .url .relativeWithoutBase, .ok url | .noHost _, .ok url => .ok url
      | _, _ => .error fault
  if !(url.scheme = "http" ∨ url.scheme = "https") then .error .scheme
  if !url.hostIsPlain then .error .character
  .ok url

def badProxyUrl (raw : String) (fault : ProxyFault) : Failure :=
  .configuration ("invalid proxy URL: " ++ fault.message)
    { field := some "proxy_url", details := some raw, source := some "http_transport" }

/-- A client for these settings. -/
def ofConfig (config : ClientConfig) : Except Failure Client := do
  let base ← baseUrl config.baseUrl
  match config.proxyUrl with
  | none => .ok { config, base }
  | some raw =>
    match proxyUrl raw with
    | .ok _ => .ok { config, base }
    | .error fault => .error (badProxyUrl raw fault)

/-- The URL of an endpoint. Its leading slashes do not count: it always lies below the base. -/
def resolve (c : Client) (endpoint : String) : Except Failure Url :=
  match c.base.join (String.ofList (endpoint.toList.dropWhile (· = '/'))) with
  | .ok url => .ok url
  | .error fault => .error (.network (.badEndpoint endpoint fault))

def debugText (c : Client) (context : Context) : String :=
  "MotionClient \x7b base_url: " ++ Text.quote c.base.text ++
    ", timeout: " ++ durationText c.config.timeout ++
    ", max_retries: " ++ toString c.config.maxRetries ++
    ", context: " ++ context.debugText ++ " \x7d"

end Client

end CameraConsole
