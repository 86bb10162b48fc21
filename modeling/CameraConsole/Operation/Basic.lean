import CameraConsole.Call.Run
import CameraConsole.Payload.Types

/-!
# Operations

The daemon's API in terms of its payloads. A successful answer may still report an error in its
body.
-/

namespace CameraConsole

/-- The error that a body reports: a text `error`, or the status `error` with a message. -/
def reportedError (body : Json) : Option String :=
  match (body.member? "error").bind Json.text? with
  | some message => some message
  | none =>
    if (body.member? "status").bind Json.text? = some "error" then
      some (((body.member? "message").bind Json.text?).getD "daemon reported an error")
    else none

/-- The payload of a body that reports no error. -/
def payloadOf {α : Type} (codec : Codec α) (body : Json) : Except Failure α :=
  match reportedError body with
  | some message => .error (.daemon message)
  | none => (codec.decode body).mapError fun mismatch => .network (.wrongPayload mismatch)

namespace Client

/-- Runs a call and takes the payload of its answer. -/
def fetch {α : Type} (c : Client) (codec : Codec α) (r : Request) (w : World) :
    Except Failure α × World :=
  match c.run r w with
  | (.error failure, w) => (.error failure, w)
  | (.ok body, w) => (payloadOf codec body, w)

/-- Runs a call and decodes its answer as it is. -/
def runAs {α : Type} (c : Client) (codec : Codec α) (r : Request) (w : World) :
    Except Failure α × World :=
  match c.run r w with
  | (.error failure, w) => (.error failure, w)
  | (.ok body, w) =>
    ((codec.decode body).mapError fun mismatch => .network (.wrongPayload mismatch), w)

def read (resource : Resource) : Request :=
  .get resource.endpoint

/-- A request to act, with an empty object as its body. -/
def act (resource : Resource) : Request :=
  { method := .post, endpoint := resource.endpoint, body := some (.object []) }

def remove (resource : Resource) : Request :=
  { method := .delete, endpoint := resource.endpoint }

/-! ## Configuration -/

/-- Fetches the configuration and keeps the token that comes with it. -/
def daemonConfig (c : Client) (w : World) : Except Failure DaemonConfig × World :=
  match c.fetch DaemonConfig.codec (read .config) w with
  | (.error failure, w) => (.error failure, w)
  | (.ok config, w) =>
    match config.csrfToken.filter (· ≠ "") with
    | none => (.ok config, w)
    | some token => (.ok config, w.adjust (·.setToken token))

def setParameter (c : Client) (cam : UInt32) (param value : String) (w : World) :
    Except Failure Json × World :=
  c.fetch .json (act (.setting cam param value)) w

def patchConfig (c : Client) (cam : UInt32) (changes : List (String × Json)) (w : World) :
    Except Failure PatchOutcome × World :=
  c.fetch PatchOutcome.codec
    { method := .patch, endpoint := (Resource.cameraConfig cam).endpoint,
      body := some (.object changes) } w

/-! ## Cameras, media and the host -/

def cameras (c : Client) (w : World) : Except Failure (List Camera) × World :=
  c.fetch Camera.listCodec (read .cameras) w

def pictures (c : Client) (cam : UInt32) (w : World) : Except Failure (List MediaItem) × World :=
  c.fetch MediaItem.picturesCodec (read (.pictures cam)) w

def movies (c : Client) (cam : UInt32) (w : World) : Except Failure (List MediaItem) × World :=
  c.fetch MediaItem.moviesCodec (read (.movies cam)) w

def deletePicture (c : Client) (cam : UInt32) (id : UInt64) (w : World) :
    Except Failure Deletion × World :=
  c.fetch Deletion.codec (remove (.picture cam id)) w

def deleteMovie (c : Client) (cam : UInt32) (id : UInt64) (w : World) :
    Except Failure Deletion × World :=
  c.fetch Deletion.codec (remove (.movie cam id)) w

def temperature (c : Client) (w : World) : Except Failure Temperature × World :=
  c.fetch Temperature.codec (read .temperature) w

def systemStatus (c : Client) (w : World) : Except Failure SystemStatus × World :=
  c.fetch SystemStatus.codec (read .systemStatus) w

def reboot (c : Client) (w : World) : Except Failure PowerAction × World :=
  c.fetch PowerAction.codec (act .reboot) w

def shutdown (c : Client) (w : World) : Except Failure PowerAction × World :=
  c.fetch PowerAction.codec (act .shutdown) w

/-! ## Authentication -/

def authStatus (c : Client) (w : World) : Except Failure AuthStatus × World :=
  c.fetch AuthStatus.codec (read .authentication) w

/-- The payload of a login's answer. -/
def loginPayload (response : Response) : Except Failure AuthStatus :=
  if response.isSuccess then do payloadOf AuthStatus.codec (← readBody response.body)
  else if response.status = 401 ∨ response.status = 403 then
    .error (.authentication response.status "Invalid username or password")
  else
    .error (.http response.status ("Authentication failed (" ++ toString response.status ++ ")"))

/-- Tries credentials in a single attempt, and keeps them when the daemon takes them. A rejection is
an answer here, so it is not announced. -/
def login (c : Client) (credentials : Credentials) (w : World) :
    Except Failure AuthStatus × World :=
  let dispatch : Dispatch :=
    { method := .get, endpoint := Resource.authentication.endpoint,
      credentials := some credentials }
  match w.transmit c dispatch 0 with
  | (.error failure, w) => (.error failure, w)
  | (.ok response, w) =>
    match loginPayload response with
    | .error failure => (.error failure, w)
    | .ok status =>
      (.ok status,
        (w.adjust (·.setCredentials credentials)).note (.loggedIn credentials.username))

end Client

end CameraConsole
