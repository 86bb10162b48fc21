import CameraConsole.Payload.Layout

/-!
# Payloads of the daemon

What the daemon's resources hold, each with the layout it is decoded from and written back in.
-/

namespace CameraConsole

/-! ## Configuration -/

/-- The daemon's configuration, with the token that guards changes. -/
structure DaemonConfig where
  csrfToken : Option String
  version : String
  /-- The camera list as the daemon reports it. -/
  cameras : Json
  /-- Parameter details by parameter name. -/
  configuration : List (String × Json)
  categories : List (String × Json)
  deriving DecidableEq

def DaemonConfig.codec : Codec DaemonConfig :=
  let layout : Layout _ :=
    .field "csrf_token" (.option .text) (some none) <|
    .field "version" .text (some "") <|
    .field "cameras" .json (some .null) <|
    .field "configuration" .members (some []) <|
    .field "categories" .members (some []) .done
  (layout.codec "MotionConfig").map
    (fun (csrfToken, version, cameras, configuration, categories, _) =>
      { csrfToken, version, cameras, configuration, categories })
    (fun c => (c.csrfToken, c.version, c.cameras, c.configuration, c.categories, ()))

/-- What became of one parameter of a batch of changes. -/
structure ParameterChange where
  param : String
  old : String
  new : String
  unchanged : Bool
  hotReload : Option Bool
  error : Option String
  deriving DecidableEq

def ParameterChange.codec : Codec ParameterChange :=
  let layout : Layout _ :=
    .field "param" .text none <|
    .field "old" .text (some "") <|
    .field "new" .text (some "") <|
    .field "unchanged" .bool (some false) <|
    .field "hot_reload" (.option .bool) (some none) <|
    .field "error" (.option .text) (some none) .done
  (layout.codec "ConfigChange").map
    (fun (param, old, new, unchanged, hotReload, error, _) =>
      { param, old, new, unchanged, hotReload, error })
    (fun c => (c.param, c.old, c.new, c.unchanged, c.hotReload, c.error, ()))

structure PatchSummary where
  total : UInt32
  success : UInt32
  errors : UInt32
  deriving DecidableEq

def PatchSummary.codec : Codec PatchSummary :=
  let layout : Layout _ :=
    .field "total" .uint32 none <|
    .field "success" .uint32 none <|
    .field "errors" .uint32 none .done
  (layout.codec "PatchSummary").map
    (fun (total, success, errors, _) => { total, success, errors })
    (fun s => (s.total, s.success, s.errors, ()))

/-- The daemon's answer to a batch of changes. -/
structure PatchOutcome where
  status : String
  applied : List ParameterChange
  summary : PatchSummary
  deriving DecidableEq

def PatchOutcome.codec : Codec PatchOutcome :=
  let layout : Layout _ :=
    .field "status" .text none <|
    .field "applied" (.list ParameterChange.codec) (some []) <|
    .field "summary" PatchSummary.codec (some ⟨0, 0, 0⟩) .done
  (layout.codec "ConfigPatchResult").map
    (fun (status, applied, summary, _) => { status, applied, summary })
    (fun p => (p.status, p.applied, p.summary, ()))

/-- The parameters that the daemon refused, each with its reason. -/
def PatchOutcome.rejected (p : PatchOutcome) : List (String × String) :=
  p.applied.filterMap fun c => c.error.map (c.param, ·)

/-! ## Cameras and media -/

structure Camera where
  id : UInt32
  name : String
  url : String
  deriving DecidableEq

def Camera.codec : Codec Camera :=
  let layout : Layout _ :=
    .field "id" .uint32 none <| .field "name" .text none <| .field "url" .text none .done
  (layout.codec "Camera").map
    (fun (id, name, url, _) => { id, name, url })
    (fun c => (c.id, c.name, c.url, ()))

/-- A picture or a movie that the daemon recorded. -/
structure MediaItem where
  id : UInt64
  filename : String
  path : String
  date : String
  time : Option String
  size : UInt64
  deriving DecidableEq

def MediaItem.codec : Codec MediaItem :=
  let layout : Layout _ :=
    .field "id" .uint64 none <|
    .field "filename" .text none <|
    .field "path" .text none <|
    .field "date" .text none <|
    .field "time" (.option .text) (some none) <|
    .field "size" .uint64 none .done
  (layout.codec "MediaItem").map
    (fun (id, filename, path, date, time, size, _) => { id, filename, path, date, time, size })
    (fun m => (m.id, m.filename, m.path, m.date, m.time, m.size, ()))

/-- A list that comes as the one field of an object. -/
def listCodec {α : Type} (name field : String) (item : Codec α) : Codec (List α) :=
  ((Layout.field field (.list item) none .done).codec name).map (·.1) (·, ())

def Camera.listCodec : Codec (List Camera) :=
  CameraConsole.listCodec "CamerasResponse" "cameras" Camera.codec

def MediaItem.picturesCodec : Codec (List MediaItem) :=
  CameraConsole.listCodec "PicturesResponse" "pictures" MediaItem.codec

def MediaItem.moviesCodec : Codec (List MediaItem) :=
  CameraConsole.listCodec "MoviesResponse" "movies" MediaItem.codec

/-- The answer to the deletion of a picture or a movie. -/
structure Deletion where
  success : Bool
  deletedId : UInt64
  deriving DecidableEq

def Deletion.codec : Codec Deletion :=
  let layout : Layout _ := .field "success" .bool none <| .field "deleted_id" .uint64 none .done
  (layout.codec "DeleteResult").map
    (fun (success, deletedId, _) => { success, deletedId })
    (fun d => (d.success, d.deletedId, ()))

/-! ## The host -/

structure Temperature where
  celsius : Double
  fahrenheit : Double
  deriving DecidableEq

def Temperature.codec : Codec Temperature :=
  let layout : Layout _ := .field "celsius" .real none <| .field "fahrenheit" .real none .done
  (layout.codec "Temperature").map
    (fun (celsius, fahrenheit, _) => { celsius, fahrenheit })
    (fun t => (t.celsius, t.fahrenheit, ()))

structure Uptime where
  seconds : UInt64
  days : UInt64
  hours : UInt64
  deriving DecidableEq

def Uptime.codec : Codec Uptime :=
  let layout : Layout _ :=
    .field "seconds" .uint64 none <| .field "days" .uint64 none <| .field "hours" .uint64 none .done
  (layout.codec "Uptime").map
    (fun (seconds, days, hours, _) => { seconds, days, hours })
    (fun u => (u.seconds, u.days, u.hours, ()))

/-- How much of the memory or the disk is in use, in bytes. -/
structure Usage where
  total : UInt64
  used : UInt64
  free : UInt64
  available : UInt64
  percent : Double
  deriving DecidableEq

def Usage.codec : Codec Usage :=
  let layout : Layout _ :=
    .field "total" .uint64 none <|
    .field "used" .uint64 none <|
    .field "free" .uint64 none <|
    .field "available" .uint64 none <|
    .field "percent" .real none .done
  (layout.codec "Usage").map
    (fun (total, used, free, available, percent, _) => { total, used, free, available, percent })
    (fun u => (u.total, u.used, u.free, u.available, u.percent, ()))

/-- The state of the host. What it cannot report is absent. -/
structure SystemStatus where
  temperature : Option Temperature
  uptime : Option Uptime
  memory : Option Usage
  disk : Option Usage
  version : String
  deriving DecidableEq

def SystemStatus.codec : Codec SystemStatus :=
  let layout : Layout _ :=
    .field "temperature" (.option Temperature.codec) (some none) <|
    .field "uptime" (.option Uptime.codec) (some none) <|
    .field "memory" (.option Usage.codec) (some none) <|
    .field "disk" (.option Usage.codec) (some none) <|
    .field "version" .text (some "") .done
  (layout.codec "SystemStatus").map
    (fun (temperature, uptime, memory, disk, version, _) =>
      { temperature, uptime, memory, disk, version })
    (fun s => (s.temperature, s.uptime, s.memory, s.disk, s.version, ()))

structure AuthStatus where
  authenticated : Bool
  authMethod : Option String
  deriving DecidableEq

def AuthStatus.codec : Codec AuthStatus :=
  let layout : Layout _ :=
    .field "authenticated" .bool none <| .field "auth_method" (.option .text) (some none) .done
  (layout.codec "AuthStatus").map
    (fun (authenticated, authMethod, _) => { authenticated, authMethod })
    (fun a => (a.authenticated, a.authMethod, ()))

/-- The daemon's answer to a request to reboot or shut down its host. -/
structure PowerAction where
  success : Bool
  operation : String
  message : String
  deriving DecidableEq

def PowerAction.codec : Codec PowerAction :=
  let layout : Layout _ :=
    .field "success" .bool none <|
    .field "operation" .text none <|
    .field "message" .text none .done
  (layout.codec "PowerResult").map
    (fun (success, operation, message, _) => { success, operation, message })
    (fun p => (p.success, p.operation, p.message, ()))

end CameraConsole
