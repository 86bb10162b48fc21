import CameraConsole.Payload.Types

/-!
# Kinds of payload

The payloads that are both decoded and written back, by the names the daemon's API gives them.
-/

namespace CameraConsole

inductive PayloadKind where
  | daemonConfig
  | camera
  | mediaItem
  | temperature
  | uptime
  | usage
  | systemStatus
  | authStatus
  | deletion
  | powerAction
  | parameterChange
  | patchSummary
  | patchOutcome
  deriving DecidableEq, Repr

namespace PayloadKind

def Payload : PayloadKind → Type
  | daemonConfig => DaemonConfig
  | camera => Camera
  | mediaItem => MediaItem
  | temperature => Temperature
  | uptime => Uptime
  | usage => Usage
  | systemStatus => SystemStatus
  | authStatus => AuthStatus
  | deletion => Deletion
  | powerAction => PowerAction
  | parameterChange => ParameterChange
  | patchSummary => PatchSummary
  | patchOutcome => PatchOutcome

def codec : (k : PayloadKind) → Codec k.Payload
  | daemonConfig => DaemonConfig.codec
  | camera => Camera.codec
  | mediaItem => MediaItem.codec
  | temperature => Temperature.codec
  | uptime => Uptime.codec
  | usage => Usage.codec
  | systemStatus => SystemStatus.codec
  | authStatus => AuthStatus.codec
  | deletion => Deletion.codec
  | powerAction => PowerAction.codec
  | parameterChange => ParameterChange.codec
  | patchSummary => PatchSummary.codec
  | patchOutcome => PatchOutcome.codec

def ofName? : String → Option PayloadKind
  | "MotionConfig" => some daemonConfig
  | "Camera" => some camera
  | "MediaItem" => some mediaItem
  | "Temperature" => some temperature
  | "Uptime" => some uptime
  | "Usage" => some usage
  | "SystemStatus" => some systemStatus
  | "AuthStatus" => some authStatus
  | "DeleteResult" => some deletion
  | "PowerResult" => some powerAction
  | "ConfigChange" => some parameterChange
  | "PatchSummary" => some patchSummary
  | "ConfigPatchResult" => some patchOutcome
  | _ => none

/-- Decodes a payload and writes it back. -/
def recode (k : PayloadKind) (v : Json) : Except Mismatch Json := do
  .ok (k.codec.encode (← k.codec.decode v))

end PayloadKind

end CameraConsole
