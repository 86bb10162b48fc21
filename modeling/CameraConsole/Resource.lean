import CameraConsole.Form

/-!
# Resources of the daemon

What the daemon's API offers, and the path of each. Cameras have numbers; camera 0 stands for all.
-/

namespace CameraConsole

inductive Resource where
  | config
  | cameras
  | temperature
  | systemStatus
  | authentication
  | reboot
  | shutdown
  | pictures (cam : UInt32)
  | movies (cam : UInt32)
  | picture (cam : UInt32) (id : UInt64)
  | movie (cam : UInt32) (id : UInt64)
  /-- The configuration of a camera, for a batch of changes. -/
  | cameraConfig (cam : UInt32)
  /-- One parameter of a camera. -/
  | setting (cam : UInt32) (param value : String)
  deriving DecidableEq, Repr

/-- The path of a resource, with its query. -/
def Resource.endpoint : Resource → String
  | config => "/0/api/config"
  | cameras => "/0/api/cameras"
  | temperature => "/0/api/system/temperature"
  | systemStatus => "/0/api/system/status"
  | authentication => "/0/api/auth/me"
  | reboot => "/0/api/system/reboot"
  | shutdown => "/0/api/system/shutdown"
  | pictures cam => "/" ++ toString cam.toNat ++ "/api/media/pictures"
  | movies cam => "/" ++ toString cam.toNat ++ "/api/media/movies"
  | picture cam id => "/" ++ toString cam.toNat ++ "/api/media/picture/" ++ toString id.toNat
  | movie cam id => "/" ++ toString cam.toNat ++ "/api/media/movie/" ++ toString id.toNat
  | cameraConfig cam => "/" ++ toString cam.toNat ++ "/api/config"
  | setting cam param value =>
    "/" ++ toString cam.toNat ++ "/config/set?" ++ Form.encode param ++ "=" ++ Form.encode value

end CameraConsole
