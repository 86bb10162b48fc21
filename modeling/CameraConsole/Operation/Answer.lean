import CameraConsole.Operation.Basic

/-!
# Operations as data

Every operation of the API by name, and what it answers.
-/

namespace CameraConsole

inductive Operation where
  | config
  | cameras
  | temperature
  | systemStatus
  | authStatus
  | pictures (cam : UInt32)
  | movies (cam : UInt32)
  | setParameter (cam : UInt32) (param value : String)
  | patchConfig (cam : UInt32) (changes : List (String × Json))
  | deletePicture (cam : UInt32) (id : UInt64)
  | deleteMovie (cam : UInt32) (id : UInt64)
  | reboot
  | shutdown
  deriving DecidableEq

inductive Answer where
  | config (config : DaemonConfig)
  | cameras (cameras : List Camera)
  | media (items : List MediaItem)
  | temperature (temperature : Temperature)
  | systemStatus (status : SystemStatus)
  | authStatus (status : AuthStatus)
  | patched (outcome : PatchOutcome)
  | deleted (deletion : Deletion)
  | power (action : PowerAction)
  | json (value : Json)
  deriving DecidableEq

/-- An answer as it is shown. -/
def Answer.toJson : Answer → Json
  | config x => DaemonConfig.codec.encode x
  | cameras x => (Codec.list Camera.codec).encode x
  | media x => (Codec.list MediaItem.codec).encode x
  | temperature x => Temperature.codec.encode x
  | systemStatus x => SystemStatus.codec.encode x
  | authStatus x => AuthStatus.codec.encode x
  | patched x => PatchOutcome.codec.encode x
  | deleted x => Deletion.codec.encode x
  | power x => PowerAction.codec.encode x
  | json v => v

namespace Operation

/-- Whether an operation changes something at the daemon. -/
def mutating : Operation → Bool
  | setParameter .. | patchConfig .. | deletePicture .. | deleteMovie .. | reboot | shutdown => true
  | _ => false

/-- Wraps the payload of an operation. -/
def answer {α : Type} (wrap : α → Answer) (result : Except Failure α × World) :
    Except Failure Answer × World :=
  (result.1.map wrap, result.2)

def perform (o : Operation) (c : Client) (w : World) : Except Failure Answer × World :=
  match o with
  | config => answer .config (c.daemonConfig w)
  | cameras => answer .cameras (c.cameras w)
  | temperature => answer .temperature (c.temperature w)
  | systemStatus => answer .systemStatus (c.systemStatus w)
  | authStatus => answer .authStatus (c.authStatus w)
  | pictures cam => answer .media (c.pictures cam w)
  | movies cam => answer .media (c.movies cam w)
  | setParameter cam param value => answer .json (c.setParameter cam param value w)
  | patchConfig cam changes => answer .patched (c.patchConfig cam changes w)
  | deletePicture cam id => answer .deleted (c.deletePicture cam id w)
  | deleteMovie cam id => answer .deleted (c.deleteMovie cam id w)
  | reboot => answer .power (c.reboot w)
  | shutdown => answer .power (c.shutdown w)

end Operation

end CameraConsole
