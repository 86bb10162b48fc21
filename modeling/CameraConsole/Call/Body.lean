import CameraConsole.Failure
import CameraConsole.Json.Reader

/-!
# Bodies of answers

A blank body is read as an empty object; any other has to be JSON.
-/

namespace CameraConsole

def readBody (body : String) : Except Failure Json :=
  if Text.blank body then .ok (.object [])
  else (Json.ofText body).mapError fun fault => .network (.notJson fault)

/-- The token of a configuration: a member `csrf_token` that is a text other than the empty one. -/
def tokenOf (config : Json) : Option String :=
  ((config.member? "csrf_token").bind Json.text?).filter (· ≠ "")

end CameraConsole
