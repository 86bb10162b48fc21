import CameraConsole.Http.Message

/-!
# Links to the daemon

The world behind a client: whether the daemon can be reached, and what it will answer. Every request
that reaches it takes the next reply.
-/

namespace CameraConsole

/-- How an answer breaks down. -/
inductive Breakdown where
  /-- The connection is closed without an answer. -/
  | close
  /-- The answer is not HTTP. -/
  | garbage
  /-- The body ends too early. -/
  | truncate
  deriving DecidableEq, Repr

structure Reply where
  status : Nat := 200
  reason : String := ""
  body : List UInt8 := []
  /-- Milliseconds before anything is sent. -/
  delay : Nat := 0
  /-- Milliseconds between head and body. -/
  bodyDelay : Nat := 0
  location : Option String := none
  breakdown : Option Breakdown := none
  deriving DecidableEq, Repr

inductive Route where
  | direct
  /-- There is no way to the daemon's network. -/
  | unreachable
  /-- Nobody listens at the daemon's address. -/
  | refused
  deriving DecidableEq, Repr

structure Link where
  route : Route
  /-- After the last reply every connection is closed without an answer. -/
  replies : List Reply
  deriving DecidableEq, Repr

namespace Reply

/-- The statuses 204 and 304 never come with a body. -/
def hasBody (r : Reply) : Bool :=
  r.status ≠ 204 && r.status ≠ 304

/-- A reason phrase that is not ASCII is lost. -/
def response (r : Reply) : Response where
  status := r.status
  reason := if r.reason.toList.all (·.toNat < 0x80) then r.reason else ""
  body := if r.hasBody then Text.received r.body else ""

end Reply

end CameraConsole
