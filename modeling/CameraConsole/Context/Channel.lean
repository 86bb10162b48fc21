/-!
# Auth events

Subscribers of a channel learn when the daemon demands authentication. The channel keeps the latest
sixteen events; a subscriber that missed older ones is told how many.
-/

namespace CameraConsole

/-- The daemon demanded authentication with this status. -/
structure AuthEvent where
  status : Nat
  deriving DecidableEq, Repr

/-- What a subscriber receives. -/
inductive Notice where
  | event (event : AuthEvent)
  /-- So many events are gone. -/
  | lagged (missed : Nat)
  deriving DecidableEq, Repr

structure Subscriber where
  id : Nat
  /-- How many events of the channel it has passed. -/
  passed : Nat
  deriving DecidableEq, Repr

structure Channel where
  /-- How many events were ever kept. -/
  published : Nat
  /-- The latest events, the oldest first. -/
  recent : List AuthEvent
  subscribers : List Subscriber
  /-- The number of the next subscriber. -/
  nextId : Nat
  deriving DecidableEq, Repr

namespace Channel

def capacity : Nat := 16

def empty : Channel :=
  { published := 0, recent := [], subscribers := [], nextId := 0 }

/-- A new subscriber receives what is published from now on. -/
def subscribe (c : Channel) : Nat × Channel :=
  (c.nextId,
    { c with
      subscribers := c.subscribers ++ [⟨c.nextId, c.published⟩]
      nextId := c.nextId + 1 })

def unsubscribe (c : Channel) (id : Nat) : Channel :=
  { c with subscribers := c.subscribers.filter (·.id ≠ id) }

/-- The last `n` items. -/
def latest {α : Type} (n : Nat) (xs : List α) : List α :=
  xs.drop (xs.length - n)

/-- Publishes an event; without subscribers it is dropped. -/
def publish (c : Channel) (e : AuthEvent) : Channel :=
  if c.subscribers = [] then c
  else { c with published := c.published + 1, recent := latest capacity (c.recent ++ [e]) }

/-- What waits for a subscriber that has passed so many events. -/
def waiting (c : Channel) (passed : Nat) : List Notice :=
  let missed := c.published - passed
  (if capacity < missed then [.lagged (missed - capacity)] else []) ++
    (latest missed c.recent).map .event

/-- The channel after a subscriber has passed so many events. -/
def moveTo (c : Channel) (id passed : Nat) : Channel :=
  { c with
    subscribers := c.subscribers.map fun t => if t.id = id then { t with passed } else t }

/-- A subscriber receives all that waits for it. -/
def drain (c : Channel) (id : Nat) : List Notice × Channel :=
  match c.subscribers.find? (·.id = id) with
  | none => ([], c)
  | some s => (c.waiting s.passed, c.moveTo id c.published)

end Channel

end CameraConsole
