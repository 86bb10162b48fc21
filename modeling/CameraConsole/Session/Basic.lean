import CameraConsole.Client.Builder
import CameraConsole.Operation.Answer
import CameraConsole.Payload.Kind

/-!
# Sessions

A session is a sequence of actions by clients that share one context, against one link.
-/

namespace CameraConsole

inductive Action where
  | call (client : Client) (request : Request)
  /-- A call whose answer is decoded as a payload of this kind. -/
  | callAs (client : Client) (kind : PayloadKind) (request : Request)
  /-- A single attempt, outside of any call. -/
  | dispatch (client : Client) (dispatch : Dispatch)
  | operate (client : Client) (operation : Operation)
  | login (client : Client) (credentials : Credentials)
  | logout
  | setToken (token : String)
  | invalidateToken
  | setCredentials (credentials : Credentials)
  | clearCredentials
  | subscribe
  | unsubscribe (id : Nat)
  | drain (id : Nat)
  | describeClient (client : Client)
  | describeContext
  deriving DecidableEq

/-- What an action gives. -/
inductive Result where
  | nothing
  | json (value : Json)
  | response (response : Response)
  | answer (answer : Answer)
  | subscriber (id : Nat)
  | notices (notices : List Notice)
  | description (text : String)
  deriving DecidableEq

namespace Action

def map {α β : Type} (f : α → β) (result : Except Failure α × World) :
    Except Failure β × World :=
  (result.1.map f, result.2)

def run (a : Action) (w : World) : Except Failure Result × World :=
  match a with
  | call c r => map .json (c.run r w)
  | callAs c kind r => map (.json ∘ kind.codec.encode) (c.runAs kind.codec r w)
  | dispatch c d => map .response (w.transmit c d 0)
  | operate c o => map .answer (o.perform c w)
  | login c credentials => map (.answer ∘ .authStatus) (c.login credentials w)
  | logout | clearCredentials => (.ok .nothing, w.adjust Context.clearCredentials)
  | setToken token => (.ok .nothing, w.adjust (·.setToken token))
  | invalidateToken => (.ok .nothing, w.adjust Context.invalidateToken)
  | setCredentials credentials => (.ok .nothing, w.adjust (·.setCredentials credentials))
  | subscribe =>
    let (id, channel) := w.context.channel.subscribe
    (.ok (.subscriber id), w.adjust ({ · with channel }))
  | unsubscribe id =>
    (.ok .nothing, w.adjust fun c => { c with channel := c.channel.unsubscribe id })
  | drain id =>
    let (notices, channel) := w.context.channel.drain id
    (.ok (.notices notices), w.adjust ({ · with channel }))
  | describeClient c => (.ok (.description (c.debugText w.context)), w)
  | describeContext => (.ok (.description w.context.debugText), w)

end Action

/-- What a step of a session shows: its result, what happened during it, and the context after
it. -/
structure Step where
  result : Except Failure Result
  journal : Journal
  context : Context

namespace Session

/-- Builds clients one after the other in one context. -/
def build : List Builder → Context → Except Failure (List Client × Context)
  | [], context => .ok ([], context)
  | b :: builders, context => do
    let (client, context) ← b.build context
    let (clients, context) ← build builders context
    .ok (client :: clients, context)

def step (a : Action) (w : World) : Step × World :=
  let (result, w) := a.run w.freshJournal
  ({ result, journal := w.journal, context := w.context }, w)

def run : List Action → World → List Step × World
  | [], w => ([], w)
  | a :: actions, w =>
    let (s, w) := step a w
    let (steps, w) := run actions w
    (s :: steps, w)

end Session

end CameraConsole
