import CameraConsole.Proofs.Call
import CameraConsole.Proofs.Exchange
import CameraConsole.Session.Basic

/-!
# Actions as calls

Every operation, and every action of a session that is one, makes exactly one call. What happens in
it is what happens in the call; only fetching the configuration also keeps the token that came with
it.
-/

namespace CameraConsole

/-! ## Operations -/

def Operation.request : Operation → Request
  | config => Client.read .config
  | cameras => Client.read .cameras
  | temperature => Client.read .temperature
  | systemStatus => Client.read .systemStatus
  | authStatus => Client.read .authentication
  | pictures cam => Client.read (.pictures cam)
  | movies cam => Client.read (.movies cam)
  | setParameter cam param value => Client.act (.setting cam param value)
  | patchConfig cam changes =>
    { method := .patch, endpoint := (Resource.cameraConfig cam).endpoint,
      body := some (.object changes) }
  | deletePicture cam id => Client.remove (.picture cam id)
  | deleteMovie cam id => Client.remove (.movie cam id)
  | reboot => Client.act .reboot
  | shutdown => Client.act .shutdown

/-- What an operation makes of the body of a successful answer. -/
def Operation.reading : Operation → Json → Except Failure Answer
  | config, v => (payloadOf DaemonConfig.codec v).map .config
  | cameras, v => (payloadOf Camera.listCodec v).map .cameras
  | temperature, v => (payloadOf Temperature.codec v).map .temperature
  | systemStatus, v => (payloadOf SystemStatus.codec v).map .systemStatus
  | authStatus, v => (payloadOf AuthStatus.codec v).map .authStatus
  | pictures _, v => (payloadOf MediaItem.picturesCodec v).map .media
  | movies _, v => (payloadOf MediaItem.moviesCodec v).map .media
  | setParameter .., v => (payloadOf .json v).map .json
  | patchConfig .., v => (payloadOf PatchOutcome.codec v).map .patched
  | deletePicture .., v | deleteMovie .., v => (payloadOf Deletion.codec v).map .deleted
  | reboot, v | shutdown, v => (payloadOf PowerAction.codec v).map .power

/-- A failure that an operation finds in the body of a successful answer. -/
def Failure.InBody (f : Failure) : Prop :=
  (∃ message, f = .daemon message) ∨ ∃ mismatch, f = .network (.wrongPayload mismatch)

theorem payloadOf_inBody {α : Type} {codec : Codec α} {body : Json} {f : Failure}
    (h : payloadOf codec body = .error f) : f.InBody := by
  unfold payloadOf at h
  split at h
  · cases h; exact Or.inl ⟨_, rfl⟩
  · obtain ⟨mismatch, _, rfl⟩ := mapError_eq_error h
    exact Or.inr ⟨mismatch, rfl⟩

/-- How a result follows from that of the call: its failure is passed on, and the body of its answer
may hold another one. -/
inductive Follows {α : Type} : Except Failure Json → Except Failure α → Prop where
  | failed (f : Failure) : Follows (.error f) (.error f)
  | refused (body : Json) {f : Failure} (inBody : f.InBody) : Follows (.ok body) (.error f)
  | done (body : Json) (x : α) : Follows (.ok body) (.ok x)

theorem Follows.map {α β : Type} {x : Except Failure Json} {y : Except Failure α} (f : α → β)
    (h : Follows x y) : Follows x (y.map f) := by
  cases h with
  | failed f => exact .failed f
  | refused body inBody => exact .refused body inBody
  | done body x => exact .done body (f x)

namespace Client

variable {α : Type} (c : Client) (codec : Codec α) (r : Request) (w : World)

theorem fetch_world : (c.fetch codec r w).2 = (c.run r w).2 := by
  unfold fetch
  rcases c.run r w with ⟨_ | _, _⟩ <;> rfl

theorem fetch_result : (c.fetch codec r w).1 = (c.run r w).1.bind (payloadOf codec) := by
  unfold fetch
  rcases c.run r w with ⟨_ | _, _⟩ <;> rfl

theorem fetch_follows : Follows (c.run r w).1 (c.fetch codec r w).1 := by
  unfold fetch
  rcases c.run r w with ⟨failure | body, _⟩
  · exact .failed failure
  · dsimp only
    cases h : payloadOf codec body with
    | error f => exact .refused body (payloadOf_inBody h)
    | ok x => exact .done body x

theorem runAs_world : (c.runAs codec r w).2 = (c.run r w).2 := by
  unfold runAs
  rcases c.run r w with ⟨_ | _, _⟩ <;> rfl

theorem runAs_result : (c.runAs codec r w).1 = (c.run r w).1.bind fun body =>
    (codec.decode body).mapError fun mismatch => .network (.wrongPayload mismatch) := by
  unfold runAs
  rcases c.run r w with ⟨_ | _, _⟩ <;> rfl

theorem runAs_follows : Follows (c.run r w).1 (c.runAs codec r w).1 := by
  unfold runAs
  rcases c.run r w with ⟨failure | body, _⟩
  · exact .failed failure
  · dsimp only
    cases codec.decode body with
    | error mismatch => exact .refused body (Or.inr ⟨mismatch, rfl⟩)
    | ok x => exact .done body x

end Client

/-- The world with a token that is to be kept, if there is one. -/
def World.keep (w : World) : Option String → World
  | none => w
  | some token => w.adjust (·.setToken token)

@[simp] theorem World.keep_journal (w : World) (t : Option String) :
    (w.keep t).journal = w.journal := by
  cases t <;> rfl

@[simp] theorem World.keep_channel (w : World) (t : Option String) :
    (w.keep t).context.channel = w.context.channel := by
  cases t <;> rfl

@[simp] theorem World.keep_credentials (w : World) (t : Option String) :
    (w.keep t).context.credentials = w.context.credentials := by
  cases t <;> rfl

@[simp] theorem World.keep_link (w : World) (t : Option String) : (w.keep t).link = w.link := by
  cases t <;> rfl

def DaemonConfig.token? (config : DaemonConfig) : Option String :=
  config.csrfToken.filter (· ≠ "")

namespace Client

variable (c : Client) (w : World)

theorem daemonConfig_result :
    (c.daemonConfig w).1 = (c.fetch DaemonConfig.codec (read .config) w).1 := by
  unfold daemonConfig
  rcases c.fetch DaemonConfig.codec (read .config) w with ⟨_ | config, _⟩
  · rfl
  · dsimp only
    split <;> rfl

theorem daemonConfig_world :
    (c.daemonConfig w).2 =
      (c.run (read .config) w).2.keep ((c.daemonConfig w).1.toOption.bind DaemonConfig.token?) := by
  rw [daemonConfig_result, ← fetch_world _ DaemonConfig.codec]
  unfold daemonConfig
  rcases c.fetch DaemonConfig.codec (read .config) w with ⟨_ | config, _⟩
  · rfl
  · simp only [Except.toOption, Option.bind_some, DaemonConfig.token?]
    split
    · rename_i h; rw [h]; rfl
    · rename_i h; rw [h]; rfl

end Client

def Credentials.dispatch (k : Credentials) : Dispatch :=
  { method := .get, endpoint := Resource.authentication.endpoint, credentials := some k }

/-- A login makes one attempt, and keeps the credentials or does nothing else. -/
theorem Client.login_world (c : Client) (k : Credentials) (w : World) :
    (c.login k w).2 = (w.transmit c k.dispatch 0).2 ∨
      (c.login k w).2 =
        ((w.transmit c k.dispatch 0).2.adjust (·.setCredentials k)).note (.loggedIn k.username) := by
  unfold login Credentials.dispatch
  dsimp only
  rcases w.transmit c _ 0 with ⟨_ | response, _⟩
  · exact Or.inl rfl
  · dsimp only
    cases loginPayload response with
    | error failure => exact Or.inl rfl
    | ok status => exact Or.inr rfl

theorem Client.login_result (c : Client) (k : Credentials) (w : World) :
    (c.login k w).1 = (c.exchange k.dispatch w.link).outcome.bind loginPayload := by
  unfold login World.transmit Credentials.dispatch
  dsimp only
  cases (c.exchange _ w.link).outcome with
  | error failure => rfl
  | ok response =>
      show _ = loginPayload response
      cases h : loginPayload response <;> simp only [h]

/-- A login that fails keeps nothing. -/
theorem Client.login_failed {c : Client} {k : Credentials} {w : World} {f : Failure}
    (h : (c.login k w).1 = .error f) : (c.login k w).2 = (w.transmit c k.dispatch 0).2 := by
  unfold Credentials.dispatch
  unfold login at h ⊢
  dsimp only at h ⊢
  generalize w.transmit c _ 0 = x at h ⊢
  rcases x with ⟨_ | response, _⟩
  · rfl
  · dsimp only at h ⊢
    cases hp : loginPayload response with
    | error failure => rfl
    | ok status => rw [hp] at h; cases h

theorem Client.login_token (c : Client) (k : Credentials) (w : World) :
    (c.login k w).2.context.token = w.context.token := by
  rcases c.login_world k w with h | h <;> rw [h] <;> rfl

theorem Client.login_sent (c : Client) (k : Credentials) (w : World) :
    (c.login k w).2.journal.sent = w.journal.sent ++ (c.exchange k.dispatch w.link).sent := by
  rcases c.login_world k w with h | h <;> rw [h] <;> rfl

theorem Client.login_attempts (c : Client) (k : Credentials) (w : World) :
    (c.login k w).2.journal.attempts =
      w.journal.attempts ++ [⟨k.dispatch, 0, c.exchange k.dispatch w.link⟩] := by
  rcases c.login_world k w with h | h <;> rw [h] <;> rfl

theorem Client.login_elapsed (c : Client) (k : Credentials) (w : World) :
    (c.login k w).2.journal.elapsed =
      w.journal.elapsed + (c.exchange k.dispatch w.link).duration := by
  rcases c.login_world k w with h | h <;> rw [h] <;> rfl

theorem Client.login_channel (c : Client) (k : Credentials) (w : World) :
    (c.login k w).2.context.channel = w.context.channel := by
  rcases c.login_world k w with h | h <;> rw [h] <;> rfl

theorem Client.login_announced (c : Client) (k : Credentials) (w : World) :
    (c.login k w).2.journal.announced = w.journal.announced := by
  rcases c.login_world k w with h | h <;> rw [h] <;> rfl

def Answer.token? : Answer → Option String
  | config x => x.token?
  | _ => none

namespace Operation

variable (o : Operation) (c : Client) (w : World)

theorem perform_follows : Follows (c.run o.request w).1 (o.perform c w).1 := by
  cases o with
  | config =>
      refine Follows.map _ ?_
      rw [Client.daemonConfig_result]
      exact c.fetch_follows _ _ w
  | _ => exact (c.fetch_follows _ _ w).map _

theorem answer_fetch_result {α : Type} (codec : Codec α) (r : Request) (wrap : α → Answer) :
    (answer wrap (c.fetch codec r w)).1 =
      (c.run r w).1.bind fun v => (payloadOf codec v).map wrap := by
  unfold answer
  rw [c.fetch_result]
  cases (c.run r w).1 <;> rfl

/-- An operation reads the body that its call brings, and passes on the failure of its call. -/
theorem perform_result : (o.perform c w).1 = (c.run o.request w).1.bind o.reading := by
  cases o with
  | config =>
      refine (congrArg (Except.map Answer.config) (c.daemonConfig_result w)).trans ?_
      exact answer_fetch_result c w DaemonConfig.codec _ Answer.config
  | _ => exact answer_fetch_result c w _ _ _

theorem answer_fetch_world {α : Type} (codec : Codec α) (r : Request) (wrap : α → Answer) :
    (answer wrap (c.fetch codec r w)).2 = (c.run r w).2 :=
  c.fetch_world codec r w

theorem answer_token? {α : Type} {wrap : α → Answer} (h : ∀ x, (wrap x).token? = none)
    (result : Except Failure α × World) :
    (answer wrap result).1.toOption.bind Answer.token? = none := by
  rcases result with ⟨_ | x, _⟩
  · rfl
  · exact h x

/-- Only the configuration comes with a token. -/
theorem perform_token? {o : Operation} (h : o ≠ .config) :
    (o.perform c w).1.toOption.bind Answer.token? = none := by
  cases o with
  | config => exact absurd rfl h
  | _ => exact answer_token? (fun _ => rfl) _

/-- An operation leaves the world of its call, with the token that its answer brings. -/
theorem perform_world :
    (o.perform c w).2 =
      (c.run o.request w).2.keep ((o.perform c w).1.toOption.bind Answer.token?) := by
  by_cases ho : o = .config
  · subst ho
    refine (c.daemonConfig_world w).trans ?_
    simp only [perform, answer, request]
    cases (c.daemonConfig w).1 <;> rfl
  · rw [perform_token? c w ho]
    cases o with
    | config => exact absurd rfl ho
    | _ => exact answer_fetch_world c w _ _ _

end Operation

/-! ## Actions -/

namespace Action

def call? : Action → Option (Client × Request)
  | call c r => some (c, r)
  | callAs c _ r => some (c, r)
  | operate c o => some (c, o.request)
  | _ => none

end Action

def Result.token? : Result → Option String
  | answer x => x.token?
  | _ => none

namespace Action

variable {a : Action} {c : Client} {r : Request}

theorem run_follows (h : a.call? = some (c, r)) (w : World) :
    Follows (c.run r w).1 (a.run w).1 := by
  cases a with
  | call c' r' =>
      cases h
      show Follows _ ((c.run r w).1.map _)
      cases (c.run r w).1 with
      | error f => exact .failed f
      | ok body => exact .done body _
  | callAs c' kind r' => cases h; exact (c.runAs_follows _ _ w).map _
  | operate c' o => cases h; exact (o.perform_follows c w).map _
  | _ => cases h

theorem run_world (h : a.call? = some (c, r)) (w : World) :
    (a.run w).2 = (c.run r w).2.keep ((a.run w).1.toOption.bind Result.token?) := by
  cases a with
  | call c' r' =>
      cases h
      simp only [run, map]
      cases (c.run r w).1 <;> rfl
  | callAs c' kind r' =>
      cases h
      simp only [run, map, Client.runAs_world]
      cases (c.runAs kind.codec r w).1 <;> rfl
  | operate c' o =>
      cases h
      refine (o.perform_world c w).trans ?_
      simp only [run, map]
      cases (o.perform c w).1 <;> rfl
  | _ => cases h

end Action

/-! ## Steps -/

namespace Session

variable {a : Action} {c : Client} {r : Request}

theorem step_follows (h : a.call? = some (c, r)) (w : World) :
    Follows (c.course r w).result (step a w).1.result := by
  have hf := Action.run_follows h w.freshJournal
  rwa [c.run_result] at hf

theorem step_attempts (h : a.call? = some (c, r)) (w : World) :
    (step a w).1.journal.attempts = (c.course r w).attempts := by
  simp only [step, Action.run_world h, World.keep_journal, c.run_attempts]
  rfl

end Session

end CameraConsole
