import CameraConsole.Call.Run
import CameraConsole.Proofs.Journal

/-!
# The course of a call

A call is determined by its client, its request, the context it starts in and the link. Its course
lists the attempts it makes: those that were retried, the main one that ended the loop, and those of
the recovery of a forbidden request. Result, context and journal of a call are functions of its
course; `Client.run_eq` states so.
-/

namespace CameraConsole

/-! ## Attempts -/

/-- What an attempt at a request is given in a context. -/
def Request.dispatch (r : Request) (context : Context) : Dispatch :=
  { method := r.method, endpoint := r.endpoint, body := r.body,
    token := context.tokenFor r.method, credentials := context.credentials }

def Request.again (r : Request) : Request :=
  { r with retryCount := r.retryCount + 1 }

@[simp] theorem Request.again_dispatch (r : Request) : r.again.dispatch = r.dispatch := rfl

def Link.after (l : Link) (a : Attempt) : Link :=
  { l with replies := a.exchange.replies }

namespace Attempt

def status? (a : Attempt) : Option Nat :=
  match a.exchange.outcome with
  | .ok response => some response.status
  | .error _ => none

/-- A mutating verb was answered with 403. -/
def Forbidden (a : Attempt) : Prop :=
  a.status? = some 403 ∧ a.dispatch.method.mutating

instance (a : Attempt) : Decidable a.Forbidden :=
  inferInstanceAs (Decidable (_ ∧ _))

/-- The answer has one of the retryable `statuses`, and it is neither a success nor one that is
handled in another way. -/
def Transient (statuses : List Nat) (a : Attempt) : Prop :=
  ∃ status ∈ a.status?,
    isSuccess status = false ∧ status ≠ 401 ∧ ¬ a.Forbidden ∧ status ∈ statuses

instance (statuses : List Nat) (a : Attempt) : Decidable (a.Transient statuses) :=
  inferInstanceAs (Decidable (∃ _ ∈ _, _))

/-- What a call makes of its main attempt, when there is nothing to recover from. -/
def result (a : Attempt) : Except Failure Json :=
  match a.exchange.outcome with
  | .error failure => .error failure
  | .ok response =>
    if response.isSuccess then readBody response.body
    else if response.status = 401 then .error .authenticationRequired
    else .error (.ofAnswer response.status response.reason)

def freshToken (a : Attempt) : Except Failure (Option String) :=
  match a.exchange.outcome with
  | .error failure => .error failure
  | .ok response =>
    if response.status = 401 then .error .authenticationRequired
    else if response.isSuccess then (readBody response.body).map tokenOf
    else .error (.ofAnswer response.status response.reason)

def granted? (a : Attempt) : Option String :=
  a.freshToken.toOption.join

def replayResult (a : Attempt) : Except Failure Json :=
  match a.exchange.outcome with
  | .error failure => .error failure
  | .ok response =>
    if response.isSuccess then readBody response.body else .error .tokenRejected

def events (statuses : List Nat) (a : Attempt) : List AuthEvent :=
  match a.status? with
  | none => []
  | some status => if status ∈ statuses then [⟨status⟩] else []

end Attempt

/-! ## Courses -/

/-- The attempts that follow a forbidden one. -/
structure Recovery where
  /-- The fetch of the configuration. -/
  fetch : Attempt
  /-- The repetition of the request, when there was a token. -/
  replay : Option Attempt

structure Course where
  retried : List Attempt
  main : Attempt
  recovery : Option Recovery

namespace Recovery

def attempts (v : Recovery) : List Attempt :=
  v.fetch :: v.replay.toList

def result (v : Recovery) : Except Failure Json :=
  (v.replay.map Attempt.replayResult).getD (.error .tokenRejected)

/-- The fetch announces a 401; the replay announces a 401 or a 403. -/
def events (v : Recovery) : List AuthEvent :=
  v.fetch.events [401] ++ (v.replay.map (Attempt.events [401, 403])).getD []

end Recovery

namespace Course

def attempts (course : Course) : List Attempt :=
  course.retried ++ course.main :: (course.recovery.map Recovery.attempts).getD []

def last (course : Course) : Attempt :=
  match course.recovery with
  | none => course.main
  | some v => v.replay.getD v.fetch

def result (course : Course) : Except Failure Json :=
  match course.recovery with
  | none => course.main.result
  | some v => v.result

/-- The events of the call: those of its recovery, else the main attempt announces a 401. -/
def events (course : Course) : List AuthEvent :=
  match course.recovery with
  | none => course.main.events [401]
  | some v => v.events

/-- What the call leaves in the slot of the token, which held `token`. -/
def token (course : Course) (token : Option String) : Option String :=
  match course.recovery with
  | none => token
  | some v => v.fetch.granted?

def context (course : Course) (context : Context) : Context :=
  { context with
    token := course.token context.token
    channel := course.events.foldl Channel.publish context.channel }

def prepend (a : Attempt) (course : Course) : Course :=
  { course with retried := a :: course.retried }

variable (a : Attempt) (course : Course)

@[simp] theorem prepend_retried : (course.prepend a).retried = a :: course.retried := rfl

@[simp] theorem prepend_main : (course.prepend a).main = course.main := rfl

@[simp] theorem prepend_recovery : (course.prepend a).recovery = course.recovery := rfl

@[simp] theorem prepend_attempts : (course.prepend a).attempts = a :: course.attempts := rfl

@[simp] theorem prepend_last : (course.prepend a).last = course.last := rfl

@[simp] theorem prepend_result : (course.prepend a).result = course.result := rfl

@[simp] theorem prepend_events : (course.prepend a).events = course.events := rfl

@[simp] theorem prepend_context : (course.prepend a).context = course.context := rfl

end Course

namespace Client

def trial (c : Client) (r : Request) (context : Context) (link : Link) : Attempt :=
  ⟨r.dispatch context, r.retryCount, c.exchange (r.dispatch context) link⟩

def recovery (c : Client) (r : Request) (context : Context) (link : Link) : Recovery :=
  let fetch := c.trial (.get Resource.config.endpoint) context.invalidateToken link
  { fetch
    replay := fetch.granted?.map fun token => c.trial r (context.setToken token) (link.after fetch) }

/-- The course of a call with `left` retries left. -/
def courseWith (c : Client) (left : Nat) (r : Request) (context : Context) (link : Link) : Course :=
  let main := c.trial r context link
  if main.Forbidden then ⟨[], main, some (c.recovery r context (link.after main))⟩
  else
    match left with
    | 0 => ⟨[], main, none⟩
    | left + 1 =>
      if main.Transient c.config.retryableStatuses then
        (c.courseWith left r.again context (link.after main)).prepend main
      else ⟨[], main, none⟩

def course (c : Client) (r : Request) (w : World) : Course :=
  c.courseWith (c.config.maxRetries - r.retryCount) r w.context w.link

end Client

/-! ## Journals of courses -/

namespace Attempt

def outcomeEvent (call : Nat) (a : Attempt) : LogEvent :=
  match a.exchange.outcome with
  | .ok response => .answered call response.status
  | .error failure => .unanswered call a.dispatch.endpoint failure

def journal (call : Nat) (a : Attempt) : Journal :=
  { attempts := [a]
    sent := a.exchange.sent
    log := [.attempt call a.dispatch.method a.dispatch.endpoint a.retryCount a.dispatch.token.isSome,
      a.outcomeEvent call]
    elapsed := a.exchange.duration }

def pause (config : ClientConfig) (call : Nat) (a : Attempt) : Journal :=
  let delay := config.backoff a.retryCount
  { log := (a.status?.map fun status =>
      .retrying call status a.dispatch.endpoint a.retryCount delay).toList } ++ { elapsed := delay }

/-- What the log says at the end of a call, when there is nothing to recover from. -/
def closingLog (call : Nat) (a : Attempt) : List LogEvent :=
  match a.status? with
  | none => []
  | some status =>
    if isSuccess status then []
    else if status = 401 then
      [.authenticationRequired call a.dispatch.method a.dispatch.endpoint]
    else [.failed call status a.dispatch.method a.dispatch.endpoint a.retryCount]

def replayLog (call : Nat) (a : Attempt) : List LogEvent :=
  match a.status? with
  | none => []
  | some status =>
    if isSuccess status then [.replayed call]
    else [.replayFailed call status a.dispatch.endpoint]

end Attempt

namespace Recovery

def sequel (call : Nat) (heard : Bool) (v : Recovery) : Journal :=
  match v.replay, v.fetch.freshToken with
  | some a, _ =>
    a.journal call ++ { log := a.replayLog call } ++ .announcing heard (a.events [401, 403])
  | none, .error failure => { log := [.refreshFailed call failure] }
  | none, .ok _ => { log := [.noFreshToken call] }

def journal (call : Nat) (heard : Bool) (v : Recovery) : Journal :=
  v.fetch.journal call ++ .announcing heard (v.fetch.events [401]) ++ v.sequel call heard

end Recovery

namespace Course

def ending (call : Nat) (heard : Bool) (course : Course) : Journal :=
  match course.recovery with
  | none => { log := course.main.closingLog call } ++ .announcing heard (course.main.events [401])
  | some v =>
    { log := [.tokenRejected call course.main.dispatch.method course.main.dispatch.endpoint] } ++
      v.journal call heard

def journal (config : ClientConfig) (call : Nat) (heard : Bool) (course : Course) : Journal :=
  course.retried.foldr (fun a j => a.journal call ++ a.pause config call ++ j)
    (course.main.journal call ++ course.ending call heard)

end Course

/-! ## What the journal of a course says -/

section

variable (config : ClientConfig) (call : Nat) (heard : Bool)

namespace Attempt

@[simp] theorem journal_attempts (a : Attempt) : (a.journal call).attempts = [a] := rfl

@[simp] theorem journal_sent (a : Attempt) : (a.journal call).sent = a.exchange.sent := rfl

@[simp] theorem journal_announced (a : Attempt) : (a.journal call).announced = [] := rfl

@[simp] theorem pause_attempts (a : Attempt) : (a.pause config call).attempts = [] := rfl

@[simp] theorem pause_sent (a : Attempt) : (a.pause config call).sent = [] := rfl

@[simp] theorem pause_announced (a : Attempt) : (a.pause config call).announced = [] := rfl

end Attempt

namespace Recovery

theorem journal_attempts (v : Recovery) : (v.journal call heard).attempts = v.attempts := by
  unfold journal sequel attempts
  split <;> simp [*]

theorem journal_sent (v : Recovery) :
    (v.journal call heard).sent = v.attempts.flatMap (·.exchange.sent) := by
  unfold journal sequel attempts
  split <;> simp [*]

theorem journal_announced (v : Recovery) : (v.journal call heard).announced = v.events := by
  unfold journal sequel events
  split <;> simp [*]

end Recovery

namespace Course

theorem ending_attempts (course : Course) :
    (course.ending call heard).attempts = (course.recovery.map Recovery.attempts).getD [] := by
  unfold ending
  cases course.recovery with
  | none => simp
  | some v => simp [v.journal_attempts]

theorem ending_sent (course : Course) :
    (course.ending call heard).sent =
      ((course.recovery.map Recovery.attempts).getD []).flatMap (·.exchange.sent) := by
  unfold ending
  cases course.recovery with
  | none => simp
  | some v => simp [v.journal_sent]

theorem ending_announced (course : Course) :
    (course.ending call heard).announced = course.events := by
  unfold ending events
  cases course.recovery with
  | none => simp
  | some v => simp [v.journal_announced]

theorem journal_prepend (a : Attempt) (course : Course) :
    (course.prepend a).journal config call heard =
      a.journal call ++ a.pause config call ++ course.journal config call heard := rfl

/-- Courses are built from those without retries, one retried attempt after the other. -/
@[elab_as_elim]
theorem prependInduction {motive : Course → Prop}
    (start : ∀ main recovery, motive ⟨[], main, recovery⟩)
    (prepend : ∀ a course, motive course → motive (course.prepend a)) (course : Course) :
    motive course := by
  obtain ⟨retried, main, recovery⟩ := course
  induction retried with
  | nil => exact start main recovery
  | cons a retried ih => exact prepend a _ ih

theorem journal_attempts (course : Course) :
    (course.journal config call heard).attempts = course.attempts := by
  induction course using prependInduction with
  | start main recovery => simp [journal, attempts, ending_attempts]
  | prepend a course ih => simp [journal_prepend, ih]

theorem journal_sent (course : Course) :
    (course.journal config call heard).sent = course.attempts.flatMap (·.exchange.sent) := by
  induction course using prependInduction with
  | start main recovery => simp [journal, attempts, ending_sent]
  | prepend a course ih => simp [journal_prepend, ih]

/-- An attempt that is retried announces nothing. -/
theorem journal_announced (course : Course) :
    (course.journal config call heard).announced = course.events := by
  induction course using prependInduction with
  | start main recovery => simp [journal, ending_announced]
  | prepend a course ih => simp [journal_prepend, ih]

end Course

end

/-! ## Fresh tokens -/

theorem lt_of_isSuccess {status : Nat} (h : isSuccess status) : status < 300 := by
  simp [isSuccess] at h
  exact h.2

theorem tokenOf_eq_some_iff {config : Json} {token : String} :
    tokenOf config = some token ↔
      ∃ members, config = .object members ∧
        members.lookup "csrf_token" = some (.text token) ∧ token ≠ "" := by
  simp only [tokenOf, Option.filter_eq_some_iff, Option.bind_eq_some_iff, decide_eq_true_eq]
  constructor
  · rintro ⟨⟨v, hv, ht⟩, hne⟩
    cases config with
    | object members =>
        cases v with
        | text s => cases ht; exact ⟨members, rfl, hv, hne⟩
        | _ => cases ht
    | _ => cases hv
  · rintro ⟨members, rfl, hv, hne⟩
    exact ⟨⟨_, hv, rfl⟩, hne⟩

namespace Attempt

variable {a : Attempt} {response : Response} {failure : Failure} {token : String}

theorem status?_ok (h : a.exchange.outcome = .ok response) : a.status? = some response.status := by
  simp only [status?, h]

theorem status?_error (h : a.exchange.outcome = .error failure) : a.status? = none := by
  simp only [status?, h]

theorem granted?_eq_some_iff : a.granted? = some token ↔ a.freshToken = .ok (some token) := by
  unfold granted?
  cases a.freshToken with
  | error failure => simp [Except.toOption]
  | ok token => simp [Except.toOption]

theorem granted?_eq_some_iff_answer :
    a.granted? = some token ↔
      ∃ response config, a.exchange.outcome = .ok response ∧ response.isSuccess ∧
        readBody response.body = .ok config ∧ tokenOf config = some token := by
  rw [granted?_eq_some_iff]
  unfold freshToken
  cases h : a.exchange.outcome with
  | error failure => simp
  | ok response =>
      by_cases h2 : response.isSuccess
      · have hlt := lt_of_isSuccess h2
        have h1 : response.status ≠ 401 := by omega
        cases hb : readBody response.body with
        | error failure => simp [h1, h2, Except.map, hb]
        | ok config => simp [h1, h2, Except.map, hb]
      · by_cases h1 : response.status = 401 <;> simp [h1, h2]

theorem granted?_ne_empty (h : a.granted? = some token) : token ≠ "" := by
  obtain ⟨_, _, _, _, _, ht⟩ := granted?_eq_some_iff_answer.mp h
  obtain ⟨_, _, _, hne⟩ := tokenOf_eq_some_iff.mp ht
  exact hne

end Attempt

/-! ## How a course begins -/

namespace Client

variable {c : Client} {left : Nat} {r : Request} {context : Context} {link : Link} {a : Attempt}

theorem dispatch_of_trial (h : c.trial r context link = a) : a.dispatch = r.dispatch context := by
  simp only [← h, trial]

theorem method_of_trial (h : c.trial r context link = a) : a.dispatch.method = r.method := by
  simp only [dispatch_of_trial h, Request.dispatch]

theorem endpoint_of_trial (h : c.trial r context link = a) : a.dispatch.endpoint = r.endpoint := by
  simp only [dispatch_of_trial h, Request.dispatch]

theorem retryCount_of_trial (h : c.trial r context link = a) : a.retryCount = r.retryCount := by
  simp only [← h, trial]

/-- A client with `left` retries left takes this course, said by the way in which it begins. -/
inductive Takes (c : Client) (context : Context) : Nat → Request → Link → Course → Prop where
  | forbidden {left : Nat} {r : Request} {link : Link} {a : Attempt}
      (trial : c.trial r context link = a) (forbidden : a.Forbidden) :
      Takes c context left r link ⟨[], a, some (c.recovery r context (link.after a))⟩
  | settled {left : Nat} {r : Request} {link : Link} {a : Attempt}
      (trial : c.trial r context link = a) (allowed : ¬ a.Forbidden)
      (settled : left = 0 ∨ ¬ a.Transient c.config.retryableStatuses) :
      Takes c context left r link ⟨[], a, none⟩
  | retry {left : Nat} {r : Request} {link : Link} {a : Attempt} {course : Course}
      (trial : c.trial r context link = a) (transient : a.Transient c.config.retryableStatuses)
      (rest : Takes c context left r.again (link.after a) course) :
      Takes c context (left + 1) r link (course.prepend a)

theorem courseWith_takes (c : Client) (context : Context) (left : Nat) (r : Request) (link : Link) :
    c.Takes context left r link (c.courseWith left r context link) := by
  induction left generalizing r link with
  | zero =>
      unfold courseWith
      by_cases hf : (c.trial r context link).Forbidden
      · simpa only [hf, ↓reduceIte] using .forbidden rfl hf
      · simpa only [hf, ↓reduceIte] using .settled rfl hf (.inl rfl)
  | succ left ih =>
      unfold courseWith
      by_cases hf : (c.trial r context link).Forbidden
      · simpa only [hf, ↓reduceIte] using .forbidden rfl hf
      · by_cases ht : (c.trial r context link).Transient c.config.retryableStatuses
        · simpa only [hf, ht, ↓reduceIte] using .retry rfl ht (ih _ _)
        · simpa only [hf, ht, ↓reduceIte] using .settled rfl hf (.inr ht)

theorem course_takes (c : Client) (r : Request) (w : World) :
    c.Takes w.context (c.config.maxRetries - r.retryCount) r w.link (c.course r w) :=
  c.courseWith_takes _ _ _ _

end Client

end CameraConsole
