import CameraConsole.Proofs.Actions
import CameraConsole.Proofs.Results

/-!
# The log of calls

What the log of a call says about its attempts: each has a pair of events that tells how it began
and what became of it, a retry is told between the attempts that it lies between, and all events of
a call carry its number.
-/

namespace CameraConsole

/-! ## Events -/

namespace LogEvent

/-- The event tells how an attempt of this call begins. -/
structure Opens (call : Nat) (a : Attempt) (e : LogEvent) : Prop where
  level : e.level = .debug
  message : e.message = "motion-console request attempt"
  number : e.call? = some call
  fields : e.fields =
    [("method", .text a.dispatch.method.text), ("endpoint", .text a.dispatch.endpoint),
      ("retry_count", .number a.retryCount), ("has_csrf_token", .bool a.dispatch.token.isSome)]

/-- The event tells what became of an attempt of this call. -/
inductive Closes (call : Nat) (a : Attempt) (e : LogEvent) : Prop where
  | answered {response : Response} (outcome : a.exchange.outcome = .ok response)
      (level : e.level = .debug) (message : e.message = "motion-console response received")
      (number : e.call? = some call) (fields : e.fields = [("http_status", .number response.status)])
  | unanswered {f : Failure} (outcome : a.exchange.outcome = .error f)
      (level : e.level = .info) (message : e.message = "motion-console request did not complete")
      (number : e.call? = some call)
      (fields : e.fields = [("endpoint", .text a.dispatch.endpoint), ("error", .words f.display)])

/-- The event tells that this attempt is retried, with the status of its answer. -/
structure Retries (call : Nat) (a : Attempt) (e : LogEvent) : Prop where
  level : e.level = .warn
  message : e.message = "motion-console transient failure, retrying"
  number : e.call? = some call
  status : ∃ status, a.status? = some status ∧ ("http_status", .number status) ∈ e.fields

/-- The event carries the number of this call, or it is about an auth event that nobody heard. -/
def Within (call : Nat) (e : LogEvent) : Prop :=
  e.call? = some call ∨ e.message = "auth event dropped: no subscribers" ∧ e.call? = none

/-- The event of this call tells something else. -/
structure Aside (call : Nat) (e : LogEvent) : Prop where
  message : e.message ∉ ["motion-console request attempt", "motion-console response received",
    "motion-console request did not complete", "motion-console transient failure, retrying"]
  within : e.Within call

variable {call : Nat} {a : Attempt} {e : LogEvent}

theorem Closes.number (h : e.Closes call a) : e.call? = some call := by
  cases h with
  | answered _ _ _ number _ => exact number
  | unanswered _ _ _ number _ => exact number

theorem Closes.message (h : e.Closes call a) :
    e.message = "motion-console response received" ∨
      e.message = "motion-console request did not complete" := by
  cases h with
  | answered _ _ message _ _ => exact .inl message
  | unanswered _ _ message _ _ => exact .inr message

end LogEvent

/-- The log tells of these attempts, in their order: of each that was retried how it began, what
became of it and that it is retried; then of each of the others how it began and what became of it.
Around the pairs of the others it may tell something else. -/
inductive Audit (call : Nat) : List Attempt → List Attempt → List LogEvent → Prop where
  | done : Audit call [] [] []
  | retried {a : Attempt} {retried others : List Attempt} {e e' e'' : LogEvent} {log : List LogEvent}
      (opens : e.Opens call a) (closes : e'.Closes call a) (retries : e''.Retries call a)
      (rest : Audit call retried others log) :
      Audit call (a :: retried) others (e :: e' :: e'' :: log)
  | other {a : Attempt} {others : List Attempt} {e e' : LogEvent} {log : List LogEvent}
      (opens : e.Opens call a) (closes : e'.Closes call a) (rest : Audit call [] others log) :
      Audit call [] (a :: others) (e :: e' :: log)
  | aside {others : List Attempt} {e : LogEvent} {log : List LogEvent} (aside : e.Aside call)
      (rest : Audit call [] others log) : Audit call [] others (e :: log)

namespace Audit

variable {call : Nat} {retried others : List Attempt} {log : List LogEvent}

theorem within (h : Audit call retried others log) : ∀ e ∈ log, e.Within call := by
  induction h with
  | done => exact List.forall_mem_nil _
  | retried opens closes retries _ ih =>
      simp only [List.forall_mem_cons]
      exact ⟨.inl opens.number, .inl closes.number, .inl retries.number, ih⟩
  | other opens closes _ ih =>
      simp only [List.forall_mem_cons]
      exact ⟨.inl opens.number, .inl closes.number, ih⟩
  | aside aside _ ih => exact List.forall_mem_cons.mpr ⟨aside.within, ih⟩

/-- There are as many pairs as attempts, and as many retries told as attempts retried. -/
theorem counts (h : Audit call retried others log) :
    log.countP (·.message = "motion-console request attempt") = retried.length + others.length ∧
      log.countP (·.message = "motion-console transient failure, retrying") = retried.length := by
  induction h with
  | done => exact ⟨rfl, rfl⟩
  | retried opens closes retries _ ih =>
      rcases closes.message with hm | hm
      all_goals
        simp only [List.countP_cons, opens.message, hm, retries.message, ih, List.length_cons]
        exact ⟨by simp; omega, by simp⟩
  | other opens closes _ ih =>
      rcases closes.message with hm | hm
      all_goals
        simp only [List.countP_cons, opens.message, hm, ih, List.length_cons]
        exact ⟨by simp, by simp⟩
  | aside aside _ ih =>
      have hm := aside.message
      simp only [List.mem_cons, not_or] at hm
      simp only [List.countP_cons, hm, ih]
      exact ⟨by simp, by simp⟩

theorem asides {es : List LogEvent} (he : ∀ e ∈ es, e.Aside call) (h : Audit call [] others log) :
    Audit call [] others (es ++ log) := by
  induction es with
  | nil => exact h
  | cons e es ih =>
      obtain ⟨hfirst, hrest⟩ := List.forall_mem_cons.mp he
      exact .aside hfirst (ih hrest)

end Audit

/-! ## Journals -/

section

variable (config : ClientConfig) (call : Nat) (heard : Bool)

namespace Attempt

variable (a : Attempt)

theorem opens : (LogEvent.attempt call a.dispatch.method a.dispatch.endpoint a.retryCount
    a.dispatch.token.isSome).Opens call a :=
  ⟨rfl, rfl, rfl, rfl⟩

theorem closes : (a.outcomeEvent call).Closes call a := by
  unfold outcomeEvent
  cases h : a.exchange.outcome with
  | ok response => exact .answered h rfl rfl rfl rfl
  | error f => exact .unanswered h rfl rfl rfl rfl

theorem closingLog_asides : ∀ e ∈ a.closingLog call, e.Aside call := by
  unfold closingLog
  repeat' split
  · exact List.forall_mem_nil _
  · exact List.forall_mem_nil _
  · exact List.forall_mem_singleton.mpr ⟨by simp [LogEvent.message], .inl rfl⟩
  · exact List.forall_mem_singleton.mpr ⟨by simp [LogEvent.message], .inl rfl⟩

theorem replayLog_asides : ∀ e ∈ a.replayLog call, e.Aside call := by
  unfold replayLog
  repeat' split
  · exact List.forall_mem_nil _
  · exact List.forall_mem_singleton.mpr ⟨by simp [LogEvent.message], .inl rfl⟩
  · exact List.forall_mem_singleton.mpr ⟨by simp [LogEvent.message], .inl rfl⟩

end Attempt

theorem Journal.announcing_asides (es : List AuthEvent) :
    ∀ e ∈ (announcing heard es).log, e.Aside call := by
  intro e he
  cases heard with
  | true => cases he
  | false =>
      obtain ⟨event, _, rfl⟩ := List.mem_map.mp he
      exact ⟨by simp [LogEvent.message], .inr ⟨rfl, rfl⟩⟩

theorem Recovery.audit_sequel (v : Recovery) :
    Audit call [] v.replay.toList (v.sequel call heard).log := by
  unfold sequel
  cases v.replay with
  | some a =>
      have hannounced :=
        Audit.asides (Journal.announcing_asides call heard (a.events [401, 403])) .done
      have hreplay := hannounced.asides (a.replayLog_asides call)
      rw [List.append_nil] at hreplay
      exact .other (a.opens call) (a.closes call) hreplay
  | none =>
      cases v.fetch.freshToken with
      | error f => exact .aside ⟨by simp [LogEvent.message], .inl rfl⟩ .done
      | ok token => exact .aside ⟨by simp [LogEvent.message], .inl rfl⟩ .done

theorem Recovery.audit (v : Recovery) : Audit call [] v.attempts (v.journal call heard).log := by
  have hsequel := v.audit_sequel call heard
  have hannounced := hsequel.asides (Journal.announcing_asides call heard (v.fetch.events [401]))
  exact .other (v.fetch.opens call) (v.fetch.closes call) hannounced

theorem Course.audit_ending (course : Course) :
    Audit call [] ((course.recovery.map Recovery.attempts).getD [])
      (course.ending call heard).log := by
  unfold ending
  cases course.recovery with
  | none =>
      have hannounced :=
        Audit.asides (Journal.announcing_asides call heard (course.main.events [401])) .done
      rw [List.append_nil] at hannounced
      exact hannounced.asides (course.main.closingLog_asides call)
  | some v => exact .aside ⟨by simp [LogEvent.message], .inl rfl⟩ (v.audit call heard)

end

/-! ## Calls -/

namespace Client

variable {c : Client} {context : Context} {left : Nat} {r : Request} {link : Link} {course : Course}

/-- An attempt is retried only after an answer, so its retry is told with the status of that. -/
theorem Takes.audit (h : c.Takes context left r link course) (call : Nat) (heard : Bool) :
    Audit call course.retried (course.main :: (course.recovery.map Recovery.attempts).getD [])
      (course.journal c.config call heard).log := by
  induction h with
  | @forbidden _ _ _ a _ _ =>
      exact .other (a.opens call) (a.closes call) (Course.audit_ending call heard _)
  | @settled _ _ _ a _ _ _ =>
      exact .other (a.opens call) (a.closes call) (Course.audit_ending call heard _)
  | @retry _ _ _ a _ _ ht _ ih =>
      obtain ⟨status, hs, _⟩ := ht
      rw [Option.mem_def] at hs
      rw [Course.journal_prepend, Journal.append_log, Journal.append_log]
      simp only [Attempt.pause, hs]
      refine .retried (a.opens call) (a.closes call) ⟨rfl, rfl, rfl, status, hs, ?_⟩ ih
      exact List.mem_cons_self

theorem run_log (c : Client) (r : Request) (w : World) :
    (c.run r w).2.journal.log = w.journal.log ++
      ((c.course r w).journal c.config w.nextCall w.context.channel.heard).log := by
  rw [run_eq]
  rfl

theorem run_nextCall (c : Client) (r : Request) (w : World) :
    (c.run r w).2.nextCall = w.nextCall + 1 := by
  rw [run_eq]
  rfl

/-- Every message of an attempt carries the token that the attempt was given, and none without one. -/
theorem Takes.sent_token (h : c.Takes context left r link course) {a : Attempt}
    (ha : a ∈ course.attempts) :
    ∀ m ∈ a.exchange.sent, m.headers.csrfToken = a.dispatch.token.toList := by
  intro m hm
  obtain ⟨link', hx⟩ := h.serves.exchange_of_mem ha
  rw [hx] at hm
  exact exchange_csrfToken hm

end Client

/-! ## Sessions -/

namespace Session

variable {a : Action} {c : Client} {r : Request}

theorem step_log (h : a.call? = some (c, r)) (w : World) :
    (step a w).1.journal.log =
      ((c.course r w).journal c.config w.nextCall w.context.channel.heard).log := by
  simp only [step, Action.run_world h, World.keep_journal, c.run_log]
  rfl

theorem step_nextCall (a : Action) (w : World) :
    (step a w).2.nextCall = if a.call?.isSome then w.nextCall + 1 else w.nextCall := by
  cases h : a.call? with
  | some call =>
      obtain ⟨c, r⟩ := call
      have hkeep (v : World) (t : Option String) : (v.keep t).nextCall = v.nextCall := by
        cases t <;> rfl
      have hw := congrArg World.nextCall (Action.run_world h w.freshJournal)
      rw [hkeep, c.run_nextCall] at hw
      exact hw
  | none =>
      cases a with
      | call _ _ | callAs _ _ _ | operate _ _ => cases h
      | login c k =>
          rcases c.login_world k w.freshJournal with hw | hw
          · exact (congrArg World.nextCall hw).trans rfl
          · exact (congrArg World.nextCall hw).trans rfl
      | _ => rfl

/-- An action without a call says nothing in the name of one. -/
theorem step_log_uncalled (h : a.call? = none) (w : World) :
    ∀ e ∈ (step a w).1.journal.log, e.call? = none := by
  cases a with
  | call _ _ | callAs _ _ _ | operate _ _ => cases h
  | login c k =>
      rcases c.login_world k w.freshJournal with hw | hw
      · have hl : (step (.login c k) w).1.journal.log = [] :=
          (congrArg (·.journal.log) hw).trans rfl
        rw [hl]
        exact List.forall_mem_nil _
      · have hl : (step (.login c k) w).1.journal.log = [.loggedIn k.username] :=
          (congrArg (·.journal.log) hw).trans rfl
        rw [hl]
        exact List.forall_mem_singleton.mpr rfl
  | _ => exact List.forall_mem_nil _

/-- The events of a step carry the number of its call, which is used up then. -/
theorem step_calls {w : World} {e : LogEvent} {n : Nat} (he : e ∈ (step a w).1.journal.log)
    (hn : e.call? = some n) : n = w.nextCall ∧ n < (step a w).2.nextCall := by
  cases h : a.call? with
  | some call =>
      obtain ⟨c, r⟩ := call
      rw [step_log h w] at he
      rw [step_nextCall, h]
      rcases ((c.course_takes r w).audit _ _).within e he with hc | ⟨_, hc⟩
      · cases hn.symm.trans hc
        exact ⟨rfl, Nat.lt_succ_self _⟩
      · cases hn.symm.trans hc
  | none => cases hn.symm.trans (step_log_uncalled h w e he)

theorem run_calls (actions : List Action) (w : World) :
    ∀ s ∈ (run actions w).1, ∀ e ∈ s.journal.log, ∀ n, e.call? = some n → w.nextCall ≤ n := by
  induction actions generalizing w with
  | nil => exact List.forall_mem_nil _
  | cons a actions ih =>
      intro s hs e he n hn
      rcases List.mem_cons.mp hs with rfl | hs
      · exact Nat.le_of_eq (step_calls he hn).1.symm
      · have hle := ih (step a w).2 s hs e he n hn
        rw [step_nextCall] at hle
        split at hle <;> omega

/-- No two steps of a session say anything in the name of the same call. -/
theorem run_calls_distinct (actions : List Action) (w : World) :
    (run actions w).1.Pairwise fun s t =>
      ∀ e ∈ s.journal.log, ∀ e' ∈ t.journal.log, ∀ n, e.call? = some n → e'.call? ≠ some n := by
  induction actions generalizing w with
  | nil => exact .nil
  | cons a actions ih =>
      refine .cons (fun t ht e he e' he' n hn hn' => ?_) (ih (step a w).2)
      have hlt := (step_calls he hn).2
      have hle := run_calls actions (step a w).2 t ht e' he' n hn'
      omega

end Session

/-- The log of a call tells of its attempts, each in a pair of events of its own, and of every retry
between the attempts that it lies between. The main attempts count the retries before them, the
fetch of a recovery none and the replay all. An attempt is said to have a token just when its
messages carry one. All events carry the number of the call, apart from auth events that nobody
heard, and no other step of a session uses this number. -/
theorem Client.run_audited (c : Client) (method : Method) (endpoint : String) (body : Option Json)
    (w : World) :
    let r : Request := { method, endpoint, body }
    let course := c.course r w
    let k := course.retried.length
    let rest := (course.recovery.map Recovery.attempts).getD []
    let journal := (c.run r w).2.journal
    journal.attempts = w.journal.attempts ++ (course.retried ++ course.main :: rest) ∧
    (∃ log, journal.log = w.journal.log ++ log ∧
      Audit w.nextCall course.retried (course.main :: rest) log ∧
      log.countP (·.message = "motion-console request attempt") = course.attempts.length ∧
      log.countP (·.message = "motion-console transient failure, retrying") = k ∧
      ∀ e ∈ log, e.Within w.nextCall) ∧
    (course.retried ++ [course.main]).map (·.retryCount) = List.range (k + 1) ∧
    (∀ v ∈ course.recovery, v.fetch.retryCount = 0 ∧ ∀ a ∈ v.replay, a.retryCount = k) ∧
    (∀ a ∈ course.attempts, ∀ m ∈ a.exchange.sent, m.headers.csrfToken = a.dispatch.token.toList) ∧
    ∀ actions w', (Session.run actions w').1.Pairwise fun s t =>
      ∀ e ∈ s.journal.log, ∀ e' ∈ t.journal.log, ∀ n, e.call? = some n → e'.call? ≠ some n := by
  intro r course k rest journal
  have h := c.course_takes r w
  obtain ⟨hretried, hmain⟩ := h.retryCounts
  have haudit := h.audit w.nextCall w.context.channel.heard
  obtain ⟨hpairs, htold⟩ := haudit.counts
  refine ⟨c.run_attempts r w, ⟨_, c.run_log r w, haudit, ?_, htold, haudit.within⟩, ?_,
    fun v hv => ?_, fun a ha => h.sent_token ha, Session.run_calls_distinct⟩
  · rw [hpairs, ← List.length_append]
    rfl
  · rw [List.map_append, hretried, List.map_singleton, hmain, List.range_succ, List.range_eq_range',
      Nat.zero_add]
  · obtain ⟨hfetch, hreplay⟩ := h.recovery_retryCounts hv
    exact ⟨hfetch, fun a ha => by rw [hreplay a ha, hmain]; exact Nat.zero_add k⟩

end CameraConsole
