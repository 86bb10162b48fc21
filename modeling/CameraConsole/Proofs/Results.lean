import CameraConsole.Proofs.Endings

/-!
# Results of calls

A call gives what its last attempt brought, when that was an attempt at the request itself. How it
fails tells which attempt is to blame, and why the call went no further.
-/

namespace CameraConsole

/-! ## Bodies -/

theorem readBody_eq_ok_iff {body : String} {v : Json} :
    readBody body = .ok v ↔
      (Text.blank body ∧ v = .object []) ∨ (¬ Text.blank body ∧ Json.ofText body = .ok v) := by
  unfold readBody
  by_cases hb : Text.blank body
  · simp [hb, eq_comm]
  · simp [hb, mapError_eq_ok_iff]

theorem readBody_eq_error {body : String} {f : Failure} (h : readBody body = .error f) :
    ¬ Text.blank body ∧ ∃ fault, Json.ofText body = .error fault ∧ f = .network (.notJson fault) := by
  unfold readBody at h
  split at h
  · cases h
  · rename_i hb
    obtain ⟨fault, hf, rfl⟩ := mapError_eq_error h
    exact ⟨hb, fault, hf, rfl⟩

/-! ## Back-offs -/

def LogEvent.isBackOff : LogEvent → Bool
  | retrying .. => true
  | _ => false

/-- How often a call waited before it tried again. -/
def Journal.backOffs (j : Journal) : Nat :=
  j.log.countP LogEvent.isBackOff

section

variable (config : ClientConfig) (call : Nat) (heard : Bool)

@[simp] theorem Journal.backOffs_append (j k : Journal) :
    (j ++ k).backOffs = j.backOffs + k.backOffs := by
  simp [backOffs]

@[simp] theorem Journal.backOffs_announcing (es : List AuthEvent) :
    (announcing heard es).backOffs = 0 := by
  cases heard <;> simp [announcing, backOffs, LogEvent.isBackOff]

@[simp] theorem Attempt.backOffs_journal (a : Attempt) : (a.journal call).backOffs = 0 := by
  unfold journal outcomeEvent
  cases a.exchange.outcome <;> rfl

theorem Attempt.backOffs_pause {statuses : List Nat} {a : Attempt} (h : a.Transient statuses) :
    (a.pause config call).backOffs = 1 := by
  obtain ⟨status, hs, _⟩ := h
  rw [Option.mem_def] at hs
  simp only [pause, hs]
  rfl

@[simp] theorem Attempt.backOffs_closingLog (a : Attempt) :
    ({ log := a.closingLog call } : Journal).backOffs = 0 := by
  unfold closingLog
  repeat' split
  all_goals rfl

@[simp] theorem Attempt.backOffs_replayLog (a : Attempt) :
    ({ log := a.replayLog call } : Journal).backOffs = 0 := by
  unfold replayLog
  repeat' split
  all_goals rfl

theorem Recovery.backOffs_journal (v : Recovery) : (v.journal call heard).backOffs = 0 := by
  unfold journal sequel
  split
  · simp
  · simp only [Journal.backOffs_append, Attempt.backOffs_journal, Journal.backOffs_announcing]
    rfl
  · simp only [Journal.backOffs_append, Attempt.backOffs_journal, Journal.backOffs_announcing]
    rfl

theorem Course.backOffs_ending (course : Course) : (course.ending call heard).backOffs = 0 := by
  unfold ending
  cases course.recovery with
  | none => simp
  | some v =>
      rw [Journal.backOffs_append, v.backOffs_journal]
      rfl

end

namespace Client

theorem Takes.backOffs {c : Client} {context : Context} {left : Nat} {r : Request} {link : Link}
    {course : Course} (h : c.Takes context left r link course) (call : Nat) (heard : Bool) :
    (course.journal c.config call heard).backOffs = course.retried.length := by
  induction h with
  | forbidden _ _ => simp [Course.journal, Course.backOffs_ending]
  | settled _ _ _ => simp [Course.journal, Course.backOffs_ending]
  | retry _ ht _ ih =>
      simp [Course.journal_prepend, ih, Attempt.backOffs_pause c.config call ht, Nat.add_comm]

/-- A call backs off before every retry, and at no other time. -/
theorem run_backOffs (c : Client) (r : Request) (w : World) :
    (c.run r w).2.journal.backOffs = w.journal.backOffs + (c.course r w).retried.length := by
  simp [run_eq, Course.play, (c.course_takes r w).backOffs]

end Client

/-! ## Courses -/

/-- The attempt got a success with this value: the empty object when its body is blank, else the JSON
that its body is. -/
def Attempt.Yields (v : Json) (a : Attempt) : Prop :=
  ∃ response, a.exchange.outcome = .ok response ∧ response.isSuccess ∧
    ((Text.blank response.body ∧ v = .object []) ∨
      (¬ Text.blank response.body ∧ Json.ofText response.body = .ok v))

theorem Attempt.yields_iff {v : Json} {a : Attempt} {response : Response}
    (ho : a.exchange.outcome = .ok response) :
    a.Yields v ↔ response.isSuccess ∧ readBody response.body = .ok v := by
  simp only [Yields, ho, Except.ok.injEq, exists_eq_left', readBody_eq_ok_iff]

theorem Attempt.not_yields_of_error {v : Json} {a : Attempt} {f : Failure}
    (ho : a.exchange.outcome = .error f) : ¬ a.Yields v := by
  rintro ⟨response, hr, _⟩
  rw [ho] at hr
  cases hr

theorem Course.getLast?_attempts (course : Course) : course.attempts.getLast? = some course.last := by
  obtain ⟨retried, main, recovery⟩ := course
  cases recovery with
  | none => simp [attempts, last]
  | some v =>
      obtain ⟨fetch, replay⟩ := v
      cases replay <;> simp [attempts, last, Recovery.attempts]

/-- How the result of a call at `r` hangs on its course: on the last attempt at the request when it
got no answer or a success, and else on the main one. -/
inductive Course.Concludes (r : Request) (course : Course) : Except Failure Json → Prop where
  | lost {f : Failure} (asks : course.last.Asks r)
      (outcome : course.last.exchange.outcome = .error f) (transport : f.InTransport) :
      Concludes r course (.error f)
  | answered {response : Response} (asks : course.last.Asks r)
      (outcome : course.last.exchange.outcome = .ok response) (success : response.isSuccess) :
      Concludes r course (readBody response.body)
  | demanded (last : course.last = course.main) (status : course.main.status? = some 401) :
      Concludes r course (.error .authenticationRequired)
  | failed {response : Response} (last : course.last = course.main)
      (outcome : course.main.exchange.outcome = .ok response) (failure : ¬ response.isSuccess)
      (status : response.status ≠ 401) (allowed : ¬ course.main.Forbidden) :
      Concludes r course (.error (.ofAnswer response.status response.reason))
  | rejected (forbidden : course.main.Forbidden)
      (refused : ∀ v, course.last.Asks r → ¬ course.last.Yields v) :
      Concludes r course (.error .tokenRejected)

/-- A call succeeds just when its last attempt was one at the request and yielded the value. -/
theorem Course.Concludes.ok_iff {r : Request} {course : Course} {result : Except Failure Json}
    (h : course.Concludes r result) (v : Json) :
    result = .ok v ↔ course.last.Asks r ∧ course.last.Yields v := by
  cases h with
  | lost _ ho _ => exact ⟨nofun, fun hy => absurd hy.2 (Attempt.not_yields_of_error ho)⟩
  | answered ha ho hs =>
      rw [Attempt.yields_iff ho]
      exact ⟨fun hr => ⟨ha, hs, hr⟩, fun hy => hy.2.2⟩
  | demanded hl hs =>
      refine ⟨nofun, ?_⟩
      rintro ⟨_, response, ho, hsu, _⟩
      rw [hl] at ho
      have hlt := lt_of_isSuccess hsu
      simp only [Attempt.status?_ok ho, Option.some.injEq] at hs
      omega
  | failed hl ho hs _ _ =>
      refine ⟨nofun, ?_⟩
      rintro ⟨_, hy⟩
      rw [hl, Attempt.yields_iff ho] at hy
      exact absurd hy.1 hs
  | rejected _ hr => exact ⟨nofun, fun hy => absurd hy.2 (hr v hy.1)⟩

namespace Client.Takes

variable {c : Client} {context : Context} {left : Nat} {r : Request} {link : Link} {course : Course}

theorem main_asks (h : c.Takes context left r link course) : course.main.Asks r :=
  Attempt.asks_of_dispatch h.main_dispatch

theorem regular (h : c.Takes context left r link course) {v : Recovery}
    (hv : course.recovery = some v) : course.main.Forbidden ∧ v.Regular r context := by
  rcases h.recovery_cases with ⟨hf, v', hv', hr⟩ | ⟨_, hn⟩
  · cases hv.symm.trans hv'
    exact ⟨hf, hr⟩
  · rw [hv] at hn
    cases hn

theorem replay_asks (h : c.Takes context left r link course) {v : Recovery} {a : Attempt}
    (hv : course.recovery = some v) (ha : v.replay = some a) : a.Asks r := by
  obtain ⟨_, hr⟩ := h.regular hv
  cases hg : v.fetch.granted? with
  | none => rw [hr.replay_eq_none hg] at ha; cases ha
  | some token =>
      obtain ⟨a', ha', hd⟩ := hr.replay_eq_some hg
      cases ha.symm.trans ha'
      exact Attempt.asks_of_dispatch hd

/-- The fetch of a recovery is never an attempt at the request: it reads, and the request changes
something. -/
theorem fetch_not_asks (h : c.Takes context left r link course) {v : Recovery}
    (hv : course.recovery = some v) : ¬ v.fetch.Asks r := by
  obtain ⟨hf, hr⟩ := h.regular hv
  intro ha
  have hm : v.fetch.dispatch.method = .get := by rw [hr.fetch_dispatch]; rfl
  have hmut := hf.2
  rw [h.main_asks.1, ← ha.1, hm] at hmut
  cases hmut

theorem concludes_of_ends (h : c.Takes context left r link course) {result : Except Failure Json}
    {events : List AuthEvent} (he : course.Ends result events) : course.Concludes r result := by
  cases he with
  | unanswered hn ho ht =>
      have hl : course.last = course.main := by simp only [Course.last, hn]
      exact .lost (hl ▸ h.main_asks) (hl ▸ ho) ht
  | answered hn ho hs =>
      have hl : course.last = course.main := by simp only [Course.last, hn]
      exact .answered (hl ▸ h.main_asks) (hl ▸ ho) hs
  | demanded hn hs => exact .demanded (by simp only [Course.last, hn]) hs
  | failed hn ho hs h1 =>
      refine .failed (by simp only [Course.last, hn]) ho hs h1 fun hf => ?_
      rcases h.recovery_cases with ⟨_, v, hv, _⟩ | ⟨hf', _⟩
      · rw [hv] at hn; cases hn
      · exact hf' hf
  | @tokenless v hv hg hn =>
      have hl : course.last = v.fetch := by simp only [Course.last, hv, hn, Option.getD_none]
      exact .rejected (h.regular hv).1 fun _ ha => absurd (hl ▸ ha) (h.fetch_not_asks hv)
  | @replayUnanswered v a f hv _ ha ho ht =>
      have hl : course.last = a := by simp only [Course.last, hv, ha, Option.getD_some]
      exact .lost (hl ▸ h.replay_asks hv ha) (hl ▸ ho) ht
  | @replayAnswered v a response hv _ ha ho hs =>
      have hl : course.last = a := by simp only [Course.last, hv, ha, Option.getD_some]
      exact .answered (hl ▸ h.replay_asks hv ha) (hl ▸ ho) hs
  | @replayRefused v a response hv _ ha ho hs =>
      have hl : course.last = a := by simp only [Course.last, hv, ha, Option.getD_some]
      refine .rejected (h.regular hv).1 fun x _ hy => hs ?_
      rw [hl, Attempt.yields_iff ho] at hy
      exact hy.1

theorem concludes (h : c.Takes context left r link course) : course.Concludes r course.result :=
  h.concludes_of_ends h.ends

end Client.Takes

/-! ## Calls -/

/-- What a failure of a call at `r` says about its course. -/
def Course.Explains (c : Client) (r : Request) (course : Course) : Failure → Prop
  | .authentication _ _ => course.main.status? = some 401
  | .tokenRejected => r.method.mutating ∧ course.main.status? = some 403
  | .http status _ =>
    course.last.status? = some status ∧ ¬ isSuccess status ∧ status ≠ 401 ∧
      ¬ (status = 403 ∧ r.method.mutating) ∧
      (status ∉ c.config.retryableStatuses ∨
        course.retried.length = c.config.maxRetries - r.retryCount)
  | .timeout =>
    course.last.exchange.outcome = .error .timeout ∧
      course.last.exchange.duration = c.config.timeout
  | .network fault =>
    course.last.exchange.outcome = .error (.network fault) ∨
      ∃ response, course.last.exchange.outcome = .ok response ∧ response.isSuccess ∧
        ¬ Text.blank response.body ∧
        ∃ f, Json.ofText response.body = .error f ∧ fault = .notJson f
  | .daemon _ | .configuration _ _ => False

namespace Client.Takes

variable {c : Client} {context : Context} {left : Nat} {r : Request} {link : Link} {course : Course}

theorem last_exchange (h : c.Takes context left r link course) :
    ∃ link', course.last.exchange = c.exchange course.last.dispatch link' :=
  h.serves.exchange_of_mem (List.mem_of_getLast? course.getLast?_attempts)

/-- An answer that is neither handled nor a success ends the call, because its status is not one to
try again or because no retries are left. -/
theorem settled_status (h : c.Takes context left r link course) {response : Response}
    (ho : course.main.exchange.outcome = .ok response) (hs : ¬ response.isSuccess)
    (h1 : response.status ≠ 401) (hf : ¬ course.main.Forbidden) :
    response.status ∉ c.config.retryableStatuses ∨ course.retried.length = left := by
  refine h.main_settles.imp_left fun ht hm => ht ?_
  have hs' : isSuccess response.status = false := by simpa [Response.isSuccess] using hs
  exact ⟨_, Attempt.status?_ok ho, hs', h1, hf, hm⟩

theorem explains (h : c.Takes context (c.config.maxRetries - r.retryCount) r link course)
    {result : Except Failure Json} (hc : course.Concludes r result) {f : Failure}
    (hr : result = .error f) : course.Explains c r f := by
  cases hc with
  | lost _ ho ht =>
      cases hr
      rcases ht with rfl | ⟨fault, rfl⟩
      · obtain ⟨link', hx⟩ := h.last_exchange
        refine ⟨ho, ?_⟩
        rw [hx] at ho ⊢
        exact exchange_timeout ho
      · exact Or.inl ho
  | @answered response _ ho hs =>
      obtain ⟨hb, fault, hf, rfl⟩ := readBody_eq_error hr
      exact Or.inr ⟨response, ho, hs, hb, fault, hf, rfl⟩
  | demanded _ hs => cases hr; exact hs
  | failed hl ho hs h1 hf =>
      cases hr
      have hst := Attempt.status?_ok ho
      refine ⟨hl ▸ hst, hs, h1, ?_, h.settled_status ho hs h1 hf⟩
      rintro ⟨h3, hm⟩
      exact hf ⟨h3 ▸ hst, h.main_asks.1 ▸ hm⟩
  | rejected hf _ =>
      cases hr
      exact ⟨h.main_asks.1 ▸ hf.2, hf.1⟩

end Client.Takes

/-- A call gives a value just when its last attempt asked for what the call asks for, which the fetch
of a recovery never does, and got a success with this value. Every failure is explained by the
attempt that it stands for. -/
theorem Client.run_result_exactly (c : Client) (r : Request) (w : World) :
    let course := c.course r w
    (c.run r w).2.journal.attempts = w.journal.attempts ++ course.attempts ∧
    course.attempts.getLast? = some course.last ∧
    (c.run r w).2.journal.backOffs = w.journal.backOffs + course.retried.length ∧
    (∀ v ∈ course.recovery, ¬ v.fetch.Asks r) ∧
    (∀ v, (c.run r w).1 = .ok v ↔ course.last.Asks r ∧ course.last.Yields v) ∧
    (∀ f, (c.run r w).1 = .error f → course.Explains c r f) := by
  intro course
  have h := c.course_takes r w
  rw [c.run_result]
  exact ⟨c.run_attempts r w, course.getLast?_attempts, c.run_backOffs r w,
    fun v hv => h.fetch_not_asks hv, h.concludes.ok_iff, fun f => h.explains h.concludes⟩

end CameraConsole
