import CameraConsole.Proofs.AuthEvents
import CameraConsole.Proofs.ConfigReaders

/-!
# Errors that the daemon reports in a successful answer

Operations and logins fail with the error that the body of the answer reports, and only then with an
error of the daemon. Such a failure leaves nothing behind beyond the request itself.
-/

namespace CameraConsole

/-! ## Bodies -/

/-- The body reports an error: an object whose `error` is a text, or else one whose `status` is the
text `error`. Then the message is the text `message` of the object, or a fixed one. -/
inductive ReportsError : Json → String → Prop where
  | error {members : List (String × Json)} {message : String}
      (error : members.lookup "error" = some (.text message)) :
      ReportsError (.object members) message
  | explained {members : List (String × Json)} {message : String}
      (noError : ∀ s, members.lookup "error" ≠ some (.text s))
      (status : members.lookup "status" = some (.text "error"))
      (explanation : members.lookup "message" = some (.text message)) :
      ReportsError (.object members) message
  | unexplained {members : List (String × Json)}
      (noError : ∀ s, members.lookup "error" ≠ some (.text s))
      (status : members.lookup "status" = some (.text "error"))
      (noMessage : ∀ s, members.lookup "message" ≠ some (.text s)) :
      ReportsError (.object members) "daemon reported an error"

theorem text?_eq_none_iff {o : Option Json} :
    o.bind Json.text? = none ↔ ∀ s, o ≠ some (.text s) := by
  rw [Option.eq_none_iff_forall_ne_some]
  simp only [ne_eq, text?_eq_some_iff]

theorem ReportsError.of_reportedError {members : List (String × Json)} {message : String}
    (h : reportedError (.object members) = some message) :
    ReportsError (.object members) message := by
  unfold reportedError Json.member? at h
  cases he : (members.lookup "error").bind Json.text? with
  | some m =>
      simp only [he, Option.some.injEq] at h
      subst h
      exact .error (text?_eq_some_iff.mp he)
  | none =>
      by_cases hs : (members.lookup "status").bind Json.text? = some "error"
      · have noError := text?_eq_none_iff.mp he
        have status := text?_eq_some_iff.mp hs
        simp only [he, hs, ↓reduceIte, Option.some.injEq] at h
        cases hm : (members.lookup "message").bind Json.text? with
        | some m =>
            simp only [hm, Option.getD_some] at h
            subst h
            exact .explained noError status (text?_eq_some_iff.mp hm)
        | none =>
            simp only [hm, Option.getD_none] at h
            subst h
            exact .unexplained noError status (text?_eq_none_iff.mp hm)
      · simp only [he, hs, ↓reduceIte, reduceCtorEq] at h

theorem reportedError_eq_some_iff {v : Json} {message : String} :
    reportedError v = some message ↔ ReportsError v message := by
  constructor
  · intro h
    cases v with
    | object members => exact .of_reportedError h
    | _ => cases h
  · intro h
    unfold reportedError
    cases h with
    | error he => simp only [Json.member?, text?_eq_some_iff.mpr he]
    | explained he hs hm =>
        simp only [Json.member?, text?_eq_none_iff.mpr he, text?_eq_some_iff.mpr hs,
          text?_eq_some_iff.mpr hm, ↓reduceIte, Option.getD_some]
    | unexplained he hs hm =>
        simp only [Json.member?, text?_eq_none_iff.mpr he, text?_eq_some_iff.mpr hs,
          text?_eq_none_iff.mpr hm, ↓reduceIte, Option.getD_none]

/-! ## Payloads -/

/-- A body is refused with an error of the daemon just when it reports one, whether or not it would
decode as a payload. -/
theorem payloadOf_daemon_iff {α : Type} {codec : Codec α} {v : Json} {message : String} :
    payloadOf codec v = .error (.daemon message) ↔ ReportsError v message := by
  rw [← reportedError_eq_some_iff]
  unfold payloadOf
  cases reportedError v with
  | some m => simp
  | none =>
      dsimp only
      cases codec.decode v with
      | error mismatch => exact ⟨nofun, nofun⟩
      | ok x => exact ⟨nofun, nofun⟩

theorem Operation.reading_daemon_iff (o : Operation) {v : Json} {message : String} :
    o.reading v = .error (.daemon message) ↔ ReportsError v message := by
  cases o with
  | _ => exact map_eq_error_iff.trans payloadOf_daemon_iff

theorem readBody_ne_daemon {body message : String} : readBody body ≠ .error (.daemon message) := by
  intro h
  obtain ⟨_, _, _, hf⟩ := readBody_eq_error h
  cases hf

theorem bind_eq_daemon_iff {α : Type} {body message : String} {f : Json → Except Failure α} :
    (readBody body).bind f = .error (.daemon message) ↔
      ∃ v, readBody body = .ok v ∧ f v = .error (.daemon message) := by
  cases hb : readBody body with
  | error g =>
      refine ⟨fun h => ?_, nofun⟩
      cases h
      exact absurd hb readBody_ne_daemon
  | ok v => simp [Except.bind]

theorem loginPayload_daemon_iff {response : Response} {message : String} :
    Client.loginPayload response = .error (.daemon message) ↔
      response.isSuccess ∧ ∃ v, readBody response.body = .ok v ∧ ReportsError v message := by
  unfold Client.loginPayload
  by_cases hs : response.isSuccess
  · simp only [hs, ↓reduceIte, true_and]
    refine bind_eq_daemon_iff.trans ?_
    simp only [payloadOf_daemon_iff]
  · simp only [hs, Bool.false_eq_true, ↓reduceIte, false_and, iff_false]
    split <;> exact nofun

/-! ## Operations -/

theorem Course.Ends.events_of_ok {course : Course} {result : Except Failure Json}
    {events : List AuthEvent} (h : course.Ends result events) {v : Json} (hr : result = .ok v) :
    events = [] := by
  refine Classical.byContradiction fun he => ?_
  obtain ⟨f, hf, _⟩ := h.denied_of_events he
  rw [hr] at hf
  cases hf

theorem Client.run_ne_daemon (c : Client) (r : Request) (w : World) (message : String) :
    (c.run r w).1 ≠ .error (.daemon message) := by
  intro h
  rw [c.run_result] at h
  exact (c.course_takes r w).explains (c.course_takes r w).concludes h

/-- An operation fails with an error of the daemon just when the answer to its request reports one. -/
theorem Operation.perform_daemon_iff (o : Operation) (c : Client) (w : World) {message : String} :
    (o.perform c w).1 = .error (.daemon message) ↔
      ∃ v, (c.run o.request w).1 = .ok v ∧ ReportsError v message := by
  rw [o.perform_result]
  cases h : (c.run o.request w).1 with
  | error f =>
      refine ⟨fun he => ?_, nofun⟩
      cases he
      exact absurd h (c.run_ne_daemon _ w message)
  | ok v => simpa [Except.bind] using o.reading_daemon_iff

namespace Session

theorem operate_world {o : Operation} {c : Client} {w : World} {f : Failure}
    (h : (step (.operate c o) w).1.result = .error f) :
    (step (.operate c o) w).2 = (step (.call c o.request) w).2 := by
  have hw := Action.run_world (a := .operate c o) rfl w.freshJournal
  have h' : ((Action.operate c o).run w.freshJournal).1 = .error f := h
  rw [h'] at hw
  exact hw

/-- A read that brought an answer leaves the context as it was. -/
theorem call_context {c : Client} {r : Request} {w : World} {v : Json}
    (hr : ¬ r.method.mutating) (h : (c.course r w).result = .ok v) :
    (step (.call c r) w).1.context = w.context := by
  have ht := c.course_takes r w
  have hn : (c.course r w).recovery = none := ht.recovery_of_read (Bool.eq_false_iff.mpr hr)
  have hc : (step (.call c r) w).1.context = (c.course r w).context w.context :=
    c.run_context r w.freshJournal
  rw [hc, Course.context, Course.token, hn, ht.ends.events_of_ok h]
  rfl

theorem login_daemon_iff {c : Client} {k : Credentials} {w : World} {message : String} :
    let a : Attempt := ⟨k.dispatch, 0, c.exchange k.dispatch w.link⟩
    (step (.login c k) w).1.result = .error (.daemon message) ↔
      ∃ v, a.Yields v ∧ ReportsError v message := by
  intro a
  have hr : (step (.login c k) w).1.result = (c.login k w.freshJournal).1.map _ := rfl
  have hl : (c.login k w.freshJournal).1 = (c.exchange k.dispatch w.link).outcome.bind _ :=
    c.login_result k w.freshJournal
  rw [hr, map_eq_error_iff, hl]
  cases ho : (c.exchange k.dispatch w.link).outcome with
  | error f =>
      constructor
      · intro h
        cases h
        rcases Client.exchange_inTransport ho with hf | ⟨_, hf⟩ <;> cases hf
      · rintro ⟨v, hy, _⟩
        exact absurd hy (Attempt.not_yields_of_error ho)
  | ok response =>
      have hy (v : Json) : a.Yields v ↔ response.isSuccess ∧ readBody response.body = .ok v :=
        Attempt.yields_iff ho
      refine loginPayload_daemon_iff.trans ?_
      simp only [hy, and_assoc, exists_and_left]

/-- Operations and logins fail with an error of the daemon just when the last attempt at their request
got a success whose body reports that error. Then an operation leaves the world as its bare request
leaves it, a login leaves the context as it was, and nothing is announced. -/
theorem daemon_errors_exactly (c : Client) (w : World) (message : String) :
    (∀ o,
      let s := (step (.operate c o) w).1
      let course := c.course o.request w
      s.journal.attempts = course.attempts ∧ course.attempts.getLast? = some course.last ∧
      (s.result = .error (.daemon message) ↔
        ∃ v, course.last.Asks o.request ∧ course.last.Yields v ∧ ReportsError v message) ∧
      (s.result = .error (.daemon message) →
        (step (.operate c o) w).2 = (step (.call c o.request) w).2 ∧
        (¬ o.request.method.mutating → s.context = w.context) ∧ s.journal.announced = [])) ∧
    ∀ k,
      let s := (step (.login c k) w).1
      ∃ a, s.journal.attempts = [a] ∧ a.Asks (Client.read .authentication) ∧
        (s.result = .error (.daemon message) ↔ ∃ v, a.Yields v ∧ ReportsError v message) ∧
        (s.result = .error (.daemon message) →
          s.context = w.context ∧ s.journal.announced = []) := by
  constructor
  · intro o s course
    have ht := c.course_takes o.request w
    have hs : s.result = .error (.daemon message) ↔
        ∃ v, course.result = .ok v ∧ ReportsError v message := by
      refine map_eq_error_iff.trans ((o.perform_daemon_iff c w.freshJournal).trans ?_)
      rw [c.run_result]
      rfl
    refine ⟨step_attempts (a := .operate c o) rfl w, course.getLast?_attempts, ?_, fun h => ?_⟩
    · simp only [hs, ht.concludes.ok_iff, and_assoc, course]
    · obtain ⟨v, hv, _⟩ := hs.mp h
      have hw := operate_world h
      refine ⟨hw, fun hm => ?_, ?_⟩
      · exact (congrArg World.context hw).trans (call_context hm hv)
      · exact (step_announced (a := .operate c o) rfl w).trans (ht.ends.events_of_ok hv)
  · intro k s
    refine ⟨_, c.login_attempts k w.freshJournal, ⟨rfl, rfl, rfl⟩, login_daemon_iff,
      fun h => ⟨?_, ?_⟩⟩
    · have hf : (c.login k w.freshJournal).1 = .error (.daemon message) := map_eq_error_iff.mp h
      exact (congrArg World.context (Client.login_failed hf)).trans rfl
    · exact c.login_announced k w.freshJournal

end Session

end CameraConsole
