import CameraConsole.Proofs.Delivery
import CameraConsole.Proofs.Opening
import CameraConsole.Proofs.ReportedErrors

/-!
# Logins

A login is a single attempt that either keeps the credentials it tried or changes nothing. Besides
it, only the actions that set or clear the stored credentials change them.
-/

namespace CameraConsole

/-! ## Results -/

/-- A login takes the status that the body of a success holds, when the body reports no error. -/
theorem loginPayload_eq_ok_iff {response : Response} {status : AuthStatus} :
    Client.loginPayload response = .ok status ↔
      response.isSuccess ∧ ∃ v, readBody response.body = .ok v ∧
        (∀ message, ¬ ReportsError v message) ∧ AuthStatus.codec.decode v = .ok status := by
  unfold Client.loginPayload
  by_cases hs : response.isSuccess
  · simp only [hs, ↓reduceIte, bind_eq_ok_iff, payloadOf_eq_ok_iff, true_and,
      ← reportedError_eq_some_iff, Option.eq_none_iff_forall_ne_some, ne_eq]
  · simp only [hs, Bool.false_eq_true, ↓reduceIte, false_and, iff_false]
    split <;> exact nofun

theorem Client.login_eq_ok_iff {c : Client} {k : Credentials} {w : World} {status : AuthStatus} :
    let a : Attempt := ⟨k.dispatch, 0, c.exchange k.dispatch w.link⟩
    (c.login k w).1 = .ok status ↔
      ∃ v, a.Yields v ∧ (∀ message, ¬ ReportsError v message) ∧
        AuthStatus.codec.decode v = .ok status := by
  intro a
  rw [c.login_result]
  cases ho : (c.exchange k.dispatch w.link).outcome with
  | error f =>
      refine ⟨nofun, ?_⟩
      rintro ⟨v, hy, _⟩
      exact absurd hy (Attempt.not_yields_of_error ho)
  | ok response =>
      have hy (v : Json) : a.Yields v ↔ response.isSuccess ∧ readBody response.body = .ok v :=
        Attempt.yields_iff ho
      refine loginPayload_eq_ok_iff.trans ?_
      simp only [hy, and_assoc, exists_and_left]

/-- A login that succeeds keeps its credentials and nothing else. -/
theorem Client.login_succeeded {c : Client} {k : Credentials} {w : World} {status : AuthStatus}
    (h : (c.login k w).1 = .ok status) :
    (c.login k w).2.context = w.context.setCredentials k := by
  unfold login at h ⊢
  dsimp only at h ⊢
  generalize ht : w.transmit c _ 0 = x at h ⊢
  have hc : x.2.context = w.context := by rw [← ht]; rfl
  rcases x with ⟨_ | response, v⟩
  · cases h
  · dsimp only at h ⊢
    cases hp : loginPayload response with
    | error failure => rw [hp] at h; cases h
    | ok status => exact congrArg (·.setCredentials k) hc

/-! ## Stored credentials -/

/-- What an action with this result makes of the stored credentials. -/
def Action.credentialsAfter (stored : Option Credentials) (a : Action)
    (result : Except Failure Result) : Option Credentials :=
  match a, result with
  | login _ k, .ok _ => some k
  | setCredentials k, _ => some k
  | logout, _ | clearCredentials, _ => none
  | _, _ => stored

namespace Session

variable {c : Client} {k : Credentials} {w : World}

theorem step_call_credentials {a : Action} {r : Request} (h : a.call? = some (c, r)) (w : World) :
    (step a w).1.context.credentials = w.context.credentials := by
  simp only [step, Action.run_world h, World.keep_credentials, c.run_context]
  rfl

theorem login_context_of_ok {x : Result} (h : (step (.login c k) w).1.result = .ok x) :
    (step (.login c k) w).1.context = w.context.setCredentials k := by
  have hr : (c.login k w.freshJournal).1.map _ = .ok x := h
  cases hl : (c.login k w.freshJournal).1 with
  | error f => rw [hl] at hr; cases hr
  | ok status => exact Client.login_succeeded hl

theorem login_context_of_error {f : Failure} (h : (step (.login c k) w).1.result = .error f) :
    (step (.login c k) w).1.context = w.context := by
  have hf : (c.login k w.freshJournal).1 = .error f := map_eq_error_iff.mp h
  exact (congrArg World.context (Client.login_failed hf)).trans rfl

theorem step_credentials (a : Action) (w : World) :
    (step a w).1.context.credentials =
      a.credentialsAfter w.context.credentials (step a w).1.result := by
  cases h : a.call? with
  | some call =>
      rw [step_call_credentials h]
      cases a with
      | call _ _ | callAs _ _ _ | operate _ _ => rfl
      | _ => cases h
  | none =>
      cases a with
      | call _ _ | callAs _ _ _ | operate _ _ => cases h
      | login c k =>
          cases hr : (step (.login c k) w).1.result with
          | error f => rw [login_context_of_error hr]; rfl
          | ok x => rw [login_context_of_ok hr]; rfl
      | _ => rfl

/-- The credentials that a session leaves are decided by its logins and by the actions that set or
clear them, in their order. -/
theorem run_credentials (actions : List Action) (w : World) :
    (run actions w).2.context.credentials =
      (trace actions w).foldl (fun stored x => x.1.credentialsAfter stored x.2.result)
        w.context.credentials := by
  induction actions generalizing w with
  | nil => rfl
  | cons a actions ih =>
      have ht : trace (a :: actions) w = (a, (step a w).1) :: trace actions (step a w).2 := rfl
      -- The rest of the session begins with what the first step left.
      rw [ht, List.foldl_cons, ← step_credentials a w]
      exact ih (step a w).2

/-- A login makes one attempt, which asks for the status with the credentials that are tried and
without a token. Nothing is retried or announced. It succeeds just when the answer is a success whose
body, the empty object when it is blank, is JSON that reports no error and holds the status. Then the
context differs in the credentials alone; after any failure it is as it was. No call and no operation
changes the stored credentials, in whatever session. -/
theorem login_atomic (c : Client) (k : Credentials) (w : World) :
    let s := (step (.login c k) w).1
    (∃ a, s.journal.attempts = [a] ∧
      a.dispatch = { method := .get, endpoint := "/0/api/auth/me", credentials := some k } ∧
      a.retryCount = 0 ∧ a.exchange = c.exchange a.dispatch w.link ∧
      s.journal.sent = a.exchange.sent ∧ s.journal.elapsed = a.exchange.duration ∧
      a.Opens c (.get "/0/api/auth/me") (w.context.setCredentials k) ∧
      (∀ m ∈ s.journal.sent, m.method = .get ∧ m.headers.csrfToken = []) ∧
      s.journal.announced = [] ∧
      (∀ x, s.result = .ok x ↔ ∃ v status, a.Yields v ∧ (∀ message, ¬ ReportsError v message) ∧
        AuthStatus.codec.decode v = .ok status ∧ x = .answer (.authStatus status))) ∧
    ((∃ x, s.result = .ok x) ∧ s.context = w.context.setCredentials k ∨
      (∃ f, s.result = .error f) ∧ s.context = w.context) ∧
    (∀ a call, a.call? = some call → (step a w).1.context.credentials = w.context.credentials) ∧
    ∀ actions, (run actions w).2.context.credentials =
      (trace actions w).foldl (fun stored x => x.1.credentialsAfter stored x.2.result)
        w.context.credentials := by
  intro s
  have hsent : s.journal.sent = (c.exchange k.dispatch w.link).sent :=
    c.login_sent k w.freshJournal
  have hopens : Attempt.Opens c (.get Resource.authentication.endpoint)
      (w.context.setCredentials k) ⟨k.dispatch, 0, c.exchange k.dispatch w.link⟩ :=
    Client.opens_of_dispatch ⟨_, rfl⟩ rfl
  refine ⟨⟨_, c.login_attempts k w.freshJournal, rfl, rfl, rfl, hsent, ?_, hopens, fun m hm => ?_,
    c.login_announced k w.freshJournal, fun x => ?_⟩, ?_, fun a call h => step_call_credentials h w,
    fun actions => run_credentials actions w⟩
  · exact (c.login_elapsed k w.freshJournal).trans (Nat.zero_add _)
  · rw [hsent] at hm
    exact ⟨Client.exchange_get rfl m hm, Client.exchange_csrfToken hm⟩
  · have hr : s.result = .ok x ↔ ∃ status, (c.login k w.freshJournal).1 = .ok status ∧ _ = x :=
      map_eq_ok_iff
    simp only [hr, Client.login_eq_ok_iff]
    constructor
    · rintro ⟨status, ⟨v, hy, hn, hd⟩, rfl⟩
      exact ⟨v, status, hy, hn, hd, rfl⟩
    · rintro ⟨v, status, hy, hn, hd, rfl⟩
      exact ⟨status, ⟨v, hy, hn, hd⟩, rfl⟩
  · cases hr : s.result with
    | ok x => exact Or.inl ⟨⟨x, rfl⟩, login_context_of_ok hr⟩
    | error f => exact Or.inr ⟨⟨f, rfl⟩, login_context_of_error hr⟩

/-- A daemon that takes one login and then demands authentication again. -/
def admitting : World :=
  { context := { token := some "old", credentials := some ⟨"guest", "pw"⟩, channel := .empty }
    link := ⟨.direct, [{ body := Text.bytes "\x7b\"authenticated\":true\x7d" },
      { status := 401 }]⟩ }

theorem login_atomic_admitted :
    let c := Client.onLocalhost
    let k : Credentials := ⟨"admin", "secret"⟩
    let s := (step (.login c k) admitting).1
    s.result = .ok (.answer (.authStatus { authenticated := true, authMethod := none })) ∧
      s.context = { admitting.context with credentials := some k } ∧
      (s.journal.sent.map fun m => (m.url.text, m.headers.csrfToken, m.headers.authorization)) =
        [("http://localhost:8080/0/api/auth/me", [], ["Basic YWRtaW46c2VjcmV0"])] ∧
      (step (.operate c .cameras) admitting).1.context.credentials = some ⟨"guest", "pw"⟩ ∧
      (step (.login c k) (run [.login c k] admitting).2).1.result =
        .error (.authentication 401 "Invalid username or password") := by
  intro c k s
  obtain ⟨_, outcome, calls, _⟩ := login_atomic c k admitting
  have hr : s.result =
      .ok (.answer (.authStatus { authenticated := true, authMethod := none })) := by
    decide +kernel
  refine ⟨hr, ?_, by decide +kernel, calls (.operate c .cameras) _ rfl, by decide +kernel⟩
  rcases outcome with ⟨_, hc⟩ | ⟨⟨f, hf⟩, _⟩
  · exact hc
  · cases hf.symm.trans hr

end Session

end CameraConsole
