import CameraConsole.Proofs.Attempts
import CameraConsole.Proofs.Exchange

/-!
# How calls end

Every course ends in one of eight ways: four without a recovery, and four with one. Each says what
the call gives and which auth events it announces.
-/

namespace CameraConsole

/-! ## Failures -/

/-- A failure for want of a login or of a valid token. -/
def Failure.Denied (f : Failure) : Prop :=
  (∃ status message, f = .authentication status message) ∨ f = .tokenRejected

theorem Failure.InTransport.not_denied {f : Failure} (h : f.InTransport) : ¬ f.Denied := by
  rcases h with rfl | ⟨_, rfl⟩ <;> rintro (⟨_, _, h⟩ | h) <;> cases h

theorem readBody_not_denied {body : String} {f : Failure} (h : readBody body = .error f) :
    ¬ f.Denied := by
  unfold readBody at h
  split at h
  · cases h
  · obtain ⟨fault, _, rfl⟩ := mapError_eq_error h
    rintro (⟨_, _, h⟩ | h) <;> cases h

/-! ## Attempts -/

namespace Attempt

variable {a : Attempt} {response : Response} {failure : Failure}

theorem events_nil {statuses : List Nat} (h : ∀ status ∈ a.status?, status ∉ statuses) :
    a.events statuses = [] := by
  unfold events
  split
  · rfl
  · rename_i status hs
    rw [if_neg (h status hs)]

theorem events_single {statuses : List Nat} {status : Nat} (hs : a.status? = some status)
    (hm : status ∈ statuses) : a.events statuses = [⟨status⟩] := by
  simp only [events, hs, hm, ↓reduceIte]

theorem events_unanswered {statuses : List Nat} (h : a.exchange.outcome = .error failure) :
    a.events statuses = [] :=
  events_nil (by simp [status?_error h])

theorem events_of_granted {token : String} (h : a.granted? = some token) : a.events [401] = [] := by
  obtain ⟨response, _, ho, hs, _, _⟩ := granted?_eq_some_iff_answer.mp h
  have := lt_of_isSuccess hs
  refine events_nil ?_
  intro status hst
  simp only [status?_ok ho, Option.mem_def, Option.some.injEq] at hst
  simp; omega

end Attempt

/-! ## Courses -/

/-- The ways in which a course can end, with the result and the events of the call. -/
inductive Course.Ends (course : Course) : Except Failure Json → List AuthEvent → Prop where
  | unanswered {f : Failure} (plain : course.recovery = none)
      (outcome : course.main.exchange.outcome = .error f) (transport : f.InTransport) :
      Ends course (.error f) []
  | answered {response : Response} (plain : course.recovery = none)
      (outcome : course.main.exchange.outcome = .ok response) (success : response.isSuccess) :
      Ends course (readBody response.body) []
  | demanded (plain : course.recovery = none) (status : course.main.status? = some 401) :
      Ends course (.error .authenticationRequired) [⟨401⟩]
  | failed {response : Response} (plain : course.recovery = none)
      (outcome : course.main.exchange.outcome = .ok response) (failure : ¬ response.isSuccess)
      (status : response.status ≠ 401) :
      Ends course (.error (.ofAnswer response.status response.reason)) []
  | tokenless {v : Recovery} (recovery : course.recovery = some v)
      (fetch : v.fetch.granted? = none) (replay : v.replay = none) :
      Ends course (.error .tokenRejected) (v.fetch.events [401])
  | replayUnanswered {v : Recovery} {a : Attempt} {f : Failure} (recovery : course.recovery = some v)
      (fetch : v.fetch.granted?.isSome) (replay : v.replay = some a)
      (outcome : a.exchange.outcome = .error f) (transport : f.InTransport) :
      Ends course (.error f) []
  | replayAnswered {v : Recovery} {a : Attempt} {response : Response}
      (recovery : course.recovery = some v) (fetch : v.fetch.granted?.isSome)
      (replay : v.replay = some a) (outcome : a.exchange.outcome = .ok response)
      (success : response.isSuccess) :
      Ends course (readBody response.body) []
  | replayRefused {v : Recovery} {a : Attempt} {response : Response}
      (recovery : course.recovery = some v) (fetch : v.fetch.granted?.isSome)
      (replay : v.replay = some a) (outcome : a.exchange.outcome = .ok response)
      (failure : ¬ response.isSuccess) :
      Ends course (.error .tokenRejected) (a.events [401, 403])

namespace Client.Takes

variable {c : Client} {context : Context} {left : Nat} {r : Request} {link : Link} {course : Course}

theorem inTransport (h : c.Takes context left r link course) {a : Attempt} {f : Failure}
    (ha : a ∈ course.attempts) (ho : a.exchange.outcome = .error f) : f.InTransport := by
  obtain ⟨link', hx⟩ := h.serves.exchange_of_mem ha
  rw [hx] at ho
  exact exchange_inTransport ho

theorem ends_plain (h : c.Takes context left r link course) (hn : course.recovery = none) :
    course.Ends course.main.result (course.main.events [401]) := by
  cases ho : course.main.exchange.outcome with
  | error f =>
      have ht := h.inTransport (by simp [Course.attempts]) ho
      rw [Attempt.events_unanswered ho, Attempt.result, ho]
      exact .unanswered hn ho ht
  | ok response =>
      have hst := Attempt.status?_ok ho
      by_cases hs : response.isSuccess
      · have hlt := lt_of_isSuccess hs
        rw [Attempt.events_nil (by simp [hst]; omega), Attempt.result, ho]
        simp only [hs, ↓reduceIte]
        exact .answered hn ho hs
      · by_cases h1 : response.status = 401
        · rw [Attempt.events_single (h1 ▸ hst) (by simp), Attempt.result, ho]
          simp only [hs, h1, ↓reduceIte, Bool.false_eq_true]
          exact .demanded hn (h1 ▸ hst)
        · rw [Attempt.events_nil (by simp [hst, h1]), Attempt.result, ho]
          simp only [hs, h1, ↓reduceIte, Bool.false_eq_true]
          exact .failed hn ho hs h1

theorem ends_recovered (h : c.Takes context left r link course) {v : Recovery}
    (hv : course.recovery = some v) (hr : v.Regular r context) : course.Ends v.result v.events := by
  cases hg : v.fetch.granted? with
  | none =>
      have hn := hr.replay_eq_none hg
      simp only [Recovery.result, Recovery.events, hn, Option.map_none, Option.getD_none,
        List.append_nil]
      exact .tokenless hv hg hn
  | some token =>
      obtain ⟨a, ha, _⟩ := hr.replay_eq_some hg
      have hsome : v.fetch.granted?.isSome := by simp [hg]
      simp only [Recovery.result, Recovery.events, ha, Option.map_some, Option.getD_some,
        Attempt.events_of_granted hg, List.nil_append]
      cases ho : a.exchange.outcome with
      | error f =>
          have ht := h.inTransport (by simp [Course.attempts, hv, Recovery.attempts, ha]) ho
          rw [Attempt.events_unanswered ho, Attempt.replayResult, ho]
          exact .replayUnanswered hv hsome ha ho ht
      | ok response =>
          by_cases hs : response.isSuccess
          · have hlt := lt_of_isSuccess hs
            rw [Attempt.events_nil (by simp [Attempt.status?_ok ho]; omega), Attempt.replayResult, ho]
            simp only [hs, ↓reduceIte]
            exact .replayAnswered hv hsome ha ho hs
          · rw [Attempt.replayResult, ho]
            simp only [hs, ↓reduceIte, Bool.false_eq_true]
            exact .replayRefused hv hsome ha ho hs

theorem ends (h : c.Takes context left r link course) :
    course.Ends course.result course.events := by
  rcases h.recovery_cases with ⟨_, v, hv, hr⟩ | ⟨_, hn⟩
  · simpa only [Course.result, Course.events, hv] using h.ends_recovered hv hr
  · simpa only [Course.result, Course.events, hn] using h.ends_plain hn

end Client.Takes

end CameraConsole
