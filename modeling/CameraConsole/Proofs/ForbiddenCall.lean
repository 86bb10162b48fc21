import CameraConsole.Operation.Basic
import CameraConsole.Proofs.Endings

/-!
# Calls that were forbidden

What a call says after a mutating request met a 403. It says what a successful replay answered, or
that the token was rejected, unless the replay got no answer at all: then its own failure shows.
-/

namespace CameraConsole

/-! ## Recoveries -/

namespace Recovery

def Answers (v : Recovery) (result : Except Failure Json) : Prop :=
  ∃ a response, v.replay = some a ∧ a.exchange.outcome = .ok response ∧ response.isSuccess ∧
    result = readBody response.body

/-- There was a replay, and it failed in this way without an answer. -/
def Loses (v : Recovery) (f : Failure) : Prop :=
  ∃ a ∈ v.replay, a.exchange.outcome = .error f

instance (v : Recovery) (f : Failure) : Decidable (v.Loses f) :=
  inferInstanceAs (Decidable (∃ _ ∈ _, _))

theorem Loses.not_answers {v : Recovery} {f : Failure} {result : Except Failure Json}
    (h : v.Loses f) : ¬ v.Answers result := by
  obtain ⟨a, ha, ho⟩ := h
  rintro ⟨b, response, hb, hr, _⟩
  cases ha.symm.trans hb
  rw [ho] at hr
  cases hr

end Recovery

namespace Course.Ends

variable {course : Course} {result : Except Failure Json} {events : List AuthEvent} {v : Recovery}

/-- After a forbidden request the replay answers, the token is rejected, or the replay is lost. -/
theorem recovered (h : course.Ends result events) (hv : course.recovery = some v) :
    v.Answers result ∨ result = .error .tokenRejected ∨ ∃ f, v.Loses f := by
  cases h with
  | unanswered hn _ _ | answered hn _ _ | demanded hn _ | failed hn _ _ _ =>
      rw [hv] at hn
      cases hn
  | tokenless _ _ _ | replayRefused _ _ _ _ _ => exact Or.inr (Or.inl rfl)
  | replayUnanswered hv' _ hr ho _ =>
      cases hv.symm.trans hv'
      exact Or.inr (Or.inr ⟨_, _, hr, ho⟩)
  | replayAnswered hv' _ hr ho hs =>
      cases hv.symm.trans hv'
      exact Or.inl ⟨_, _, hr, ho, hs, rfl⟩

/-- The failure of a replay that is lost shows as it is. -/
theorem of_loses (h : course.Ends result events) (hv : course.recovery = some v) {f : Failure}
    (hl : v.Loses f) : result = .error f ∧ f.InTransport := by
  obtain ⟨a, ha, ho⟩ := hl
  cases h with
  | unanswered hn _ _ | answered hn _ _ | demanded hn _ | failed hn _ _ _ =>
      rw [hv] at hn
      cases hn
  | tokenless hv' _ hr =>
      cases hv.symm.trans hv'
      cases ha.symm.trans hr
  | replayUnanswered hv' _ hr ho' ht =>
      cases hv.symm.trans hv'
      cases ha.symm.trans hr
      cases ho.symm.trans ho'
      exact ⟨rfl, ht⟩
  | replayAnswered hv' _ hr ho' _ | replayRefused hv' _ hr ho' _ =>
      cases hv.symm.trans hv'
      cases ha.symm.trans hr
      cases ho.symm.trans ho'

end Course.Ends

/-! ## Calls -/

/-- After a forbidden request a call gives the body of a successful replay or says that the token was
rejected, exactly when the replay was not lost. A replay that is lost shows its own failure, which is
one of the transport and never that of the token. -/
theorem Client.run_forbidden_conforms_iff (c : Client) (r : Request) (w : World)
    (h : (c.course r w).main.Forbidden) :
    (c.run r w).2.journal.attempts = w.journal.attempts ++ (c.course r w).attempts ∧
    Failure.tokenRejected.status? = some 403 ∧
    Failure.tokenRejected.message = "CSRF validation failed" ∧
    ∃ v, (c.course r w).recovery = some v ∧
      (v.Answers (c.run r w).1 ∨ (c.run r w).1 = .error .tokenRejected ↔ ∀ f, ¬ v.Loses f) ∧
      ∀ f, v.Loses f → (c.run r w).1 = .error f ∧ f.InTransport ∧ f ≠ .tokenRejected := by
  have ht := c.course_takes r w
  refine ⟨c.run_attempts r w, rfl, rfl, ?_⟩
  rcases ht.recovery_cases with ⟨_, v, hv, _⟩ | ⟨hf, _⟩
  · rw [c.run_result]
    have lost {f : Failure} (hl : v.Loses f) := ht.ends.of_loses hv hl
    refine ⟨v, hv, ⟨?_, ?_⟩, ?_⟩
    · rintro (ha | hr) f hl
      · exact hl.not_answers ha
      · -- The failure that would show is one of the transport, not that of the token.
        obtain ⟨he, hi⟩ := lost hl
        cases hr.symm.trans he
        exact hi.not_denied (Or.inr rfl)
    · intro hn
      rcases ht.ends.recovered hv with ha | hr | ⟨f, hl⟩
      · exact Or.inl ha
      · exact Or.inr hr
      · exact absurd hl (hn f)
    · intro f hl
      obtain ⟨he, hi⟩ := lost hl
      exact ⟨he, hi, fun hr => hi.not_denied (Or.inr hr)⟩
  · exact absurd h hf

def Client.onLocalhost : Client :=
  { config := {}
    base :=
      { scheme := "http"
        authority := some { username := "", password := none, host := "localhost", port := some 8080 }
        path := .nested [""], query := none, fragment := none } }

/-- A daemon that forbids a request, gives a fresh token, and closes the connection on the replay. -/
def World.losingReplay : World :=
  .ofLink ⟨.direct, [{ status := 403 }, { body := Text.bytes "\x7b\"csrf_token\":\"abc\"\x7d" },
    { breakdown := some .close }]⟩

theorem lost_replay_shows_its_failure :
    let r : Request := Client.remove (.picture 1 7)
    let lost : Failure := .network (.closed "http://localhost:8080/1/api/media/picture/7")
    (Client.onLocalhost.course r .losingReplay).main.Forbidden ∧
      (∃ v, (Client.onLocalhost.course r .losingReplay).recovery = some v ∧ v.Loses lost) ∧
      (Client.onLocalhost.run r .losingReplay).1 = .error lost ∧ lost.InTransport ∧
      lost ≠ .tokenRejected := by
  intro r lost
  have hf : (Client.onLocalhost.course r .losingReplay).main.Forbidden := by decide +kernel
  have hl : ∃ v ∈ (Client.onLocalhost.course r .losingReplay).recovery, v.Loses lost := by
    decide +kernel
  obtain ⟨_, _, _, v, hv, _, shows⟩ := Client.run_forbidden_conforms_iff _ r .losingReplay hf
  obtain ⟨v', hv', hl⟩ := hl
  cases hv.symm.trans hv'
  exact ⟨hf, ⟨v, hv, hl⟩, shows lost hl⟩

end CameraConsole
