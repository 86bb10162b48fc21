import CameraConsole.Proofs.Course

/-!
# Calls follow their courses

What a call gives and leaves is what its course amounts to: `Client.run_eq`. Everything else about
calls is derived from this equation.
-/

namespace CameraConsole

/-- What a call with this course gives and leaves. -/
def Course.play (config : ClientConfig) (call : Nat) (course : Course) (w : World) :
    Except Failure Json × World :=
  (course.result,
    w.advance (course.context w.context) course.last.exchange.replies
      (course.journal config call w.context.channel.heard))

theorem Course.play_prepend (config : ClientConfig) (call : Nat) (a : Attempt) (course : Course)
    (w : World) :
    (course.prepend a).play config call w =
      course.play config call
        (w.advance w.context a.exchange.replies (a.journal call ++ a.pause config call)) := by
  simp [play, journal_prepend, Journal.append_assoc]

namespace Client

/-! ## The phases of a call -/

variable (c : Client) (call : Nat)

theorem attempt_eq (r : Request) (w : World) :
    c.attempt call r w =
      ((c.trial r w.context w.link).exchange.outcome,
        w.advance w.context (c.trial r w.context w.link).exchange.replies
          ((c.trial r w.context w.link).journal call)) := by
  simp only [attempt, World.transmit, World.note, trial, Attempt.journal, Attempt.outcomeEvent,
    Request.dispatch]
  generalize c.exchange _ w.link = x
  cases h : x.outcome with
  | ok response =>
      simp only [World.advance, Prod.mk.injEq, World.mk.injEq, true_and]
      apply Journal.ext_fields <;> simp
  | error failure =>
      simp only [World.advance, Prod.mk.injEq, World.mk.injEq, true_and]
      apply Journal.ext_fields <;> simp

theorem fetchToken_eq {a : Attempt} (w : World)
    (ha : c.trial (.get Resource.config.endpoint) w.context w.link = a) :
    c.fetchToken call w =
      (a.freshToken,
        w.advance { w.context with channel := (a.events [401]).foldl Channel.publish w.context.channel }
          a.exchange.replies
          (a.journal call ++ .announcing w.context.channel.heard (a.events [401]))) := by
  simp only [fetchToken, attempt_eq, ha]
  cases h : a.exchange.outcome with
  | error failure => simp [Attempt.freshToken, Attempt.events, Attempt.status?_error h, h]
  | ok response =>
      by_cases h1 : response.status = 401
      · simp [Attempt.freshToken, Attempt.events, Attempt.status?_ok h, h, h1]
      · by_cases h2 : response.isSuccess <;>
          simp [Attempt.freshToken, Attempt.events, Attempt.status?_ok h, h, h1, h2]

theorem replay_eq {a : Attempt} (r : Request) (w : World) (ha : c.trial r w.context w.link = a) :
    c.replay call r w =
      (a.replayResult,
        w.advance
          { w.context with channel := (a.events [401, 403]).foldl Channel.publish w.context.channel }
          a.exchange.replies
          (a.journal call ++ { log := a.replayLog call } ++
            .announcing w.context.channel.heard (a.events [401, 403]))) := by
  have he := endpoint_of_trial ha
  simp only [replay, attempt_eq, ha]
  cases h : a.exchange.outcome with
  | error failure =>
      simp [Attempt.replayResult, Attempt.events, Attempt.replayLog, Attempt.status?_error h, h]
  | ok response =>
      have hs : response.isSuccess = isSuccess response.status := rfl
      by_cases h2 : isSuccess response.status
      · have hlt := lt_of_isSuccess h2
        have h3 : response.status ≠ 401 ∧ response.status ≠ 403 := by omega
        simp [Attempt.replayResult, Attempt.events, Attempt.replayLog, Attempt.status?_ok h, h,
          hs, h2, h3]
      · by_cases h3 : response.status = 401 ∨ response.status = 403 <;>
          simp [Attempt.replayResult, Attempt.events, Attempt.replayLog, Attempt.status?_ok h, h,
            hs, h2, h3, he, Journal.append_assoc]

theorem recover_eq {v : Recovery} (r : Request) (w : World)
    (hv : c.recovery r w.context w.link = v) :
    c.recover call r w =
      (v.result,
        w.advance
          { w.context with
            token := v.fetch.granted?
            channel := v.events.foldl Channel.publish w.context.channel }
          (v.replay.getD v.fetch).exchange.replies
          ({ log := [.tokenRejected call r.method r.endpoint] } ++
            v.journal call w.context.channel.heard)) := by
  obtain ⟨fetch, replay⟩ := v
  simp only [recovery, Recovery.mk.injEq] at hv
  obtain ⟨hf, hr⟩ := hv
  simp only [recover, World.adjust_eq, World.note_advance]
  rw [c.fetchToken_eq call (a := fetch) _ (by simpa using hf)]
  rw [hf] at hr
  cases ht : fetch.freshToken with
  | error failure =>
      have hg : fetch.granted? = none := by simp [Attempt.granted?, ht, Except.toOption]
      obtain rfl : replay = none := by simpa [hg] using hr.symm
      simp [Recovery.result, Recovery.events, Recovery.journal, Recovery.sequel, hg, ht,
        Context.invalidateToken, Journal.append_assoc]
  | ok token =>
      cases token with
      | none =>
          have hg : fetch.granted? = none := by simp [Attempt.granted?, ht, Except.toOption]
          obtain rfl : replay = none := by simpa [hg] using hr.symm
          simp [Recovery.result, Recovery.events, Recovery.journal, Recovery.sequel, hg, ht,
            Context.invalidateToken, Journal.append_assoc]
      | some token =>
          have hg : fetch.granted? = some token := Attempt.granted?_eq_some_iff.mpr ht
          obtain ⟨a, rfl⟩ : ∃ a, replay = some a := by simp [← hr, hg]
          simp only [hg, Option.map_some, Option.some.injEq] at hr
          have hne : token ≠ "" := Attempt.granted?_ne_empty hg
          dsimp only
          rw [c.replay_eq call (a := a) _ _ hr]
          simp [Recovery.result, Recovery.events, Recovery.journal, Recovery.sequel, hg,
            Context.invalidateToken, Context.setToken, hne, Journal.append_assoc]

/-! ## The main loop -/

variable {c} {call : Nat} {left : Nat} {r : Request} {w : World} {a : Attempt}

theorem persist_settled (ha : c.trial r w.context w.link = a) (hf : ¬ a.Forbidden)
    (hs : left = 0 ∨ ¬ a.Transient c.config.retryableStatuses) :
    c.persist call left r w = Course.play c.config call ⟨[], a, none⟩ w := by
  have hm := method_of_trial ha
  have he := endpoint_of_trial ha
  have hc := retryCount_of_trial ha
  unfold persist
  simp only [attempt_eq, ha]
  cases h : a.exchange.outcome with
  | error failure =>
      simp [Course.play, Course.result, Course.context, Course.token, Course.events, Course.last,
        Course.journal, Course.ending, Attempt.result, Attempt.events, Attempt.closingLog,
        Attempt.status?_error h, h]
  | ok response =>
      have hst := Attempt.status?_ok h
      simp only [Attempt.Forbidden, Attempt.Transient, hst, hm, Option.some.injEq, Option.mem_def]
        at hf hs
      have hsu : response.isSuccess = isSuccess response.status := rfl
      simp only [Course.play, Course.result, Course.context, Course.token, Course.events, Course.last,
        Course.journal, Course.ending, Attempt.result, Attempt.events, Attempt.closingLog, hst, h, hm,
        he, hc, hsu]
      by_cases h1 : isSuccess response.status
      · have hlt := lt_of_isSuccess h1
        have h2 : response.status ≠ 401 := by omega
        simp [h1, h2]
      · by_cases h2 : response.status = 401
        · have h3 : isSuccess 401 = false := rfl
          simp [h2, h3, Journal.append_assoc]
        · simp only [h1, h2, hf, ↓reduceIte, Bool.false_eq_true]
          cases left with
          | zero => simp [h2]
          | succ left =>
              have h4 : response.status ∉ c.config.retryableStatuses := by
                simpa [h1, h2, hf] using hs
              simp [h2, h4]

theorem persist_forbidden (ha : c.trial r w.context w.link = a) (hf : a.Forbidden) :
    c.persist call left r w =
      Course.play c.config call ⟨[], a, some (c.recovery r w.context (w.link.after a))⟩ w := by
  have hm := method_of_trial ha
  have he := endpoint_of_trial ha
  unfold persist
  simp only [attempt_eq, ha]
  cases h : a.exchange.outcome with
  | error failure => simp [Attempt.Forbidden, Attempt.status?_error h] at hf
  | ok response =>
      simp only [Attempt.Forbidden, Attempt.status?_ok h, hm, Option.some.injEq] at hf
      have h1 : response.isSuccess = false := by simp [Response.isSuccess, isSuccess, hf.1]
      simp only [h1, hf, and_self, Bool.false_eq_true, ↓reduceIte]
      rw [recover_eq c call r _ rfl]
      simp [Course.play, Course.result, Course.context, Course.token, Course.events, Course.last,
        Course.journal, Course.ending, Link.after, hm, he]

theorem persist_retry (ha : c.trial r w.context w.link = a)
    (ht : a.Transient c.config.retryableStatuses) :
    c.persist call (left + 1) r w =
      c.persist call left r.again
        (w.advance w.context a.exchange.replies (a.journal call ++ a.pause c.config call)) := by
  have hm := method_of_trial ha
  have he := endpoint_of_trial ha
  have hc := retryCount_of_trial ha
  obtain ⟨status, hst, h1, h2, h3, h4⟩ := ht
  conv => lhs; unfold persist
  simp only [attempt_eq, ha]
  cases h : a.exchange.outcome with
  | error failure => simp [Attempt.status?_error h] at hst
  | ok response =>
      simp only [Attempt.status?_ok h, Option.mem_def, Option.some.injEq] at hst
      subst hst
      simp only [Attempt.Forbidden, Attempt.status?_ok h, hm, Option.some.injEq] at h3
      have h1' : response.isSuccess = false := h1
      simp [h1', h2, h3, h4, Attempt.pause, Attempt.status?_ok h, hc, he, Request.again,
        Journal.append_assoc]

/-- The loop follows every course that its client takes. -/
theorem Takes.persist_eq {context : Context} {link : Link} {course : Course}
    (h : c.Takes context left r link course) (hx : w.context = context) (hl : w.link = link) :
    c.persist call left r w = course.play c.config call w := by
  induction h generalizing w with
  | forbidden ha hf =>
      subst hx hl
      exact persist_forbidden ha hf
  | settled ha hf hs =>
      subst hx hl
      exact persist_settled ha hf hs
  | retry ha ht _ ih =>
      subst hx hl
      rw [persist_retry ha ht, Course.play_prepend]
      exact ih rfl rfl

theorem run_eq (c : Client) (r : Request) (w : World) :
    c.run r w = (c.course r w).play c.config w.nextCall { w with nextCall := w.nextCall + 1 } :=
  (c.course_takes r w).persist_eq rfl rfl

/-! ## What a call leaves -/

theorem run_result (c : Client) (r : Request) (w : World) :
    (c.run r w).1 = (c.course r w).result := by
  rw [run_eq, Course.play]

theorem run_context (c : Client) (r : Request) (w : World) :
    (c.run r w).2.context = (c.course r w).context w.context := by
  rw [run_eq, Course.play, World.advance_context]

theorem run_attempts (c : Client) (r : Request) (w : World) :
    (c.run r w).2.journal.attempts = w.journal.attempts ++ (c.course r w).attempts := by
  simp [run_eq, Course.play, Course.journal_attempts]

theorem run_sent (c : Client) (r : Request) (w : World) :
    (c.run r w).2.journal.sent =
      w.journal.sent ++ (c.course r w).attempts.flatMap (·.exchange.sent) := by
  simp [run_eq, Course.play, Course.journal_sent]

theorem run_announced (c : Client) (r : Request) (w : World) :
    (c.run r w).2.journal.announced = w.journal.announced ++ (c.course r w).events := by
  simp [run_eq, Course.play, Course.journal_announced]

end Client

end CameraConsole
