import CameraConsole.Proofs.ForbiddenCall
import CameraConsole.Proofs.Results

/-!
# Raising the retry limit

A client that may retry more often does the same as before, unless the limit was what ended a call;
then it goes on from there. Courses under two limits are compared step by step.
-/

namespace CameraConsole

namespace Client

/-- The client with another limit for its retries. -/
def withRetries (c : Client) (limit : Nat) : Client :=
  { c with config := { c.config with maxRetries := limit } }

variable {c : Client} {context : Context} {left left' limit : Nat} {r : Request} {link : Link}
  {course course' : Course}

/-! ## Attempts do not depend on the limit -/

/-- An attempt depends on the base of its client and on the timeout, and on no other setting. -/
theorem exchange_congr {c c' : Client} (hb : c.base = c'.base)
    (ht : c.config.timeout = c'.config.timeout) (d : Dispatch) (link : Link) :
    c.exchange d link = c'.exchange d link := by
  have hm : c.message d = c'.message d := by
    unfold message resolve
    rw [hb]
  unfold exchange
  rw [hm, ht]

@[simp] theorem withRetries_exchange (c : Client) (limit : Nat) (d : Dispatch) (link : Link) :
    (c.withRetries limit).exchange d link = c.exchange d link := by
  refine exchange_congr ?_ ?_ d link
  · rfl
  · rfl

@[simp] theorem withRetries_trial (c : Client) (limit : Nat) (r : Request) (context : Context)
    (link : Link) : (c.withRetries limit).trial r context link = c.trial r context link := by
  simp only [trial, withRetries_exchange]

@[simp] theorem withRetries_recovery (c : Client) (limit : Nat) (r : Request) (context : Context)
    (link : Link) : (c.withRetries limit).recovery r context link = c.recovery r context link := by
  simp only [recovery, withRetries_trial]

/-! ## Courses -/

namespace Takes

/-- A course that its last main attempt settled is also taken with more retries left. -/
theorem withRetries (h : c.Takes context left r link course)
    (hs : ¬ course.main.Transient c.config.retryableStatuses) (hle : left ≤ left') :
    (c.withRetries limit).Takes context left' r link course := by
  induction h generalizing left' with
  | forbidden ha hf =>
      rw [← withRetries_trial c limit] at ha
      rw [← withRetries_recovery c limit]
      exact .forbidden ha hf
  | settled ha hf _ => exact .settled (by rw [withRetries_trial, ha]) hf (.inr hs)
  | retry ha ht _ ih =>
      obtain ⟨left', rfl⟩ : ∃ n, left' = n + 1 := ⟨left' - 1, by omega⟩
      exact .retry (by rw [withRetries_trial, ha]) ht (ih hs (by omega))

/-- With more retries left a course can only get longer. -/
theorem attempts_prefix (h : c.Takes context left r link course) (hle : left ≤ left')
    (h' : (c.withRetries limit).Takes context left' r link course') :
    course.attempts <+: course'.attempts := by
  induction h generalizing left' course' with
  | forbidden ha hf =>
      cases h' with
      | forbidden ha' hf' =>
          rw [withRetries_trial, ha] at ha'
          subst ha'
          exact (withRetries_recovery c limit _ _ _).symm ▸ List.prefix_rfl
      | settled ha' hf' _ =>
          rw [withRetries_trial, ha] at ha'
          exact absurd (ha' ▸ hf) hf'
      | retry ha' ht' _ =>
          rw [withRetries_trial, ha] at ha'
          obtain ⟨_, _, _, _, hf', _⟩ := ht'
          exact absurd (ha' ▸ hf) hf'
  | settled ha hf hs =>
      cases h' with
      | forbidden ha' hf' =>
          rw [withRetries_trial, ha] at ha'
          exact absurd hf' (ha' ▸ hf)
      | settled ha' _ _ =>
          rw [withRetries_trial, ha] at ha'
          subst ha'
          exact List.prefix_rfl
      | retry ha' _ _ =>
          rw [withRetries_trial, ha] at ha'
          rw [ha']
          exact List.prefix_append [_] _
  | retry ha ht _ ih =>
      cases h' with
      | forbidden ha' hf' =>
          rw [withRetries_trial, ha] at ha'
          obtain ⟨_, _, _, _, hf, _⟩ := ht
          exact absurd hf' (ha' ▸ hf)
      | settled ha' _ hs' =>
          rw [withRetries_trial, ha] at ha'
          rcases hs' with rfl | hs'
          · exact absurd hle (Nat.not_succ_le_zero _)
          · exact absurd ht (ha' ▸ hs')
      | retry ha' _ rest' =>
          rw [withRetries_trial, ha] at ha'
          subst ha'
          have hrest := ih (Nat.le_of_succ_le_succ hle) rest'
          exact List.cons_prefix_cons.mpr ⟨rfl, hrest⟩

/-- A main attempt that could be retried was not for want of retries, and its status is what the call
fails with. -/
theorem exhausted (h : c.Takes context left r link course)
    (ht : course.main.Transient c.config.retryableStatuses) :
    course.retried.length = left ∧ ∃ status ∈ c.config.retryableStatuses, ∃ message,
      course.result = .error (.http status message) := by
  refine ⟨h.main_settles.resolve_left (absurd ht), ?_⟩
  obtain ⟨status, hst, hs, h1, hf, hm⟩ := ht
  have hn : course.recovery = none := by
    rcases h.recovery_cases with ⟨hf', _⟩ | ⟨_, hn⟩
    · exact absurd hf' hf
    · exact hn
  cases ho : course.main.exchange.outcome with
  | error f => simp [Attempt.status?_error ho] at hst
  | ok response =>
      simp only [Attempt.status?_ok ho, Option.mem_def, Option.some.injEq] at hst
      subst hst
      have hs' : response.isSuccess = false := hs
      have hr : course.result = .error (.ofAnswer response.status response.reason) := by
        simp only [Course.result, hn, Attempt.result, ho, hs', h1, ↓reduceIte, Bool.false_eq_true]
      exact ⟨response.status, hm, _, hr⟩

end Takes

/-! ## Calls -/

/-- The call failed with a retryable status, after as many back-offs as its client allows. -/
def Exhausts (c : Client) (r : Request) (w : World) : Prop :=
  ∃ status message, (c.run r w).1 = .error (.http status message) ∧
    status ∈ c.config.retryableStatuses ∧
    (c.run r w).2.journal.backOffs = w.journal.backOffs + (c.config.maxRetries - r.retryCount)

theorem exhausts_of_transient {w : World}
    (ht : (c.course r w).main.Transient c.config.retryableStatuses) : c.Exhausts r w := by
  obtain ⟨hl, status, hm, message, hr⟩ := (c.course_takes r w).exhausted ht
  exact ⟨status, message, by rw [c.run_result, hr], hm, by rw [c.run_backOffs, hl]⟩

/-- A higher limit changes nothing about a call that the lower one did not end: result, context,
replies left and the whole journal with its requests, events and times are the same. And whatever
ended the call, it makes the same attempts first. -/
theorem run_raised_limit (c : Client) {limit : Nat} (h : c.config.maxRetries ≤ limit) (r : Request)
    (w : World) :
    (¬ c.Exhausts r w → (c.withRetries limit).run r w = c.run r w) ∧
      (c.run r w).2.journal.attempts <+: ((c.withRetries limit).run r w).2.journal.attempts := by
  have ht := c.course_takes r w
  have hle : c.config.maxRetries - r.retryCount ≤ limit - r.retryCount := Nat.sub_le_sub_right h _
  constructor
  · intro hn
    have hs : ¬ (c.course r w).main.Transient c.config.retryableStatuses :=
      fun ht => hn (exhausts_of_transient ht)
    rw [c.run_eq]
    exact (ht.withRetries hs hle).persist_eq rfl rfl
  · rw [c.run_attempts, run_attempts]
    have hp := ht.attempts_prefix hle ((c.withRetries limit).course_takes r w)
    exact (List.prefix_append_right_inj _).mpr hp

end Client

/-- A daemon that is busy twice before it answers. -/
def World.busyTwice : World :=
  .ofLink ⟨.direct, [{ status := 503 }, { status := 503 }, {}]⟩

theorem raised_limit_outlasts_busy :
    let c := Client.onLocalhost
    let r := Client.read .cameras
    c.config.maxRetries ≤ 3 ∧ c.Exhausts r .busyTwice ∧
      (c.run r .busyTwice).2.journal.attempts.map Attempt.status? = [some 503, some 503] ∧
      ((c.withRetries 3).run r .busyTwice).2.journal.attempts.map Attempt.status? =
        [some 503, some 503, some 200] ∧
      (c.run r .busyTwice).2.journal.attempts <+:
        ((c.withRetries 3).run r .busyTwice).2.journal.attempts := by
  intro c r
  have hl : c.config.maxRetries ≤ 3 := by decide
  have hx : c.Exhausts r .busyTwice := by
    refine ⟨503, "HTTP 503", ?_, ?_, ?_⟩ <;> decide +kernel
  exact ⟨hl, hx, by decide +kernel, by decide +kernel,
    (c.run_raised_limit hl r .busyTwice).2⟩

end CameraConsole
