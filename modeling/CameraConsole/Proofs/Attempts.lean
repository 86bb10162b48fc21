import CameraConsole.Proofs.Call

/-!
# The attempts of a call

Which attempts a call makes, and when it stops: retries as long as the answer is transient and
retries are left, one fetch of the configuration after a forbidden request, and one replay when the
fetch brought a token.
-/

namespace CameraConsole

namespace Attempt

def Asks (r : Request) (a : Attempt) : Prop :=
  a.dispatch.method = r.method ∧ a.dispatch.endpoint = r.endpoint ∧ a.dispatch.body = r.body

/-- Why an attempt is not retried, whatever the number of retries left: there was no answer, or it is
a success, demands authentication, forbids the request or has a status that is not retryable. -/
def Settles (statuses : List Nat) (a : Attempt) : Prop :=
  (∃ failure, a.exchange.outcome = .error failure) ∨
    ∃ response, a.exchange.outcome = .ok response ∧
      (response.isSuccess ∨ response.status = 401 ∨ a.Forbidden ∨ response.status ∉ statuses)

/-- The answer is a success, and its body an object whose `csrf_token` is this text, not empty. -/
def Grants (token : String) (a : Attempt) : Prop :=
  ∃ response members, a.exchange.outcome = .ok response ∧ response.isSuccess ∧
    readBody response.body = .ok (.object members) ∧
    members.lookup "csrf_token" = some (.text token) ∧ token ≠ ""

theorem asks_of_dispatch {r : Request} {context : Context} {a : Attempt}
    (h : a.dispatch = r.dispatch context) : a.Asks r := by
  simp only [Asks, h, Request.dispatch, and_self]

theorem settles_of_not_transient {statuses : List Nat} {a : Attempt} (h : ¬ a.Transient statuses) :
    a.Settles statuses := by
  cases ho : a.exchange.outcome with
  | error failure => exact Or.inl ⟨failure, ho⟩
  | ok response =>
      refine Or.inr ⟨response, ho, ?_⟩
      by_cases h1 : response.isSuccess
      · exact Or.inl h1
      by_cases h2 : response.status = 401
      · exact Or.inr (Or.inl h2)
      by_cases h3 : a.Forbidden
      · exact Or.inr (Or.inr (Or.inl h3))
      have h1' : isSuccess response.status = false := by simpa [Response.isSuccess] using h1
      exact Or.inr (Or.inr (Or.inr fun h4 => h ⟨_, status?_ok ho, h1', h2, h3, h4⟩))

theorem granted?_eq_some_iff_grants {token : String} {a : Attempt} :
    a.granted? = some token ↔ a.Grants token := by
  rw [granted?_eq_some_iff_answer]
  constructor
  · rintro ⟨response, config, ho, hs, hb, ht⟩
    obtain ⟨members, rfl, hm, hne⟩ := tokenOf_eq_some_iff.mp ht
    exact ⟨response, members, ho, hs, hb, hm, hne⟩
  · rintro ⟨response, members, ho, hs, hb, hm, hne⟩
    exact ⟨response, _, ho, hs, hb, tokenOf_eq_some_iff.mpr ⟨members, rfl, hm, hne⟩⟩

end Attempt

/-! ## Courses -/

/-- The attempts go over the link one after the other, each with what the ones before it left. -/
def Client.Serves (c : Client) : Link → List Attempt → Prop
  | _, [] => True
  | link, a :: rest => a.exchange = c.exchange a.dispatch link ∧ c.Serves (link.after a) rest

theorem Client.Serves.exchange_of_mem {c : Client} {link : Link} {attempts : List Attempt}
    (h : c.Serves link attempts) {a : Attempt} (ha : a ∈ attempts) :
    ∃ link', a.exchange = c.exchange a.dispatch link' := by
  induction attempts generalizing link with
  | nil => cases ha
  | cons b rest ih =>
      rcases List.mem_cons.mp ha with rfl | ha
      · exact ⟨link, h.1⟩
      · exact ih h.2 ha

/-- The recovery of a request: the fetch carries no token, and the replay the one that it brought. -/
structure Recovery.Regular (r : Request) (context : Context) (v : Recovery) : Prop where
  fetch_dispatch : v.fetch.dispatch =
    (Request.get Resource.config.endpoint).dispatch context.invalidateToken
  replay_dispatch : v.replay.map (·.dispatch) =
    v.fetch.granted?.map fun token => r.dispatch (context.setToken token)

namespace Recovery.Regular

variable {r : Request} {context : Context} {v : Recovery}

theorem replay_eq_none (h : v.Regular r context) (hn : v.fetch.granted? = none) :
    v.replay = none := by
  simpa [hn] using h.replay_dispatch

theorem replay_eq_some {token : String} (h : v.Regular r context)
    (ht : v.fetch.granted? = some token) :
    ∃ a, v.replay = some a ∧ a.dispatch = r.dispatch (context.setToken token) := by
  simpa [ht] using h.replay_dispatch

end Recovery.Regular

namespace Client

variable {c : Client} {context : Context} {left : Nat} {r : Request} {link : Link} {course : Course}

theorem exchange_of_trial {a : Attempt} (h : c.trial r context link = a) :
    a.exchange = c.exchange a.dispatch link := by
  simp only [← h, trial]

theorem recovery_regular (c : Client) (r : Request) (context : Context) (link : Link) :
    (c.recovery r context link).Regular r context := by
  constructor
  · simp only [recovery, trial]
  · simp only [recovery, Option.map_map, Function.comp_def, trial]

theorem recovery_serves (c : Client) (r : Request) (context : Context) (link : Link) :
    c.Serves link (c.recovery r context link).attempts := by
  refine ⟨exchange_of_trial rfl, ?_⟩
  cases h : (c.recovery r context link).replay with
  | none => trivial
  | some a =>
      simp only [recovery, Option.map_eq_some_iff] at h
      obtain ⟨token, _, ha⟩ := h
      exact ⟨exchange_of_trial ha, trivial⟩

namespace Takes

theorem retried_length_le (h : c.Takes context left r link course) :
    course.retried.length ≤ left := by
  induction h with
  | forbidden _ _ => exact Nat.zero_le _
  | settled _ _ _ => exact Nat.zero_le _
  | retry _ _ _ ih => exact Nat.succ_le_succ ih

theorem retried_transient (h : c.Takes context left r link course) :
    ∀ a ∈ course.retried,
      a.dispatch = r.dispatch context ∧ a.Transient c.config.retryableStatuses := by
  induction h with
  | forbidden _ _ => simp
  | settled _ _ _ => simp
  | retry ha ht _ ih =>
      intro b hb
      rcases List.mem_cons.mp hb with rfl | hb
      · exact ⟨dispatch_of_trial ha, ht⟩
      · exact ih b hb

theorem main_dispatch (h : c.Takes context left r link course) :
    course.main.dispatch = r.dispatch context := by
  induction h with
  | forbidden ha _ => exact dispatch_of_trial ha
  | settled ha _ _ => exact dispatch_of_trial ha
  | retry _ _ _ ih => exact ih

/-- The main attempt is not retried, because of its answer or for want of retries. -/
theorem main_settles (h : c.Takes context left r link course) :
    ¬ course.main.Transient c.config.retryableStatuses ∨ course.retried.length = left := by
  induction h with
  | forbidden _ hf => exact Or.inl fun ⟨_, _, _, _, hf', _⟩ => hf' hf
  | settled _ _ hs =>
      rcases hs with rfl | hs
      · exact Or.inr rfl
      · exact Or.inl hs
  | retry _ _ _ ih =>
      rcases ih with hm | hl
      · exact Or.inl hm
      · exact Or.inr (by simp [hl])

/-- There is a recovery just after a forbidden main attempt. -/
theorem recovery_cases (h : c.Takes context left r link course) :
    (course.main.Forbidden ∧ ∃ v, course.recovery = some v ∧ v.Regular r context) ∨
      (¬ course.main.Forbidden ∧ course.recovery = none) := by
  induction h with
  | forbidden _ hf => exact Or.inl ⟨hf, _, rfl, c.recovery_regular _ _ _⟩
  | settled _ hf _ => exact Or.inr ⟨hf, rfl⟩
  | retry _ _ _ ih =>
      rcases ih with ⟨hf, v, hv, hr⟩ | hn
      · exact Or.inl ⟨hf, v, hv, hr.fetch_dispatch, hr.replay_dispatch⟩
      · exact Or.inr hn

/-- A read has nothing to recover. -/
theorem recovery_of_read (h : c.Takes context left r link course)
    (hr : r.method.mutating = false) : course.recovery = none := by
  rcases h.recovery_cases with ⟨hf, _⟩ | ⟨_, hn⟩
  · have hm := hf.2
    rw [h.main_dispatch] at hm
    exact absurd hm (by simp [Request.dispatch, hr])
  · exact hn

theorem serves (h : c.Takes context left r link course) : c.Serves link course.attempts := by
  induction h with
  | forbidden ha _ => exact ⟨exchange_of_trial ha, c.recovery_serves _ _ _⟩
  | settled ha _ _ => exact ⟨exchange_of_trial ha, trivial⟩
  | retry ha _ _ ih => exact ⟨exchange_of_trial ha, ih⟩

/-- Main attempts count the retries before them. -/
theorem retryCounts (h : c.Takes context left r link course) :
    course.retried.map (·.retryCount) = List.range' r.retryCount course.retried.length ∧
      course.main.retryCount = r.retryCount + course.retried.length := by
  induction h with
  | forbidden ha _ => exact ⟨rfl, retryCount_of_trial ha⟩
  | settled ha _ _ => exact ⟨rfl, retryCount_of_trial ha⟩
  | @retry left r link a course ha _ _ ih =>
      obtain ⟨hr, hm⟩ := ih
      have hc := retryCount_of_trial ha
      simp only [Request.again] at hr hm
      constructor
      · simp only [Course.prepend_retried, List.map_cons, List.length_cons, List.range'_succ, hr, hc]
      · simp only [Course.prepend_main, Course.prepend_retried, List.length_cons, hm]
        omega

/-- The fetch of a recovery counts no retries, and the replay those before the main attempt. -/
theorem recovery_retryCounts (h : c.Takes context left r link course) {v : Recovery}
    (hv : course.recovery = some v) :
    v.fetch.retryCount = 0 ∧ ∀ a ∈ v.replay, a.retryCount = course.main.retryCount := by
  induction h with
  | forbidden ha _ =>
      cases hv
      refine ⟨rfl, fun a hr => ?_⟩
      obtain ⟨token, _, rfl⟩ := Option.map_eq_some_iff.mp hr
      exact (retryCount_of_trial ha).symm
  | settled _ _ _ => cases hv
  | retry _ _ _ ih => exact ih hv

theorem length_attempts_le (h : c.Takes context left r link course) :
    course.attempts.length ≤ left + 3 := by
  have hl := h.retried_length_le
  unfold Course.attempts
  cases course.recovery with
  | none => simp; omega
  | some v => cases hr : v.replay <;> simp [Recovery.attempts, hr] <;> omega

end Takes

/-! ## Calls -/

/-- A call makes exactly these attempts. First it asks for what it was told, and again as long as the
answer is transient and retries are left. Then, just when that ended with a forbidden request, it
fetches the configuration once; and just when this brought a token it asks once more. -/
theorem run_attempts_exactly (c : Client) (r : Request) (w : World) :
    ∃ retried main rest,
      (c.run r w).2.journal.attempts = w.journal.attempts ++ (retried ++ main :: rest) ∧
      c.Serves w.link (retried ++ main :: rest) ∧
      retried.length ≤ c.config.maxRetries - r.retryCount ∧
      (∀ a ∈ retried, a.Asks r ∧ a.Transient c.config.retryableStatuses) ∧
      main.Asks r ∧
      (main.Settles c.config.retryableStatuses ∨
        retried.length = c.config.maxRetries - r.retryCount) ∧
      (¬ main.Forbidden → rest = []) ∧
      (main.Forbidden → ∃ fetch replays, rest = fetch :: replays ∧
        fetch.Asks (.get "/0/api/config") ∧
        ((¬ ∃ token, fetch.Grants token) → replays = []) ∧
        ((∃ token, fetch.Grants token) → ∃ replay, replays = [replay] ∧ replay.Asks r)) := by
  have h := c.course_takes r w
  refine ⟨(c.course r w).retried, (c.course r w).main, _, c.run_attempts r w, h.serves,
    h.retried_length_le, ?_, Attempt.asks_of_dispatch h.main_dispatch, ?_, ?_, ?_⟩
  · intro a ha
    obtain ⟨hd, ht⟩ := h.retried_transient a ha
    exact ⟨Attempt.asks_of_dispatch hd, ht⟩
  · exact h.main_settles.imp_left Attempt.settles_of_not_transient
  · intro hf
    rcases h.recovery_cases with ⟨hf', _⟩ | ⟨_, hn⟩
    · exact absurd hf' hf
    · simp [hn]
  · intro hf
    rcases h.recovery_cases with ⟨_, v, hv, hr⟩ | ⟨hf', _⟩
    · refine ⟨v.fetch, v.replay.toList, by simp [hv, Recovery.attempts],
        Attempt.asks_of_dispatch hr.fetch_dispatch, ?_, ?_⟩
      · intro hn
        have hg : v.fetch.granted? = none := Option.eq_none_iff_forall_ne_some.mpr fun token ht =>
          hn ⟨token, Attempt.granted?_eq_some_iff_grants.mp ht⟩
        simp [hr.replay_eq_none hg]
      · rintro ⟨token, ht⟩
        obtain ⟨a, ha, hd⟩ := hr.replay_eq_some (Attempt.granted?_eq_some_iff_grants.mpr ht)
        exact ⟨a, by simp [ha], Attempt.asks_of_dispatch hd⟩
    · exact absurd hf hf'

end Client

end CameraConsole
