import CameraConsole.Proofs.Results
import Mathlib.Algebra.GroupWithZero.Nat

/-!
# How long calls take

An attempt takes as long as the delays of its replies add up to, and never longer than the timeout. A
call takes the time of its attempts and that of its back-offs, one for each attempt that was retried.
-/

namespace CameraConsole

/-! ## Attempts -/

/-- The delays that an exchange meets when it may take any time: those of the heads of all replies
that it takes, and that of the body of the last one, if it is read. -/
def Message.delays (left : Nat) (m : Message) : List Reply → List Nat
  | [] => []
  | r :: rest =>
    if r.breakdown = some .close ∨ r.breakdown = some .garbage then [r.delay]
    else
      match m.redirected? r with
      | none => [r.delay, r.bodyDelay]
      | some next =>
        match left with
        | 0 => [r.delay]
        | left + 1 => if next.url.isHttp then r.delay :: next.delays left rest else [r.delay]

/-- The delays that an attempt meets over a link; without a connection there are none. -/
def Client.delays (c : Client) (d : Dispatch) (link : Link) : List Nat :=
  match c.message d, link.route with
  | .ok m, .direct => m.delays maxRedirects link.replies
  | _, _ => []

namespace Message

variable {m : Message} {r : Reply} {left : Nat} {rest : List Reply}

/-- Every exchange that gets a reply waits for its head. -/
theorem delay_le_sum : r.delay ≤ (m.delays left (r :: rest)).sum := by
  unfold delays
  split
  · simp
  split
  · simp
  split
  · simp
  · split <;> simp

theorem delays_broken (h : r.breakdown = some .close ∨ r.breakdown = some .garbage) :
    m.delays left (r :: rest) = [r.delay] := by
  simp only [delays, h, ↓reduceIte]

theorem delays_read (hc : r.breakdown ≠ some .close) (hg : r.breakdown ≠ some .garbage)
    (hn : m.redirected? r = none) : m.delays left (r :: rest) = [r.delay, r.bodyDelay] := by
  simp only [delays, hc, hg, hn, or_self, ↓reduceIte]

end Message

/-- An exchange takes the time of its delays. When they take longer than the timeout it ends there,
for this reason. -/
theorem converse_takes {timeout elapsed : Nat} (left : Nat) (m : Message) (replies : List Reply)
    (h : elapsed ≤ timeout) :
    let x := converse timeout left elapsed m replies
    let due := elapsed + (m.delays left replies).sum
    x.duration = min timeout due ∧ (timeout < due → x.outcome = .error .timeout) := by
  fun_induction converse timeout left elapsed m replies with
  | case1 =>
      simp only [Message.delays, List.sum_nil]
      exact ⟨by omega, by omega⟩
  | case2 left elapsed m r rest headAt late =>
      have hd : r.delay ≤ (m.delays left (r :: rest)).sum := Message.delay_le_sum
      exact ⟨by dsimp only; omega, fun _ => rfl⟩
  | case3 _ _ _ _ _ _ _ hc =>
      simp only [Message.delays_broken (.inl hc), List.sum_cons, List.sum_nil]
      exact ⟨by omega, by omega⟩
  | case4 _ _ _ _ _ _ _ _ hg =>
      simp only [Message.delays_broken (.inr hg), List.sum_cons, List.sum_nil]
      exact ⟨by omega, by omega⟩
  | case5 _ _ _ _ _ _ hc hg _ hn =>
      simp only [Message.delays, hc, hg, hn, or_self, ↓reduceIte, List.sum_cons, List.sum_nil]
      exact ⟨by omega, by omega⟩
  | case6 _ _ _ _ _ _ hc hg _ hn _ hs x ih =>
      obtain ⟨hd, ho⟩ := ih (by omega)
      simp only [Message.delays, hc, hg, hn, hs, or_self, ↓reduceIte, List.sum_cons]
      exact ⟨by simp only [x, hd]; omega, fun hlt => ho (by omega)⟩
  | case7 _ _ _ _ _ _ hc hg _ hn _ hs =>
      simp only [Message.delays, hc, hg, hn, hs, or_self, ↓reduceIte, List.sum_cons, List.sum_nil,
        Bool.false_eq_true]
      exact ⟨by omega, by omega⟩
  | case8 _ _ _ _ _ _ _ hc hg hn =>
      simp only [Message.delays_read hc hg hn, List.sum_cons, List.sum_nil]
      exact ⟨by omega, fun _ => trivial⟩
  | case9 _ _ _ _ _ _ _ hc hg hn | case10 _ _ _ _ _ _ _ hc hg hn =>
      simp only [Message.delays_read hc hg hn, List.sum_cons, List.sum_nil]
      exact ⟨by omega, by omega⟩

/-- An attempt takes the time of its delays, up to the timeout. -/
theorem Client.exchange_takes (c : Client) (d : Dispatch) (link : Link) :
    let x := c.exchange d link
    let due := (c.delays d link).sum
    x.duration = min c.config.timeout due ∧
      (c.config.timeout < due → x.outcome = .error .timeout) := by
  unfold exchange delays
  cases c.message d with
  | error f => exact ⟨(Nat.min_zero _).symm, fun h => absurd h (Nat.not_lt_zero _)⟩
  | ok m =>
      cases link.route with
      | direct =>
          have h := converse_takes maxRedirects m link.replies (Nat.zero_le c.config.timeout)
          rwa [Nat.zero_add] at h
      | unreachable | refused =>
          exact ⟨(Nat.min_zero _).symm, fun h => absurd h (Nat.not_lt_zero _)⟩

/-! ## Journals -/

/-- The time that attempts take together. -/
def Attempt.total (attempts : List Attempt) : Nat :=
  (attempts.map (·.exchange.duration)).sum

/-- The delays before the retries that follow attempts like these. -/
def ClientConfig.pauses (config : ClientConfig) (retried : List Attempt) : Nat :=
  (retried.map fun a => config.backoff a.retryCount).sum

section

variable (config : ClientConfig) (call : Nat) (heard : Bool)

@[simp] theorem Attempt.total_nil : Attempt.total [] = 0 := rfl

@[simp] theorem Attempt.total_cons (a : Attempt) (as : List Attempt) :
    Attempt.total (a :: as) = a.exchange.duration + Attempt.total as := by
  simp [total]

@[simp] theorem Attempt.journal_elapsed (a : Attempt) :
    (a.journal call).elapsed = a.exchange.duration := rfl

@[simp] theorem Attempt.pause_elapsed (a : Attempt) :
    (a.pause config call).elapsed = config.backoff a.retryCount :=
  Nat.zero_add _

@[simp] theorem Journal.announcing_elapsed (es : List AuthEvent) :
    (announcing heard es).elapsed = 0 := rfl

theorem Recovery.journal_elapsed (v : Recovery) :
    (v.journal call heard).elapsed = Attempt.total v.attempts := by
  unfold journal sequel attempts
  split <;> simp [*]

theorem Course.ending_elapsed (course : Course) :
    (course.ending call heard).elapsed =
      Attempt.total ((course.recovery.map Recovery.attempts).getD []) := by
  unfold ending
  cases course.recovery with
  | none => simp
  | some v => simp [v.journal_elapsed]

/-- Only attempts and back-offs take time, and only an attempt that is retried is followed by a
back-off. -/
theorem Course.journal_elapsed (course : Course) :
    (course.journal config call heard).elapsed =
      Attempt.total course.attempts + config.pauses course.retried := by
  induction course using prependInduction with
  | start main recovery => simp [journal, attempts, ending_elapsed, ClientConfig.pauses]
  | prepend a course ih =>
      simp only [journal_prepend, Journal.append_elapsed, Attempt.journal_elapsed,
        Attempt.pause_elapsed, ih, prepend_attempts, Attempt.total_cons, prepend_retried,
        ClientConfig.pauses, List.map_cons, List.sum_cons]
      omega

end

/-! ## Sums -/

theorem Attempt.total_le {t : Nat} {as : List Attempt} (h : ∀ a ∈ as, a.exchange.duration ≤ t) :
    Attempt.total as ≤ as.length * t := by
  induction as with
  | nil => exact Nat.zero_le _
  | cons a as ih =>
      have ha := h a List.mem_cons_self
      have has := ih fun b hb => h b (List.mem_cons_of_mem a hb)
      simp only [total_cons, List.length_cons, Nat.succ_mul]
      omega

/-- Back-offs grow by the base delay, so those before the first `k` retries are bounded by a triangle
of it. -/
theorem ClientConfig.sum_backoff_le (config : ClientConfig) (k : Nat) :
    ((List.range k).map config.backoff).sum ≤ config.retryBaseDelay * k * (k + 1) / 2 := by
  rw [Nat.le_div_iff_mul_le Nat.two_pos]
  induction k with
  | zero => exact Nat.zero_le _
  | succ k ih =>
      have hb : config.backoff k ≤ config.retryBaseDelay * (k + 1) := Nat.min_le_left _ _
      rw [List.range_succ, List.map_append, List.sum_append]
      simp only [List.map_cons, List.map_nil, List.sum_cons, List.sum_nil]
      grind

theorem Client.Serves.exchange_at {c : Client} {link : Link} {before after : List Attempt}
    {a : Attempt} (h : c.Serves link (before ++ a :: after)) :
    a.exchange = c.exchange a.dispatch (before.foldl Link.after link) := by
  induction before generalizing link with
  | nil => exact h.1
  | cons b before ih => exact ih h.2

/-! ## Calls -/

namespace Client

/-- From any point of the main loop on, time passes with attempts and with the back-offs of those
that are retried. -/
theorem persist_elapsed (c : Client) (call left : Nat) (r : Request) (w : World) :
    let course := c.courseWith left r w.context w.link
    (c.persist call left r w).2.journal.elapsed =
      w.journal.elapsed + (Attempt.total course.attempts + c.config.pauses course.retried) := by
  rw [(c.courseWith_takes w.context left r w.link).persist_eq rfl rfl]
  simp [Course.play, Course.journal_elapsed]

theorem Takes.pauses_eq {c : Client} {context : Context} {left : Nat} {r : Request} {link : Link}
    {course : Course} (h : c.Takes context left r link course) (hr : r.retryCount = 0) :
    c.config.pauses course.retried =
      ((List.range course.retried.length).map c.config.backoff).sum := by
  have hc := h.retryCounts.1
  rw [hr, ← List.range_eq_range'] at hc
  rw [← hc, List.map_map]
  rfl

/-- Where the time of a call goes. It is the time of the attempts made and of one back-off for each
retry. An attempt takes as long as its delays add up to; if that is more than the timeout, it fails
for this reason after just that time. From the last main attempt on there is no back-off, so the time
of a call is bounded by its settings. -/
theorem run_time_accounted (c : Client) (method : Method) (endpoint : String) (body : Option Json)
    (w : World) :
    let r : Request := { method, endpoint, body }
    let course := c.course r w
    let j := (c.run r w).2.journal
    let timeout := c.config.timeout
    let base := c.config.retryBaseDelay
    let limit := c.config.maxRetries
    j.attempts = w.journal.attempts ++ course.attempts ∧
    j.backOffs = w.journal.backOffs + course.retried.length ∧
    j.elapsed = w.journal.elapsed + ((course.attempts.map (·.exchange.duration)).sum +
      ((List.range course.retried.length).map fun i => min (base * (i + 1)) longestDelay).sum) ∧
    (∀ before a after, course.attempts = before ++ a :: after →
      let due := (c.delays a.dispatch (before.foldl Link.after w.link)).sum
      a.exchange.duration ≤ timeout ∧ a.exchange.duration = min timeout due ∧
      (timeout < due → a.exchange.outcome = .error .timeout ∧ a.exchange.duration = timeout)) ∧
    (∀ call left r' w', (c.courseWith left r' w'.context w'.link).retried = [] →
      (c.persist call left r' w').2.journal.elapsed = w'.journal.elapsed +
        ((c.courseWith left r' w'.context w'.link).attempts.map (·.exchange.duration)).sum) ∧
    j.elapsed ≤ w.journal.elapsed + ((limit + 3) * timeout + base * limit * (limit + 1) / 2) := by
  intro r course j timeout base limit
  have h := c.course_takes r w
  have hp : c.config.pauses course.retried =
      ((List.range course.retried.length).map c.config.backoff).sum := h.pauses_eq rfl
  have hj : j.elapsed = w.journal.elapsed + (Attempt.total course.attempts +
      ((List.range course.retried.length).map c.config.backoff).sum) := by
    rw [← hp]
    exact c.persist_elapsed w.nextCall c.config.maxRetries r { w with nextCall := w.nextCall + 1 }
  have hd : ∀ before a after, course.attempts = before ++ a :: after →
      a.exchange = c.exchange a.dispatch (before.foldl Link.after w.link) := by
    intro before a after ha
    exact Serves.exchange_at (ha ▸ h.serves)
  refine ⟨c.run_attempts r w, c.run_backOffs r w, hj, ?_, ?_, ?_⟩
  · intro before a after ha due
    obtain ⟨ht, ho⟩ := c.exchange_takes a.dispatch (before.foldl Link.after w.link)
    rw [← hd before a after ha] at ht ho
    exact ⟨by omega, ht, fun hlt => ⟨ho hlt, by omega⟩⟩
  · intro call left r' w' hn
    rw [c.persist_elapsed, hn]
    rfl
  · have hdur : ∀ a ∈ course.attempts, a.exchange.duration ≤ timeout := by
      intro a ha
      obtain ⟨link', hx⟩ := h.serves.exchange_of_mem ha
      rw [hx, (c.exchange_takes a.dispatch link').1]
      exact Nat.min_le_left _ _
    have hattempts : Attempt.total course.attempts ≤ (limit + 3) * timeout :=
      Nat.le_trans (Attempt.total_le hdur) (Nat.mul_le_mul_right timeout h.length_attempts_le)
    have hk : course.retried.length ≤ limit := h.retried_length_le
    have hpauses : ((List.range course.retried.length).map c.config.backoff).sum ≤
        base * limit * (limit + 1) / 2 := by
      refine Nat.le_trans (c.config.sum_backoff_le _) (Nat.div_le_div_right ?_)
      exact Nat.mul_le_mul (Nat.mul_le_mul_left base hk) (Nat.succ_le_succ hk)
    omega

end Client

end CameraConsole
