import CameraConsole.Proofs.Opening
import CameraConsole.Proofs.TokenSlot

/-!
# Tokens that cannot be sent

The slot takes any text but the empty one, and a header does not. A token with a control character
keeps every request that would change something from being sent. So it is never rejected, and stays
until something else writes the slot.
-/

namespace CameraConsole

/-! ## Header values -/

/-- The text has a byte that no header value has: a control character other than a tab. -/
def Text.Unsendable (s : String) : Prop :=
  ∃ b ∈ Text.bytes s, (b.toNat < 0x20 ∧ b.toNat ≠ 9) ∨ b.toNat = 0x7F

instance Text.decidableUnsendable (s : String) : Decidable (Text.Unsendable s) :=
  inferInstanceAs (Decidable (∃ b ∈ Text.bytes s, _))

theorem headerValueAllowed_iff {s : String} : headerValueAllowed s ↔ ¬ Text.Unsendable s := by
  simp only [headerValueAllowed, List.all_eq_true, Bool.and_eq_true, Bool.or_eq_true,
    decide_eq_true_eq, ne_eq, Text.Unsendable, not_exists, not_and, not_or]
  constructor
  · intro h b hb
    obtain ⟨h1, h2⟩ := h b hb
    exact ⟨by omega, h2⟩
  · intro h b hb
    obtain ⟨h1, h2⟩ := h b hb
    exact ⟨by omega, h2⟩

/-! ## Calls -/

namespace Client

variable {c : Client} {context : Context} {left : Nat} {r : Request} {link : Link} {course : Course}
  {url : Url}

/-- A call whose first attempt gets no answer makes no other. -/
theorem Takes.eq_of_unanswered (h : c.Takes context left r link course) {f : Failure}
    (ho : (c.trial r context link).exchange.outcome = .error f) :
    course = ⟨[], c.trial r context link, none⟩ := by
  cases h with
  | forbidden ha hf =>
      rw [ha] at ho
      simp [Attempt.Forbidden, Attempt.status?_error ho] at hf
  | settled ha _ _ => rw [ha]
  | retry ha ht _ =>
      rw [ha] at ho
      obtain ⟨_, hst, _⟩ := ht
      simp [Attempt.status?_error ho] at hst

theorem exchange_unsent {d : Dispatch} (h : (c.exchange d link).sent = []) :
    ∃ f, (c.exchange d link).outcome = .error f := by
  rcases c.exchange_cases d link with ⟨fault, hx⟩ | ⟨m, _, hx⟩
  · exact ⟨_, by rw [hx]⟩
  · obtain ⟨rest, hs, _⟩ := converse_redirects c.config.timeout maxRedirects 0 m link.replies
    rw [hx, hs] at h
    cases h

/-- A call sends anything just when its first attempt does. -/
theorem Takes.sent_eq_nil_iff (h : c.Takes context left r link course) :
    course.attempts.flatMap (·.exchange.sent) = [] ↔
      (c.exchange (r.dispatch context) link).sent = [] := by
  constructor
  · intro hs
    have hfirst : c.trial r context link ∈ course.attempts := by
      cases h with
      | forbidden ha _ | settled ha _ _ | retry ha _ _ => rw [ha]; exact List.mem_cons_self
    exact List.flatMap_eq_nil_iff.mp hs _ hfirst
  · intro hs
    obtain ⟨f, ho⟩ := exchange_unsent hs
    rw [h.eq_of_unanswered ho]
    simpa [Course.attempts, trial] using hs

theorem sent_ne_nil_iff {d : Dispatch} (hu : c.resolve d.endpoint = .ok url) (hh : url.isHttp) :
    (c.exchange d link).sent ≠ [] ↔
      link.route = .direct ∧ url.hostIsPlain ∧ ∀ token ∈ d.token, ¬ Text.Unsendable token := by
  rw [ne_eq, ← List.head?_eq_none_iff, ← ne_eq, Option.ne_none_iff_exists']
  simp only [head?_exchange_iff, message_eq_ok_iff, hu, Except.ok.injEq, exists_eq_left', hh,
    true_and, exists_and_left, exists_eq', and_true, Option.all_eq_true, headerValueAllowed_iff,
    Option.mem_def]
  exact and_congr_right fun _ => and_comm

/-- A mutating request with an unsendable token ends at once, with nothing sent. -/
theorem course_of_unsendable (hm : r.method.mutating) {token : String}
    (hs : Text.Unsendable token) {w : World} (ht : w.context.token = some token) :
    (c.exchange (r.dispatch w.context) w.link).sent = [] ∧
      c.course r w = ⟨[], c.trial r w.context w.link, none⟩ ∧
      ∀ url, c.resolve r.endpoint = .ok url →
        (c.course r w).result = .error (.network .badHeaderValue) := by
  have htoken : (r.dispatch w.context).token = some token := by
    simp only [Request.dispatch, Context.tokenFor, hm, ht, ↓reduceIte]
  have hbad : ¬ headerValueAllowed token := fun h => headerValueAllowed_iff.mp h hs
  have hsent : (c.exchange (r.dispatch w.context) w.link).sent = [] := by
    rw [← List.head?_eq_none_iff, Option.eq_none_iff_forall_ne_some]
    intro m hx
    obtain ⟨_, _, hall, _⟩ := message_eq_ok_iff.mp (head?_exchange_iff.mp hx).2
    rw [htoken] at hall
    exact hbad hall
  obtain ⟨f, ho⟩ := exchange_unsent hsent
  have hcourse : c.course r w = ⟨[], c.trial r w.context w.link, none⟩ :=
    (c.course_takes r w).eq_of_unanswered ho
  refine ⟨hsent, hcourse, fun url hu => ?_⟩
  have hmessage : c.message (r.dispatch w.context) = .error (.network .badHeaderValue) := by
    rw [message_of_resolve (d := r.dispatch w.context) hu, htoken, Option.all_some, if_neg hbad]
  rw [hcourse]
  simp only [Course.result, Attempt.result, trial, exchange, hmessage]

end Client

/-! ## Sessions -/

theorem Follows.eq_error {α : Type} {f : Failure} {y : Except Failure α}
    (h : Follows (.error f) y) : y = .error f := by
  cases h; rfl

theorem SlotPath.eq_of_nil {slot final : Option String} (h : SlotPath slot [] final) :
    final = slot := by
  cases h; rfl

/-- The action may write the slot by other means than the recovery of a call. -/
def Action.WritesToken : Action → Prop
  | setToken _ | invalidateToken | operate _ .config => True
  | _ => False

namespace Session

variable {a : Action} {c : Client} {r : Request} {token : String} {w : World}

theorem step_unsendable (h : a.call? = some (c, r)) (hm : r.method.mutating)
    (hs : Text.Unsendable token) (ht : w.context.token = some token) :
    (step a w).1.journal.sent = [] ∧
      ∀ url, c.resolve r.endpoint = .ok url →
        (step a w).1.result = .error (.network .badHeaderValue) := by
  obtain ⟨hsent, hcourse, hresult⟩ := c.course_of_unsendable hm hs ht
  refine ⟨?_, fun url hu => ?_⟩
  · rw [step_sent h, (c.course_takes r w).sent_eq_nil_iff]
    exact hsent
  · have hf := step_follows h w
    rw [hresult url hu] at hf
    exact hf.eq_error

theorem step_keeps_unsendable (hn : ¬ a.WritesToken) (hs : Text.Unsendable token)
    (ht : w.context.token = some token) : (step a w).2.context.token = some token := by
  cases h : a.call? with
  | some call =>
      obtain ⟨c, r⟩ := call
      have hconfig : ∀ c, a ≠ .operate c .config := by
        rintro c rfl
        exact hn trivial
      -- The main attempt is not forbidden: it changes nothing, or it was not answered.
      have hallowed : ¬ (c.course r w).main.Forbidden := by
        intro hf
        have hm : r.method.mutating := by
          rw [← (c.course_takes r w).main_asks.1]
          exact hf.2
        obtain ⟨hsent, hcourse, _⟩ := c.course_of_unsendable hm hs ht
        obtain ⟨f, ho⟩ := Client.exchange_unsent hsent
        rw [hcourse] at hf
        have hnone : (c.trial r w.context w.link).status? = none := Attempt.status?_error ho
        simp [Attempt.Forbidden, hnone] at hf
      exact ((step_token_cases h hconfig w).1 hallowed).trans ht
  | none =>
      have hpath := a.slotPath w.freshJournal
      have hevents : a.tokenEvents w.freshJournal = [] := by
        cases a with
        | setToken _ | invalidateToken => exact absurd trivial hn
        | call _ _ | callAs _ _ _ | operate _ _ => cases h
        | _ => rfl
      rw [hevents] at hpath
      exact hpath.eq_of_nil.trans ht

/-- An unsendable token stays until an action writes the slot, and until then no mutating request is
sent. -/
theorem run_unsendable (hs : Text.Unsendable token) {actions : List Action}
    (hn : ∀ a ∈ actions, ¬ a.WritesToken) (ht : w.context.token = some token) :
    (run actions w).2.context.token = some token ∧
      ∀ p ∈ actions.zip (run actions w).1, ∀ c r url, p.1.call? = some (c, r) →
        r.method.mutating → c.resolve r.endpoint = .ok url →
        p.2.journal.sent = [] ∧ p.2.result = .error (.network .badHeaderValue) := by
  induction actions generalizing w with
  | nil => exact ⟨ht, fun _ hp => nomatch hp⟩
  | cons a actions ih =>
      have hstep := step_keeps_unsendable (hn a List.mem_cons_self) hs ht
      obtain ⟨hlast, hrest⟩ := ih (fun b hb => hn b (List.mem_cons_of_mem a hb)) hstep
      refine ⟨hlast, fun p hp c r url h hm hu => ?_⟩
      rcases List.mem_cons.mp hp with rfl | hp
      · obtain ⟨hsent, hresult⟩ := step_unsendable h hm hs ht
        exact ⟨hsent, hresult url hu⟩
      · exact hrest p hp c r url h hm hu

/-- When the daemon can be reached, a mutating request is sent unless the slot holds a token that
cannot be. Then this and every later one fails unsent, and no call replaces the token: it stays until
an action writes the slot. -/
theorem mutating_call_sends_iff (w : World) :
    (∀ a c r url, a.call? = some (c, r) → r.method.mutating → c.resolve r.endpoint = .ok url →
      url.isHttp →
      ((step a w).1.journal.sent ≠ [] ↔ w.link.route = .direct ∧ url.hostIsPlain ∧
        ∀ token, w.context.token = some token → ¬ Text.Unsendable token)) ∧
    ∀ token, w.context.token = some token → Text.Unsendable token →
      ∀ actions : List Action, (∀ a ∈ actions, ¬ a.WritesToken) →
        (run actions w).2.context.token = some token ∧
        ∀ p ∈ actions.zip (run actions w).1, ∀ c r url, p.1.call? = some (c, r) →
          r.method.mutating → c.resolve r.endpoint = .ok url →
          p.2.journal.sent = [] ∧ p.2.result = .error (.network .badHeaderValue) := by
  refine ⟨fun a c r url h hm hu hh => ?_, fun token ht hs actions hn => run_unsendable hs hn ht⟩
  rw [step_sent h, ne_eq, (c.course_takes r w).sent_eq_nil_iff]
  have htoken : (r.dispatch w.context).token = w.context.token := by
    simp only [Request.dispatch, Context.tokenFor, hm, ↓reduceIte]
  rw [← htoken]
  exact Client.sent_ne_nil_iff (d := r.dispatch w.context) hu hh

/-- A daemon whose configuration has a token with a line break. -/
def brokenToken : World :=
  .ofLink ⟨.direct, [{ body := Text.bytes "\x7b\"csrf_token\":\"abc\\n\"\x7d" }, {}]⟩

theorem line_break_blocks_deletion :
    let c := Client.onLocalhost
    let r := Client.remove (.picture 1 7)
    let w := (run [.operate c .config] brokenToken).2
    let url := { c.base with path := .nested ["1", "api", "media", "picture", "7"] }
    w.context.token = some "abc\n" ∧ w.link.route = .direct ∧
      c.resolve r.endpoint = .ok url ∧ url.isHttp ∧ url.hostIsPlain ∧
      (step (.call c r) w).1.journal.sent = [] ∧
      (run [.call c r, .operate c .cameras, .call c r] w).2.context.token = some "abc\n" := by
  intro c r w url
  have ht : w.context.token = some "abc\n" := by decide +kernel
  have hs : Text.Unsendable "abc\n" := by decide
  have hu : c.resolve r.endpoint = .ok url := by decide +kernel
  obtain ⟨sends, stays⟩ := mutating_call_sends_iff w
  have hsent := (not_congr (sends (.call c r) c r url rfl rfl hu rfl)).mpr fun h => h.2.2 _ ht hs
  refine ⟨ht, by decide +kernel, hu, rfl, by decide +kernel, Decidable.not_not.mp hsent, ?_⟩
  refine (stays _ ht hs [.call c r, .operate c .cameras, .call c r] ?_).1
  simp [Action.WritesToken]

end Session

end CameraConsole
