import CameraConsole.Proofs.Call
import CameraConsole.Proofs.Exchange

/-!
# Masked passwords

A mask covers passwords and what is derived from them: the password of credentials, and the values of
authorization headers. What a call does to a masked world is, under the mask, what it does to the
world; and its result is the same.
-/

namespace CameraConsole

/-! ## Masks -/

def Credentials.masked (k : Credentials) : Credentials :=
  { k with password := "" }

def Context.masked (context : Context) : Context :=
  { context with credentials := context.credentials.map Credentials.masked }

def Dispatch.masked (d : Dispatch) : Dispatch :=
  { d with credentials := d.credentials.map Credentials.masked }

/-- The values of the authorization are covered; how many there are still shows. -/
def Message.masked (m : Message) : Message :=
  { m with headers := { m.headers with authorization := m.headers.authorization.map fun _ => "" } }

def Exchange.masked (x : Exchange) : Exchange :=
  { x with sent := x.sent.map Message.masked }

def Attempt.masked (a : Attempt) : Attempt :=
  { a with dispatch := a.dispatch.masked, exchange := a.exchange.masked }

def Recovery.masked (v : Recovery) : Recovery :=
  { fetch := v.fetch.masked, replay := v.replay.map Attempt.masked }

def Course.masked (course : Course) : Course :=
  { retried := course.retried.map Attempt.masked, main := course.main.masked,
    recovery := course.recovery.map Recovery.masked }

def Journal.masked (j : Journal) : Journal :=
  { j with attempts := j.attempts.map Attempt.masked, sent := j.sent.map Message.masked }

theorem Credentials.masked_masked (k : Credentials) : k.masked.masked = k.masked := rfl

theorem Dispatch.masked_masked (d : Dispatch) : d.masked.masked = d.masked := by
  unfold masked
  cases d.credentials <;> rfl

/-! ## Messages -/

theorem Message.masked_repeated? (m : Message) (status : Nat) :
    m.masked.repeated? status = (m.repeated? status).map masked := by
  unfold repeated?
  split
  · rfl
  · split <;> rfl

theorem Message.masked_redirected? (m : Message) (r : Reply) :
    m.masked.redirected? r = (m.redirected? r).map masked := by
  have hurl : m.masked.url = m.url := rfl
  simp only [redirected?, masked_repeated?, hurl, Option.bind_eq_bind]
  cases m.repeated? r.status with
  | none => rfl
  | some next =>
      simp only [Option.map_some, Option.bind_some]
      cases r.location with
      | none => rfl
      | some location =>
          simp only [Option.bind_some]
          cases (m.url.join location).toOption.filter Url.hostIsPlain with
          | none => rfl
          | some url =>
              simp only [Option.bind_some, Option.map_some, Option.some.injEq]
              by_cases hs : m.url.sameServer url <;> simp [masked, hs]

/-- Redirects are followed without a look at the authorization. -/
theorem converse_masked (timeout left elapsed : Nat) (m : Message) (replies : List Reply) :
    converse timeout left elapsed m.masked replies =
      (converse timeout left elapsed m replies).masked := by
  induction replies generalizing left elapsed m with
  | nil =>
      unfold converse
      rfl
  | cons r rest ih =>
      have hurl : m.masked.url = m.url := rfl
      unfold converse
      simp only [Message.masked_redirected?, hurl]
      split
      · rfl
      split
      · rfl
      split
      · rfl
      cases hn : m.redirected? r with
      | none =>
          simp only [Option.map_none]
          split
          · rfl
          split <;> rfl
      | some next =>
          have hnext : next.masked.url = next.url := rfl
          simp only [Option.map_some, hnext]
          cases left with
          | zero => rfl
          | succ left =>
              dsimp only
              split
              · rw [ih]
                rfl
              · rfl

theorem Client.message_masked (c : Client) (d : Dispatch) :
    (c.message d.masked).map Message.masked = (c.message d).map Message.masked := by
  unfold message
  simp only [Dispatch.masked]
  cases c.resolve d.endpoint with
  | error f => rfl
  | ok url =>
      simp only [bind, Except.bind]
      generalize (if url.user?.isSome = true then url.withoutUser else url) = bare
      by_cases h1 : (!d.token.all headerValueAllowed) = true
      · simp only [h1, ↓reduceIte]
      by_cases h2 : (!bare.isHttp) = true
      · simp only [h1, h2, ↓reduceIte]
      by_cases h3 : (!bare.hostIsPlain) = true
      · simp only [h1, h2, h3, ↓reduceIte]
      · simp only [h1, h2, h3, Bool.false_eq_true, ↓reduceIte]
        cases d.credentials with
        | none => rfl
        | some k =>
            simp only [Except.map, Message.masked, Option.map_some, Option.toList_some,
              List.map_append, List.map_cons, List.map_nil]
            rfl

theorem Client.exchange_masked (c : Client) (d : Dispatch) (link : Link) :
    (c.exchange d.masked link).masked = (c.exchange d link).masked := by
  have h := c.message_masked d
  unfold exchange
  cases hm : c.message d with
  | error f =>
      rw [hm] at h
      cases hm' : c.message d.masked with
      | error g => rw [hm'] at h; cases h; rfl
      | ok m' => rw [hm'] at h; cases h
  | ok m =>
      rw [hm] at h
      cases hm' : c.message d.masked with
      | error g => rw [hm'] at h; cases h
      | ok m' =>
          rw [hm'] at h
          have hmask : m'.masked = m.masked := Except.ok.inj h
          have hurl : m'.url = m.url := show m'.masked.url = m.masked.url by rw [hmask]
          cases link.route with
          | direct =>
              dsimp only
              rw [← converse_masked, hmask, converse_masked]
          | unreachable => simp only [hurl]
          | refused => simp only [hurl]

/-! ## Attempts -/

namespace Attempt

variable {a b : Attempt}

/-! All that a call looks at shows under the mask. -/

theorem granted?_of_masked (h : a.masked = b.masked) : a.granted? = b.granted? :=
  show a.masked.granted? = b.masked.granted? by rw [h]

theorem forbidden_of_masked (h : a.masked = b.masked) : a.Forbidden ↔ b.Forbidden :=
  show a.masked.Forbidden ↔ b.masked.Forbidden by rw [h]

theorem transient_of_masked (h : a.masked = b.masked) (statuses : List Nat) :
    a.Transient statuses ↔ b.Transient statuses :=
  show a.masked.Transient statuses ↔ b.masked.Transient statuses by rw [h]

end Attempt

theorem Link.after_of_masked {a b : Attempt} (h : a.masked = b.masked) (link : Link) :
    link.after a = link.after b :=
  show link.after a.masked = link.after b.masked by rw [h]

/-! ## Courses -/

namespace Course

variable (course : Course)

theorem masked_result : course.masked.result = course.result := by
  unfold result masked
  cases course.recovery with
  | none => rfl
  | some v => cases v with | mk fetch replay => cases replay <;> rfl

theorem masked_events : course.masked.events = course.events := by
  unfold events masked
  cases course.recovery with
  | none => rfl
  | some v => cases v with | mk fetch replay => cases replay <;> rfl

theorem masked_last : course.masked.last = course.last.masked := by
  unfold last masked
  cases course.recovery with
  | none => rfl
  | some v => cases v with | mk fetch replay => cases replay <;> rfl

theorem masked_context (context : Context) :
    course.masked.context context.masked = (course.context context).masked := by
  have ht : course.masked.token context.token = course.token context.token := by
    unfold token masked
    cases course.recovery <;> rfl
  simp only [Course.context, masked_events]
  exact congrArg (fun t : Option String =>
    ({ token := t, credentials := context.credentials.map Credentials.masked,
       channel := course.events.foldl Channel.publish context.channel } : Context)) ht

theorem masked_prepend (a : Attempt) : (course.prepend a).masked = course.masked.prepend a.masked :=
  rfl

end Course

namespace Client

variable (c : Client) (r : Request) (context : Context)

theorem trial_masked (link : Link) :
    (c.trial r context.masked link).masked = (c.trial r context link).masked := by
  have hd : r.dispatch context.masked = (r.dispatch context).masked := rfl
  simp only [trial, Attempt.masked, hd, c.exchange_masked, Dispatch.masked_masked]

theorem recovery_masked (link : Link) :
    (c.recovery r context.masked link).masked = (c.recovery r context link).masked := by
  have hf := c.trial_masked (.get Resource.config.endpoint) context.invalidateToken link
  simp only [recovery, Recovery.masked, Option.map_map, Recovery.mk.injEq]
  refine ⟨hf, ?_⟩
  have hg := Attempt.granted?_of_masked hf
  have hl := Link.after_of_masked hf link
  -- The replay carries the token that the fetch brought, in the same context but for passwords.
  have hr (token : String) (link' : Link) :
      (c.trial r (context.masked.setToken token) link').masked =
        (c.trial r (context.setToken token) link').masked :=
    c.trial_masked r (context.setToken token) link'
  rw [show context.masked.invalidateToken = context.invalidateToken.masked from rfl, hg, hl]
  simp only [Function.comp_def, hr]

/-- Which course a call takes does not depend on passwords. -/
theorem courseWith_masked (left : Nat) (link : Link) :
    (c.courseWith left r context.masked link).masked = (c.courseWith left r context link).masked := by
  induction left generalizing r link with
  | zero =>
      have hm := c.trial_masked r context link
      unfold courseWith
      simp only [Attempt.forbidden_of_masked hm, Link.after_of_masked hm]
      split
      · simp only [Course.masked, hm, c.recovery_masked, Option.map_some]
      · simp only [Course.masked, hm]
  | succ left ih =>
      have hm := c.trial_masked r context link
      unfold courseWith
      simp only [Attempt.forbidden_of_masked hm, Attempt.transient_of_masked hm,
        Link.after_of_masked hm]
      split
      · simp only [Course.masked, hm, c.recovery_masked, Option.map_some]
      · split
        · simp only [Course.masked_prepend, hm, ih]
        · simp only [Course.masked, hm]

end Client

/-! ## Journals -/

theorem Journal.masked_append (j k : Journal) : (j ++ k).masked = j.masked ++ k.masked := by
  apply ext_fields <;> simp [masked]

theorem Recovery.masked_sequel (call : Nat) (heard : Bool) (v : Recovery) :
    v.masked.sequel call heard = (v.sequel call heard).masked := by
  obtain ⟨fetch, replay⟩ := v
  unfold sequel
  cases replay with
  | some a => simp only [masked, Option.map_some, Journal.masked_append]; rfl
  | none =>
      have hf : fetch.masked.freshToken = fetch.freshToken := rfl
      simp only [masked, Option.map_none, hf]
      cases fetch.freshToken <;> rfl

theorem Recovery.masked_journal (call : Nat) (heard : Bool) (v : Recovery) :
    v.masked.journal call heard = (v.journal call heard).masked := by
  simp only [journal, Journal.masked_append, masked_sequel]
  rfl

theorem Course.masked_ending (call : Nat) (heard : Bool) (course : Course) :
    course.masked.ending call heard = (course.ending call heard).masked := by
  unfold ending
  cases hv : course.recovery with
  | none => simp only [masked, hv, Option.map_none, Journal.masked_append]; rfl
  | some v =>
      simp only [masked, hv, Option.map_some, v.masked_journal, Journal.masked_append]
      rfl

theorem Course.masked_journal (config : ClientConfig) (call : Nat) (heard : Bool) (course : Course) :
    course.masked.journal config call heard = (course.journal config call heard).masked := by
  induction course using prependInduction with
  | start main recovery =>
      refine Eq.trans ?_ (Journal.masked_append _ _).symm
      exact congrArg (main.masked.journal call ++ ·) (masked_ending call heard ⟨[], main, recovery⟩)
  | prepend a course ih =>
      rw [masked_prepend, journal_prepend, journal_prepend, ih, Journal.masked_append,
        Journal.masked_append]
      rfl

/-! ## Worlds -/

/-- The worlds differ only in what a mask covers. -/
structure World.Alike (w w' : World) : Prop where
  context : w.context.masked = w'.context.masked
  link : w.link = w'.link
  nextCall : w.nextCall = w'.nextCall
  journal : w.journal.masked = w'.journal.masked

namespace World.Alike

variable {w w' : World}

theorem channel (h : w.Alike w') : w.context.channel = w'.context.channel :=
  show w.context.masked.channel = w'.context.masked.channel by rw [h.context]

theorem advance (h : w.Alike w') {context context' : Context} {replies : List Reply}
    {j j' : Journal} (hc : context.masked = context'.masked) (hj : j.masked = j'.masked) :
    (w.advance context replies j).Alike (w'.advance context' replies j') where
  context := hc
  link := by rw [World.advance_link, World.advance_link, h.link]
  nextCall := h.nextCall
  journal := by
    simp only [World.advance_journal, Journal.masked_append]
    rw [h.journal, hj]

end World.Alike

/-! ## Calls -/

/-- Two ways to go on give the same, and leave worlds that are alike. -/
def Agree {α : Type} (x y : α × World) : Prop :=
  x.1 = y.1 ∧ x.2.Alike y.2

namespace Client

variable {w w' : World}

theorem course_alike (c : Client) (r : Request) (h : w.Alike w') :
    (c.course r w).masked = (c.course r w').masked := by
  unfold course
  rw [← c.courseWith_masked, h.context, h.link, c.courseWith_masked]

theorem run_agree (c : Client) (r : Request) (h : w.Alike w') : Agree (c.run r w) (c.run r w') := by
  have hc := c.course_alike r h
  have hr : (c.course r w).result = (c.course r w').result := by
    rw [← Course.masked_result, hc, Course.masked_result]
  have hx : ((c.course r w).context w.context).masked =
      ((c.course r w').context w'.context).masked := by
    rw [← Course.masked_context, hc, h.context, Course.masked_context]
  have hl : (c.course r w).last.exchange.replies = (c.course r w').last.exchange.replies := by
    show (c.course r w).last.masked.exchange.replies = (c.course r w').last.masked.exchange.replies
    rw [← Course.masked_last, hc, Course.masked_last]
  have hj : ((c.course r w).journal c.config w.nextCall w.context.channel.heard).masked =
      ((c.course r w').journal c.config w'.nextCall w'.context.channel.heard).masked := by
    rw [← Course.masked_journal, hc, h.nextCall, h.channel, Course.masked_journal]
  have hw : World.Alike { w with nextCall := w.nextCall + 1 }
      { w' with nextCall := w'.nextCall + 1 } :=
    ⟨h.context, h.link, congrArg (· + 1) h.nextCall, h.journal⟩
  simp only [Agree, run_eq, Course.play]
  rw [hl]
  exact ⟨hr, hw.advance hx hj⟩

end Client

end CameraConsole
