import CameraConsole.Proofs.Actions
import CameraConsole.Proofs.Attempts
import CameraConsole.Proofs.Resolution

/-!
# What other servers learn

Operations, logins and calls of resources ask the server of their client's base. A redirect can lead
them elsewhere: the authorization stays behind then, the token does not.
-/

namespace CameraConsole

/-! ## Servers -/

namespace Url

theorem sameServer_iff {u v : Url} : u.sameServer v ↔ u.host? = v.host? ∧ u.port? = v.port? := by
  simp [sameServer]

theorem sameServer_symm {u v : Url} (h : u.sameServer v) : v.sameServer u := by
  rw [sameServer_iff] at h ⊢
  exact ⟨h.1.symm, h.2.symm⟩

theorem sameServer_trans {u v t : Url} (h : u.sameServer v) (h' : v.sameServer t) :
    u.sameServer t := by
  rw [sameServer_iff] at h h' ⊢
  exact ⟨h.1.trans h'.1, h.2.trans h'.2⟩

theorem Beside.sameServer {u v : Url} (h : u.Beside v) : u.sameServer v :=
  sameServer_iff.mpr h.sameOrigin.2

theorem sameServer_withoutUser (u : Url) : u.withoutUser.sameServer u := by
  refine sameServer_iff.mpr ?_
  unfold withoutUser host? port?
  cases u.authority <;> exact ⟨rfl, rfl⟩

end Url

/-! ## Redirects -/

/-- The messages that follow `m` one after the other, each by a redirect of the one before it. -/
inductive Redirects : Message → List Message → Prop where
  | nil (m : Message) : Redirects m []
  | cons {m next : Message} {rest : List Message} (reply : Reply)
      (redirected : m.redirected? reply = some next) (following : Redirects next rest) :
      Redirects m (next :: rest)

theorem converse_redirects (timeout left elapsed : Nat) (m : Message) (replies : List Reply) :
    ∃ rest, (converse timeout left elapsed m replies).sent = m :: rest ∧ Redirects m rest := by
  fun_induction converse timeout left elapsed m replies with
  | case6 elapsed m r _ _ _ _ _ next hn _ _ x ih =>
      obtain ⟨rest, hs, hr⟩ := ih
      exact ⟨next :: rest, congrArg _ hs, .cons r hn hr⟩
  | _ => exact ⟨[], rfl, .nil _⟩

/-- The second message has no authorization, or the same as the first and for the same server. -/
def Message.Entrusts (m m' : Message) : Prop :=
  m'.headers.authorization = [] ∨
    (m'.headers.authorization = m.headers.authorization ∧ m'.url.sameServer m.url)

namespace Message

theorem Entrusts.trans {m m' m'' : Message} (h : m.Entrusts m') (h' : m'.Entrusts m'') :
    m.Entrusts m'' := by
  rcases h' with h' | ⟨ha', hs'⟩
  · exact Or.inl h'
  · rcases h with h | ⟨ha, hs⟩
    · exact Or.inl (ha'.trans h)
    · exact Or.inr ⟨ha'.trans ha, Url.sameServer_trans hs' hs⟩

theorem repeated?_authorization {m next : Message} {status : Nat}
    (h : m.repeated? status = some next) :
    next.headers.authorization = m.headers.authorization := by
  unfold repeated? at h
  split at h
  · cases h; rfl
  split at h
  · cases h; rfl
  · cases h

theorem redirected?_entrusts {m next : Message} {r : Reply} (h : m.redirected? r = some next) :
    m.Entrusts next := by
  simp only [redirected?, Option.bind_eq_bind, Option.bind_eq_some_iff, Option.some.injEq] at h
  obtain ⟨base, hb, _, _, url, _, rfl⟩ := h
  by_cases hs : m.url.sameServer url
  · refine Or.inr ⟨?_, Url.sameServer_symm hs⟩
    simp only [hs, ↓reduceIte, repeated?_authorization hb]
  · refine Or.inl ?_
    simp only [hs, Bool.false_eq_true, ↓reduceIte]

end Message

theorem Redirects.entrusts {m : Message} {rest : List Message} (h : Redirects m rest) :
    ∀ m' ∈ rest, m.Entrusts m' := by
  induction h with
  | nil m =>
      intro m' hm
      cases hm
  | cons reply hr _ ih =>
      have hn := Message.redirected?_entrusts hr
      intro m' hm
      rcases List.mem_cons.mp hm with rfl | hm
      · exact hn
      · exact hn.trans (ih m' hm)

/-! ## Attempts -/

/-- An attempt that gives nothing away but its token: what it sends to another server than that of
the client follows a redirect, has no authorization, and has a token only when the attempt was to
change something and had this token from the start. -/
def Attempt.Discreet (c : Client) (a : Attempt) : Prop :=
  ∀ m ∈ a.exchange.sent, ¬ m.url.sameServer c.base →
    m.headers.authorization = [] ∧
    (m.headers.csrfToken ≠ [] → a.dispatch.method.mutating) ∧
    ∃ first rest, a.exchange.sent = first :: rest ∧ Redirects first rest ∧ m ∈ rest ∧
      first.url.sameServer c.base ∧ m.headers.csrfToken = first.headers.csrfToken

/-- The attempt asks for a resource, and has a token only to change something. -/
def Dispatch.Official (d : Dispatch) : Prop :=
  (∃ x : Resource, d.endpoint = x.endpoint) ∧ (d.token.isSome → d.method.mutating)

namespace Client

theorem message_home {c : Client} {d : Dispatch} {m : Message} {x : Resource}
    (hx : d.endpoint = x.endpoint) (h : c.message d = .ok m) : m.url.sameServer c.base := by
  rcases c.message_cases d with ⟨url, m', hu, hm, hb, _⟩ | ⟨_, hm⟩
  · cases h.symm.trans hm
    rw [hx] at hu
    have home := (resolve_resource hu).sameServer
    rcases hb with hb | hb <;> rw [hb]
    · exact home
    · exact Url.sameServer_trans url.sameServer_withoutUser home
  · cases h.symm.trans hm

theorem discreet_of_official {c : Client} {a : Attempt} (hd : a.dispatch.Official)
    (hx : ∃ link, a.exchange = c.exchange a.dispatch link) : a.Discreet c := by
  obtain ⟨⟨x, hendpoint⟩, htoken⟩ := hd
  obtain ⟨link, hx⟩ := hx
  intro m hm away
  have token {m : Message} (hm : m ∈ a.exchange.sent) :
      m.headers.csrfToken = a.dispatch.token.toList := exchange_csrfToken (hx ▸ hm)
  rcases c.exchange_cases a.dispatch link with ⟨_, he⟩ | ⟨first, hf, he⟩
  · rw [hx, he] at hm
    cases hm
  · have home := message_home hendpoint hf
    obtain ⟨rest, hs, hr⟩ :=
      converse_redirects c.config.timeout maxRedirects 0 first link.replies
    have hsent : a.exchange.sent = first :: rest := by rw [hx, he, hs]
    have hrest : m ∈ rest := by
      rcases List.mem_cons.mp (hsent ▸ hm) with rfl | hm
      · exact absurd home away
      · exact hm
    refine ⟨?_, ?_, first, rest, hsent, hr, hrest, home, ?_⟩
    · rcases hr.entrusts m hrest with ha | ⟨_, hsame⟩
      · exact ha
      · exact absurd (Url.sameServer_trans hsame home) away
    · intro hne
      refine htoken ?_
      rw [token hm] at hne
      cases ht : a.dispatch.token with
      | none => rw [ht] at hne; exact absurd rfl hne
      | some _ => rfl
    · rw [token hm, token (hsent ▸ List.mem_cons_self)]

end Client

theorem Request.official_dispatch {r : Request} {x : Resource} (hx : r.endpoint = x.endpoint)
    (context : Context) : (r.dispatch context).Official := by
  refine ⟨⟨x, hx⟩, fun ht => ?_⟩
  simp only [dispatch, Context.tokenFor] at ht
  split at ht
  · assumption
  · cases ht

theorem Credentials.official_dispatch (k : Credentials) : k.dispatch.Official :=
  ⟨⟨.authentication, rfl⟩, nofun⟩

/-- An attempt of a call asks for its request, or for the configuration in a recovery, with the
credentials that the call began with. -/
theorem Client.Takes.dispatch_of_mem {c : Client} {context : Context} {left : Nat} {r : Request}
    {link : Link} {course : Course} (h : c.Takes context left r link course) {a : Attempt}
    (ha : a ∈ course.attempts) :
    ∃ context', context'.credentials = context.credentials ∧
      (a.dispatch = r.dispatch context' ∨
        a.dispatch = (Request.get Resource.config.endpoint).dispatch context') := by
  rcases List.mem_append.mp ha with ha | ha
  · exact ⟨context, rfl, Or.inl (h.retried_transient a ha).1⟩
  rcases List.mem_cons.mp ha with rfl | ha
  · exact ⟨context, rfl, Or.inl h.main_dispatch⟩
  rcases h.recovery_cases with ⟨_, v, hv, hr⟩ | ⟨_, hn⟩
  · rw [hv] at ha
    rcases List.mem_cons.mp ha with rfl | ha
    · exact ⟨context.invalidateToken, rfl, Or.inr hr.fetch_dispatch⟩
    · cases hg : v.fetch.granted? with
      | none => rw [hr.replay_eq_none hg] at ha; cases ha
      | some token =>
          obtain ⟨b, hb, hd⟩ := hr.replay_eq_some hg
          rw [hb] at ha
          cases List.mem_singleton.mp ha
          exact ⟨context.setToken token, rfl, Or.inl hd⟩
  · rw [hn] at ha
    cases ha

theorem Client.course_discreet {r : Request} {x : Resource} (hx : r.endpoint = x.endpoint)
    (c : Client) (w : World) : ∀ a ∈ (c.course r w).attempts, a.Discreet c := by
  intro a ha
  have h := c.course_takes r w
  refine discreet_of_official ?_ (h.serves.exchange_of_mem ha)
  obtain ⟨context, _, hd | hd⟩ := h.dispatch_of_mem ha
  · rw [hd]
    exact Request.official_dispatch hx context
  · rw [hd]
    exact Request.official_dispatch (x := .config) rfl context

/-! ## Actions -/

namespace Action

def client? : Action → Option Client
  | call c _ | callAs c _ _ | dispatch c _ | operate c _ | login c _ | describeClient c => some c
  | _ => none

/-- Operations, logins and what concerns the context, and calls of resources. -/
def Official : Action → Prop
  | call _ r | callAs _ _ r => ∃ x : Resource, r.endpoint = x.endpoint
  | dispatch _ _ => False
  | _ => True

end Action

def Operation.resource : Operation → Resource
  | config => .config
  | cameras => .cameras
  | temperature => .temperature
  | systemStatus => .systemStatus
  | authStatus => .authentication
  | pictures cam => .pictures cam
  | movies cam => .movies cam
  | setParameter cam param value => .setting cam param value
  | patchConfig cam _ => .cameraConfig cam
  | deletePicture cam id => .picture cam id
  | deleteMovie cam id => .movie cam id
  | reboot => .reboot
  | shutdown => .shutdown

theorem Operation.request_endpoint (o : Operation) : o.request.endpoint = o.resource.endpoint := by
  cases o <;> rfl

theorem Action.Official.endpoint {a : Action} {c : Client} {r : Request} (h : a.Official)
    (hc : a.call? = some (c, r)) : ∃ x : Resource, r.endpoint = x.endpoint := by
  cases a with
  | call _ _ | callAs _ _ _ => cases hc; exact h
  | operate _ o => cases hc; exact ⟨o.resource, o.request_endpoint⟩
  | _ => cases hc

theorem Action.client?_of_call? {a : Action} {c : Client} {r : Request}
    (hc : a.call? = some (c, r)) : a.client? = some c := by
  cases a with
  | call _ _ | callAs _ _ _ | operate _ _ => cases hc; rfl
  | _ => cases hc

/-- The step of an action that sent just what its attempts sent, each of them discreet. -/
def Step.Discreet (a : Action) (s : Step) : Prop :=
  s.journal.sent = s.journal.attempts.flatMap (·.exchange.sent) ∧
    ∀ t ∈ s.journal.attempts, ∃ c, a.client? = some c ∧ t.Discreet c

namespace Session

theorem step_sent {a : Action} {c : Client} {r : Request} (h : a.call? = some (c, r)) (w : World) :
    (step a w).1.journal.sent = (c.course r w).attempts.flatMap (·.exchange.sent) := by
  simp only [step, Action.run_world h, World.keep_journal, c.run_sent]
  rfl

theorem step_discreet {a : Action} (h : a.Official) (w : World) : (step a w).1.Discreet a := by
  cases hc : a.call? with
  | some call =>
      obtain ⟨c, r⟩ := call
      obtain ⟨x, hx⟩ := h.endpoint hc
      unfold Step.Discreet
      rw [step_sent hc, step_attempts hc]
      exact ⟨rfl, fun t ht => ⟨c, Action.client?_of_call? hc, c.course_discreet hx w t ht⟩⟩
  | none =>
      cases a with
      | call _ _ | callAs _ _ _ | operate _ _ => cases hc
      | dispatch _ _ => exact absurd h id
      | login c k =>
          simp only [Step.Discreet, step, Action.run, Action.map, c.login_sent, c.login_attempts]
          refine ⟨by simp [World.freshJournal], fun t ht => ⟨c, rfl, ?_⟩⟩
          cases List.mem_singleton.mp ht
          exact Client.discreet_of_official k.official_dispatch ⟨_, rfl⟩
      | _ => simp [Step.Discreet, step, Action.run, World.adjust, World.freshJournal]

/-- In a session of operations, logins and calls of resources, a request to another server than that
of its client never has an authorization. It may have the token, but only after a redirect of an
attempt to change something, which had this token when it asked the client's own server. -/
theorem run_discreet (actions : List Action) (h : ∀ a ∈ actions, a.Official) (w : World) :
    (run actions w).1.length = actions.length ∧
      ∀ p ∈ actions.zip (run actions w).1, p.2.Discreet p.1 := by
  induction actions generalizing w with
  | nil => simp [run]
  | cons a actions ih =>
      obtain ⟨hl, hd⟩ := ih (fun b hb => h b (List.mem_cons_of_mem a hb)) (step a w).2
      simp only [run, List.length_cons, hl, List.zip_cons_cons, true_and]
      intro p hp
      rcases List.mem_cons.mp hp with rfl | hp
      · exact step_discreet (h a List.mem_cons_self) w
      · exact hd p hp

/-- A deletion with credentials and a token. -/
def deletion : List Action :=
  [.setCredentials ⟨"admin", "secret"⟩, .setToken "abc",
    .operate Client.onLocalhost (.deletePicture 1 7)]

/-- A daemon that redirects the first request to another server. -/
def redirecting : World :=
  .ofLink ⟨.direct, [{ status := 307, location := some "http://other.test/x" }, {}]⟩

theorem deletion_official : ∀ a ∈ deletion, a.Official := by
  simp [deletion, Action.Official]

theorem run_discreet_redirected :
    (∀ a ∈ deletion, a.Official) ∧
      (∃ s ∈ (run deletion redirecting).1, ∃ m ∈ s.journal.sent,
        ¬ m.url.sameServer Client.onLocalhost.base ∧ m.headers.authorization = []) ∧
      ∀ p ∈ deletion.zip (run deletion redirecting).1, p.2.Discreet p.1 :=
  ⟨deletion_official, by decide +kernel, (run_discreet _ deletion_official redirecting).2⟩

/-- A redirect takes the token to another server. -/
theorem redirect_takes_token_along :
    (∀ a ∈ deletion, a.Official) ∧
      ∃ s ∈ (run deletion redirecting).1, ∃ m ∈ s.journal.sent,
        ¬ m.url.sameServer Client.onLocalhost.base ∧ m.headers.csrfToken = ["abc"] :=
  ⟨deletion_official, by decide +kernel⟩

end Session

end CameraConsole
