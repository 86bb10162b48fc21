import CameraConsole.Proofs.Disclosure
import CameraConsole.Proofs.Encodings
import CameraConsole.Proofs.Results

/-!
# The first message of an attempt

What an attempt sends first is determined by its client, its request and the context of that moment:
verb, place, body, token and authorization. Within a call only the token can differ between two
attempts at the request.
-/

namespace CameraConsole

/-! ## Users in URLs -/

namespace Url

/-- The user that a URL names, decoded. The name has to be a text, and a password that is none counts
as absent. -/
def Names (u : Url) (name : String) (password : Option String) : Prop :=
  ∃ a, u.authority = some a ∧ Text.bytes name = Text.percentDecode a.username.toList ∧
    (∀ s, password = some s ↔ ∃ p ∈ a.password, Text.bytes s = Text.percentDecode p.toList) ∧
    (name ≠ "" ∨ password ≠ none)

theorem user?_eq_some_iff {u : Url} {name : String} {password : Option String} :
    u.user? = some (name, password) ↔ u.Names name password := by
  unfold user? Names
  cases u.authority with
  | none => simp
  | some a =>
      have hpw (s : String) :
          (a.password.bind fun p => Text.fromUtf8? (Text.percentDecode p.toList)) = some s ↔
            ∃ p ∈ a.password, Text.bytes s = Text.percentDecode p.toList := by
        simp only [Option.bind_eq_some_iff, Text.fromUtf8?_eq_some_iff, Option.mem_def]
      simp only [Option.bind_eq_bind, Option.bind_some, Option.bind_eq_some_iff,
        Text.fromUtf8?_eq_some_iff, Option.some.injEq, exists_eq_left']
      constructor
      · rintro ⟨username, hu, h⟩
        split at h
        · cases h
        · rename_i hne
          cases h
          refine ⟨hu, hpw, ?_⟩
          exact Decidable.not_and_iff_not_or_not.mp hne
      · rintro ⟨hn, hp, hne⟩
        have he := Option.ext fun s => (hpw s).trans (hp s).symm
        rw [he]
        refine ⟨name, hn, if_neg ?_⟩
        exact Decidable.not_and_iff_not_or_not.mpr hne

/-- The URL as it is sent: without the user that it names. -/
def bare (u : Url) : Url :=
  if u.user?.isSome then u.withoutUser else u

@[simp] theorem isHttp_bare (u : Url) : u.bare.isHttp = u.isHttp := by
  unfold bare
  split <;> rfl

@[simp] theorem hostIsPlain_bare (u : Url) : u.bare.hostIsPlain = u.hostIsPlain := by
  unfold bare
  split
  · unfold hostIsPlain host? withoutUser
    cases u.authority <;> rfl
  · rfl

end Url

/-! ## Bodies -/

theorem Decimal.text_ne_nil (d : Decimal) : d.text ≠ [] := by
  unfold text
  dsimp only
  split
  · split <;> simp
  · split <;> simp

theorem Number.text_ne_nil (n : Number) : n.text ≠ [] := by
  cases n with
  | int i =>
      show intText i ≠ []
      unfold intText
      split
      · simp
      · exact Nat.toDigits_ne_nil
  | real d =>
      have hd := d.shortest.text_ne_nil
      show d.text ≠ []
      unfold Double.text
      dsimp only
      split
      · simp
      · split
        · simp
        · exact hd

theorem Json.chars_ne_nil (v : Json) : v.chars ≠ [] := by
  cases v with
  | null => simp [chars, scalarChars]
  | bool b => cases b <;> simp [chars, scalarChars]
  | number n => simpa [chars, scalarChars] using n.text_ne_nil
  | text s => simp [chars, scalarChars, textChars]
  | list items => cases items <;> simp [chars]
  | object members =>
      cases members with
      | nil => simp [chars]
      | cons m rest => simp [chars]

theorem bodyText_ne_empty (v : Json) : bodyText v ≠ "" := by
  intro h
  have hc : v.ordered.chars = [] := by
    simpa [bodyText, Json.render] using congrArg String.toList h
  exact v.ordered.chars_ne_nil hc

/-! ## Messages -/

/-- The message of a dispatch to this URL. -/
def Dispatch.messageTo (d : Dispatch) (url : Url) : Message where
  method := d.method
  url := url.bare
  headers := {
    accept := ["application/json"]
    contentType := if d.body.isSome then ["application/json"] else []
    csrfToken := d.token.toList
    authorization :=
      (url.user?.map fun (name, password) => basicAuthorization name (password.getD "")).toList ++
        (d.credentials.map Credentials.authorization).toList }
  body := (d.body.map bodyText).getD ""

namespace Client

variable {c : Client} {d : Dispatch} {url : Url} {m : Message} {link : Link}

/-- Once the place is known, three things can keep a message from being written: the token, the
scheme and the host. -/
theorem message_of_resolve (hu : c.resolve d.endpoint = .ok url) :
    c.message d =
      if d.token.all headerValueAllowed then
        if url.isHttp then
          if url.hostIsPlain then .ok (d.messageTo url)
          else .error (.network (.badHost url.bare.text))
        else .error (.network (.badScheme url.bare.text))
      else .error (.network .badHeaderValue) := by
  unfold message
  rw [hu]
  simp only [bind, Except.bind]
  change (if (!d.token.all headerValueAllowed) = true then _ else
    if (!url.bare.isHttp) = true then _ else if (!url.bare.hostIsPlain) = true then _ else _) = _
  rw [Url.isHttp_bare, Url.hostIsPlain_bare]
  by_cases h1 : d.token.all headerValueAllowed
  · by_cases h2 : url.isHttp
    · by_cases h3 : url.hostIsPlain
      · simp only [h1, h2, h3, Bool.not_true, Bool.false_eq_true, ↓reduceIte]
        rfl
      · simp only [h1, h2, h3, Bool.not_true, Bool.not_false, Bool.false_eq_true, ↓reduceIte]
        rfl
    · simp only [h1, h2, Bool.not_true, Bool.not_false, Bool.false_eq_true, ↓reduceIte]
      rfl
  · simp only [h1, Bool.not_false, Bool.false_eq_true, ↓reduceIte]

theorem message_eq_ok_iff :
    c.message d = .ok m ↔ ∃ url, c.resolve d.endpoint = .ok url ∧
      d.token.all headerValueAllowed ∧ url.isHttp ∧ url.hostIsPlain ∧ d.messageTo url = m := by
  cases hu : c.resolve d.endpoint with
  | error f =>
      have hm : c.message d = .error f := by
        unfold message
        rw [hu]
        rfl
      simp [hm]
  | ok url =>
      rw [message_of_resolve hu]
      by_cases h1 : d.token.all headerValueAllowed
      · by_cases h2 : url.isHttp
        · by_cases h3 : url.hostIsPlain <;> simp [h1, h2, h3]
        · simp [h1, h2]
      · simp [h1]

/-- An attempt sends its message first, when it can be written and there is a way to the daemon. -/
theorem head?_exchange_iff :
    (c.exchange d link).sent.head? = some m ↔ link.route = .direct ∧ c.message d = .ok m := by
  unfold exchange
  cases c.message d with
  | error f => simp
  | ok first =>
      cases link.route with
      | direct =>
          obtain ⟨rest, hs, _⟩ :=
            converse_redirects c.config.timeout maxRedirects 0 first link.replies
          simp [hs]
      | unreachable => simp
      | refused => simp

end Client

/-! ## Openings -/

/-- The message goes to this URL. The user that it names is no part of the place, but comes first in
the authorization; the credentials come after it. -/
def Message.Addresses (m : Message) (url : Url) (credentials : Option Credentials) : Prop :=
  (∃ name password, url.Names name password ∧ m.url = url.withoutUser ∧
    m.headers.authorization = basicAuthorization name (password.getD "") ::
      (credentials.map Credentials.authorization).toList) ∨
  ((∀ name password, ¬ url.Names name password) ∧ m.url = url ∧
    m.headers.authorization = (credentials.map Credentials.authorization).toList)

/-- What the first message of an attempt at `r` says, when a client makes it in this context. -/
structure Message.Opens (c : Client) (r : Request) (context : Context) (m : Message) : Prop where
  method : m.method = r.method
  place : ∃ url, c.resolve r.endpoint = .ok url ∧ m.Addresses url context.credentials
  accept : m.headers.accept = ["application/json"]
  contentType : m.headers.contentType = if r.body.isSome then ["application/json"] else []
  body : m.body = (r.body.map bodyText).getD ""
  bodyless : m.body = "" ↔ r.body = none
  token : m.headers.csrfToken = if r.method.mutating then context.token.toList else []

def Message.withoutToken (m : Message) : Message :=
  { m with headers := { m.headers with csrfToken := [] } }

theorem Dispatch.messageTo_addresses (d : Dispatch) (url : Url) :
    (d.messageTo url).Addresses url d.credentials := by
  cases hu : url.user? with
  | none =>
      refine Or.inr ⟨fun name password hn => ?_, ?_, ?_⟩
      · rw [← Url.user?_eq_some_iff, hu] at hn
        cases hn
      · simp [messageTo, Url.bare, hu]
      · simp [messageTo, hu]
  | some user =>
      obtain ⟨name, password⟩ := user
      refine Or.inl ⟨name, password, Url.user?_eq_some_iff.mp hu, ?_, ?_⟩
      · simp [messageTo, Url.bare, hu]
      · simp [messageTo, hu]

namespace Request

variable {c : Client} {r : Request} {context : Context} {url : Url}

theorem messageTo_opens (hu : c.resolve r.endpoint = .ok url) :
    ((r.dispatch context).messageTo url).Opens c r context where
  method := rfl
  place := ⟨url, hu, (r.dispatch context).messageTo_addresses url⟩
  accept := rfl
  contentType := rfl
  body := rfl
  bodyless := by
    cases hb : r.body with
    | none => simp [Dispatch.messageTo, dispatch, hb]
    | some v => simp [Dispatch.messageTo, dispatch, hb, bodyText_ne_empty]
  token := by
    simp only [Dispatch.messageTo, dispatch, Context.tokenFor]
    split <;> rfl

end Request

namespace Message

variable {m m' : Message} {c : Client} {r : Request} {context context' : Context}

theorem Addresses.unique {url : Url} {credentials : Option Credentials}
    (h : m.Addresses url credentials) (h' : m'.Addresses url credentials) :
    m.url = m'.url ∧ m.headers.authorization = m'.headers.authorization := by
  rcases h with ⟨name, password, hn, hu, ha⟩ | ⟨hn, hu, ha⟩
  · rcases h' with ⟨name', password', hn', hu', ha'⟩ | ⟨hn', _, _⟩
    · have he := (Url.user?_eq_some_iff.mpr hn).symm.trans (Url.user?_eq_some_iff.mpr hn')
      cases he
      exact ⟨hu.trans hu'.symm, ha.trans ha'.symm⟩
    · exact absurd hn (hn' name password)
  · rcases h' with ⟨name', password', hn', _, _⟩ | ⟨_, hu', ha'⟩
    · exact absurd hn' (hn name' password')
    · exact ⟨hu.trans hu'.symm, ha.trans ha'.symm⟩

/-- Contexts with the same credentials lead to the same message, but for the token. -/
theorem Opens.withoutToken_eq (h : m.Opens c r context) (h' : m'.Opens c r context')
    (hk : context.credentials = context'.credentials) : m.withoutToken = m'.withoutToken := by
  obtain ⟨url, hu, ha⟩ := h.place
  obtain ⟨url', hu', ha'⟩ := h'.place
  cases hu.symm.trans hu'
  obtain ⟨hurl, hauth⟩ := ha.unique (hk ▸ ha')
  obtain ⟨method, _, ⟨accept, contentType, csrfToken, authorization⟩, body⟩ := m
  obtain ⟨method', _, ⟨accept', contentType', csrfToken', authorization'⟩, body'⟩ := m'
  cases hurl
  cases hauth
  cases h.method.trans h'.method.symm
  cases h.accept.trans h'.accept.symm
  cases h.contentType.trans h'.contentType.symm
  cases h.body.trans h'.body.symm
  rfl

/-- Nothing else than client, request and context decides what a first message says. -/
theorem Opens.unique (h : m.Opens c r context) (h' : m'.Opens c r context) : m = m' := by
  have he := h.withoutToken_eq h' rfl
  have ht := h.token.trans h'.token.symm
  obtain ⟨method, url, ⟨accept, contentType, csrfToken, authorization⟩, body⟩ := m
  obtain ⟨method', url', ⟨accept', contentType', csrfToken', authorization'⟩, body'⟩ := m'
  cases ht
  cases he
  rfl

end Message

/-! ## Attempts -/

/-- If the attempt sent anything, its first message is that of a client at `r` in this context. -/
def Attempt.Opens (c : Client) (r : Request) (context : Context) (a : Attempt) : Prop :=
  ∀ m ∈ a.exchange.sent.head?, m.Opens c r context

theorem Attempt.dispatch_of_asks {a : Attempt} {r r' : Request} {context : Context} (h : a.Asks r)
    (hd : a.dispatch = r'.dispatch context) : a.dispatch = r.dispatch context := by
  obtain ⟨hm, he, hb⟩ := h
  rw [hd] at hm he hb ⊢
  simp only [Request.dispatch] at hm he hb ⊢
  rw [hm, he, hb]

namespace Client

variable {c : Client} {r : Request} {context : Context} {left : Nat} {link : Link} {course : Course}

theorem opens_of_dispatch {a : Attempt} (hx : ∃ link, a.exchange = c.exchange a.dispatch link)
    (hd : a.dispatch = r.dispatch context) : a.Opens c r context := by
  obtain ⟨link, hx⟩ := hx
  intro m hm
  rw [hx, hd, Option.mem_def, head?_exchange_iff, message_eq_ok_iff] at hm
  obtain ⟨_, url, hu, _, _, _, rfl⟩ := hm
  exact Request.messageTo_opens hu

/-- What an attempt opens with is decided by the context of the world that it is made in. -/
theorem attempt_opens (c : Client) (call : Nat) (r : Request) (w : World) :
    ∃ a, (c.attempt call r w).2.journal.attempts = w.journal.attempts ++ [a] ∧
      a.Opens c r w.context := by
  refine ⟨c.trial r w.context w.link, ?_, opens_of_dispatch ⟨_, rfl⟩ rfl⟩
  rw [attempt_eq]
  rfl

namespace Takes

theorem opens (h : c.Takes context left r link course) :
    ∀ a ∈ course.retried ++ [course.main], a.Opens c r context := by
  intro a ha
  have hx : a ∈ course.attempts := by
    simp only [Course.attempts, List.mem_append, List.mem_cons, List.not_mem_nil, or_false] at ha ⊢
    exact ha.imp_right Or.inl
  refine opens_of_dispatch (h.serves.exchange_of_mem hx) ?_
  rcases List.mem_append.mp ha with ha | ha
  · exact (h.retried_transient a ha).1
  · cases List.mem_singleton.mp ha
    exact h.main_dispatch

/-- The fetch of a recovery opens without a token, and the replay with the one that it brought. -/
theorem recovery_opens (h : c.Takes context left r link course) {v : Recovery}
    (hv : course.recovery = some v) :
    v.fetch.Opens c (.get Resource.config.endpoint) context.invalidateToken ∧
      (∀ m ∈ v.fetch.exchange.sent.head?, m.headers.csrfToken = []) ∧
      ∀ a ∈ v.replay, ∃ token, v.fetch.Grants token ∧ a.Opens c r (context.setToken token) ∧
        ∀ m ∈ a.exchange.sent.head?, m.headers.csrfToken = [token] := by
  obtain ⟨hf, hr⟩ := h.regular hv
  have hx {a : Attempt} (ha : a ∈ v.attempts) := h.serves.exchange_of_mem (a := a)
    (by simp [Course.attempts, hv, ha])
  have hfetch := opens_of_dispatch (hx List.mem_cons_self) hr.fetch_dispatch
  refine ⟨hfetch, fun m hm => (hfetch m hm).token, fun a ha => ?_⟩
  cases hg : v.fetch.granted? with
  | none => rw [hr.replay_eq_none hg] at ha; cases ha
  | some token =>
      obtain ⟨b, hb, hd⟩ := hr.replay_eq_some hg
      cases ha.symm.trans hb
      have hreplay := opens_of_dispatch (hx (by simp [Recovery.attempts, hb])) hd
      refine ⟨token, Attempt.granted?_eq_some_iff_grants.mp hg, hreplay, fun m hm => ?_⟩
      have hmut : r.method.mutating := h.main_asks.1 ▸ hf.2
      have hne := Attempt.granted?_ne_empty hg
      simpa [hmut, Context.setToken, hne] using (hreplay m hm).token

/-- Attempts at the request open alike within a call, but for the token. -/
theorem openings_alike (h : c.Takes context left r link course) {a a' : Attempt}
    (ha : a ∈ course.attempts) (ha' : a' ∈ course.attempts) (hr : a.Asks r) (hr' : a'.Asks r) :
    ∀ m ∈ a.exchange.sent.head?, ∀ m' ∈ a'.exchange.sent.head?,
      m.withoutToken = m'.withoutToken := by
  have opening {a : Attempt} (ha : a ∈ course.attempts) (hr : a.Asks r) :
      ∃ context', context'.credentials = context.credentials ∧ a.Opens c r context' := by
    obtain ⟨context', hk, hd⟩ := h.dispatch_of_mem ha
    refine ⟨context', hk, opens_of_dispatch (h.serves.exchange_of_mem ha) ?_⟩
    exact hd.elim id (Attempt.dispatch_of_asks hr)
  intro m hm m' hm'
  obtain ⟨_, hk, ho⟩ := opening ha hr
  obtain ⟨_, hk', ho'⟩ := opening ha' hr'
  exact (ho m hm).withoutToken_eq (ho' m' hm') (hk.trans hk'.symm)

end Takes

end Client

/-! ## Sessions -/

theorem basicAuthorization_decodes (name password : String) :
    ∃ code, basicAuthorization name password = "Basic " ++ code ∧
      Text.base64Bytes? code.toList = some (Text.bytes (name ++ ":" ++ password)) := by
  refine ⟨_, rfl, ?_⟩
  rw [Text.base64, String.toList_ofList, Text.base64Bytes?_base64Chars]

namespace Session

/-- Every attempt that sends anything opens with the one message that its client, its request and the
context of that moment decide. In the call of an action this is the context that the call began in;
for the fetch of a recovery it is without the token, and for the replay with the one just fetched. So
two attempts at the request differ at most in the token. A login opens with the credentials that are
tried. The values of the authorization are those of the `Basic` scheme. -/
theorem openings_determined (w : World) :
    (∀ c call r, ∃ t, (c.attempt call r w).2.journal.attempts = w.journal.attempts ++ [t] ∧
      t.Opens c r w.context) ∧
    (∀ (c : Client) (r : Request) (context : Context) (m m' : Message),
      m.Opens c r context → m'.Opens c r context → m = m') ∧
    (∀ a c r, a.call? = some (c, r) →
      (step a w).1.journal.attempts = (c.course r w).attempts ∧
      (∀ t ∈ (c.course r w).retried ++ [(c.course r w).main], t.Opens c r w.context) ∧
      (∀ v ∈ (c.course r w).recovery,
        v.fetch.Opens c (.get Resource.config.endpoint) w.context.invalidateToken ∧
        (∀ m ∈ v.fetch.exchange.sent.head?, m.headers.csrfToken = []) ∧
        ∀ t ∈ v.replay, ∃ token, v.fetch.Grants token ∧ t.Opens c r (w.context.setToken token) ∧
          ∀ m ∈ t.exchange.sent.head?, m.headers.csrfToken = [token]) ∧
      ∀ t ∈ (c.course r w).attempts, ∀ t' ∈ (c.course r w).attempts, t.Asks r → t'.Asks r →
        ∀ m ∈ t.exchange.sent.head?, ∀ m' ∈ t'.exchange.sent.head?,
          m.withoutToken = m'.withoutToken) ∧
    (∀ c k, ∃ t, (step (.login c k) w).1.journal.attempts = [t] ∧
      t.Opens c (.get Resource.authentication.endpoint) (w.context.setCredentials k)) ∧
    ∀ name password, ∃ code, basicAuthorization name password = "Basic " ++ code ∧
      Text.base64Bytes? code.toList = some (Text.bytes (name ++ ":" ++ password)) := by
  refine ⟨fun c call r => c.attempt_opens call r w, fun c r context m m' h h' => h.unique h',
    fun a c r h => ?_, fun c k => ?_, basicAuthorization_decodes⟩
  · have ht := c.course_takes r w
    exact ⟨step_attempts h w, ht.opens, fun v hv => ht.recovery_opens hv,
      fun t hm t' hm' => ht.openings_alike hm hm'⟩
  · refine ⟨_, c.login_attempts k w.freshJournal, Client.opens_of_dispatch ⟨_, rfl⟩ ?_⟩
    rfl

/-- A client whose base URL names a user. -/
def guest : Client :=
  { Client.onLocalhost with
    base := { Client.onLocalhost.base with
      authority := some
        { username := "guest", password := some "pw", host := "localhost", port := some 8080 } } }

/-- A stale token and credentials, and a daemon that forbids one request and has a fresh token. -/
def stale : World :=
  { context := { token := some "old", credentials := some ⟨"admin", "secret"⟩, channel := .empty }
    link := ⟨.direct, [{ status := 403 },
      { body := Text.bytes "\x7b\"csrf_token\":\"abc\"\x7d" }, {}]⟩ }

theorem openings_determined_refreshed :
    let r := Client.remove (.picture 1 7)
    let authorization := ["Basic Z3Vlc3Q6cHc=", "Basic YWRtaW46c2VjcmV0"]
    (Action.call guest r).call? = some (guest, r) ∧
      ((step (.call guest r) stale).1.journal.sent.map fun m =>
          (m.method, m.url.text, m.headers.csrfToken, m.headers.authorization)) =
        [(.delete, "http://localhost:8080/1/api/media/picture/7", ["old"], authorization),
          (.get, "http://localhost:8080/0/api/config", [], authorization),
          (.delete, "http://localhost:8080/1/api/media/picture/7", ["abc"], authorization)] ∧
      ∀ t ∈ (guest.course r stale).retried ++ [(guest.course r stale).main],
        t.Opens guest r stale.context := by
  intro r authorization
  obtain ⟨_, _, calls, _⟩ := openings_determined stale
  exact ⟨rfl, by decide +kernel, (calls (.call guest r) guest r rfl).2.1⟩

/-- A user name that is no text when it is decoded gives no authorization. -/
theorem undecodable_user_is_left_out :
    let config : ClientConfig := { baseUrl := "http://%FF@localhost:8080" }
    ∃ c ∈ (Client.ofConfig config).toOption,
      ((c.resolve Resource.cameras.endpoint).toOption.bind Url.authority).map Authority.username =
        some "%FF" ∧
      ((step (.operate c .cameras) (.ofLink ⟨.direct, [{}]⟩)).1.journal.sent.map fun m =>
        (m.method, m.headers.authorization)) = [(.get, [])] := by
  decide +kernel

end Session

end CameraConsole
