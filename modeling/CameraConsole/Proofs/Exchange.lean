import CameraConsole.Http.Exchange
import CameraConsole.Proofs.Outcomes

/-!
# What an exchange sends, and how it fails

Every message of an attempt carries the token that the attempt was given, redirects included. An
attempt without an answer timed out or failed on the way.
-/

namespace CameraConsole

/-! ## Failures in transport -/

/-- A failure of the transport: no answer came, whatever the reason. -/
def Failure.InTransport (f : Failure) : Prop :=
  f = .timeout ∨ ∃ fault, f = .network fault

/-! ## Messages -/

theorem Client.resolve_error {c : Client} {endpoint : String} {f : Failure}
    (h : c.resolve endpoint = .error f) : ∃ fault, f = .network fault := by
  unfold resolve at h
  split at h
  · cases h
  · cases h; exact ⟨_, rfl⟩

/-- The first message of an exchange goes to the endpoint, whose user moves to a header, and carries
the token; or it cannot be written. -/
theorem Client.message_cases (c : Client) (d : Dispatch) :
    (∃ url m, c.resolve d.endpoint = .ok url ∧ c.message d = .ok m ∧
      (m.url = url ∨ m.url = url.withoutUser) ∧ m.headers.csrfToken = d.token.toList) ∨
      ∃ fault, c.message d = .error (.network fault) := by
  unfold message
  cases hu : c.resolve d.endpoint with
  | error f =>
      obtain ⟨fault, rfl⟩ := resolve_error hu
      exact Or.inr ⟨fault, rfl⟩
  | ok url =>
      have hb : (if url.user?.isSome = true then url.withoutUser else url) = url ∨
          (if url.user?.isSome = true then url.withoutUser else url) = url.withoutUser := by
        split
        · exact Or.inr rfl
        · exact Or.inl rfl
      simp only [bind, Except.bind]
      generalize (if url.user?.isSome = true then url.withoutUser else url) = bare at hb ⊢
      split
      · exact Or.inr ⟨_, rfl⟩
      split
      · exact Or.inr ⟨_, rfl⟩
      split
      · exact Or.inr ⟨_, rfl⟩
      · exact Or.inl ⟨url, _, rfl, rfl, hb, rfl⟩

/-- An exchange fails before anything is sent, or it sends its message and follows redirects. -/
theorem Client.exchange_cases (c : Client) (d : Dispatch) (link : Link) :
    (∃ fault, c.exchange d link = ⟨.error (.network fault), [], 0, link.replies⟩) ∨
      ∃ m, c.message d = .ok m ∧
        c.exchange d link = converse c.config.timeout maxRedirects 0 m link.replies := by
  unfold exchange
  rcases c.message_cases d with ⟨_, m, _, hm, _⟩ | ⟨fault, hm⟩
  · rw [hm]
    cases link.route with
    | direct => exact Or.inr ⟨m, rfl, rfl⟩
    | unreachable => exact Or.inl ⟨_, rfl⟩
    | refused => exact Or.inl ⟨_, rfl⟩
  · rw [hm]
    exact Or.inl ⟨fault, rfl⟩

theorem Message.repeated?_csrfToken {m next : Message} {status : Nat}
    (h : m.repeated? status = some next) : next.headers.csrfToken = m.headers.csrfToken := by
  unfold repeated? at h
  split at h
  · cases h; rfl
  split at h
  · cases h; rfl
  · cases h

/-- A redirect changes neither the token nor whether there is one. -/
theorem Message.redirected?_csrfToken {m next : Message} {r : Reply}
    (h : m.redirected? r = some next) : next.headers.csrfToken = m.headers.csrfToken := by
  simp only [redirected?, Option.bind_eq_bind, Option.bind_eq_some_iff, Option.some.injEq] at h
  obtain ⟨base, hb, _, _, url, _, rfl⟩ := h
  rw [← repeated?_csrfToken hb]
  split <;> rfl

theorem converse_csrfToken (timeout left elapsed : Nat) (m : Message) (replies : List Reply) :
    ∀ m' ∈ (converse timeout left elapsed m replies).sent,
      m'.headers.csrfToken = m.headers.csrfToken := by
  fun_induction converse timeout left elapsed m replies with
  | case6 elapsed m r rest headAt _ _ _ next hn left _ x ih =>
      intro m' hm
      rcases List.mem_cons.mp hm with rfl | hm
      · rfl
      · rw [ih m' hm, m.redirected?_csrfToken hn]
  | _ => simp

theorem Client.exchange_csrfToken {c : Client} {d : Dispatch} {link : Link} {m : Message}
    (h : m ∈ (c.exchange d link).sent) : m.headers.csrfToken = d.token.toList := by
  rcases c.exchange_cases d link with ⟨_, hx⟩ | ⟨m₀, hm, hx⟩
  · rw [hx] at h
    cases h
  · rw [hx] at h
    rcases c.message_cases d with ⟨_, _, _, hm', _, ht⟩ | ⟨_, hm'⟩
    · cases hm.symm.trans hm'
      rw [converse_csrfToken _ _ _ _ _ _ h, ht]
    · cases hm.symm.trans hm'

/-- A redirect of a read is a read. -/
theorem Message.redirected?_get {m next : Message} {r : Reply} (h : m.redirected? r = some next)
    (hm : m.method = .get) : next.method = .get := by
  simp only [redirected?, Option.bind_eq_bind, Option.bind_eq_some_iff, Option.some.injEq] at h
  obtain ⟨base, hb, _, _, url, _, rfl⟩ := h
  show base.method = .get
  unfold repeated? at hb
  split at hb
  · cases hb; rfl
  split at hb
  · cases hb; exact hm
  · cases hb

theorem converse_get (timeout left elapsed : Nat) {m : Message} (replies : List Reply)
    (h : m.method = .get) : ∀ m' ∈ (converse timeout left elapsed m replies).sent,
      m'.method = .get := by
  fun_induction converse timeout left elapsed m replies with
  | case6 elapsed m r rest headAt _ _ _ next hn left _ x ih =>
      intro m' hm
      rcases List.mem_cons.mp hm with rfl | hm
      · exact h
      · exact ih (m.redirected?_get hn h) m' hm
  | _ => simpa using h

theorem Client.message_method {c : Client} {d : Dispatch} {m : Message} (h : c.message d = .ok m) :
    m.method = d.method := by
  unfold message at h
  simp only [bind, Except.bind] at h
  repeat' split at h
  all_goals cases h
  all_goals rfl

/-- An attempt to read sends nothing but reads. -/
theorem Client.exchange_get {c : Client} {d : Dispatch} {link : Link} (h : d.method = .get) :
    ∀ m ∈ (c.exchange d link).sent, m.method = .get := by
  rcases c.exchange_cases d link with ⟨_, hx⟩ | ⟨m₀, hm, hx⟩
  · simp [hx]
  · rw [hx]
    exact converse_get _ _ _ _ ((message_method hm).trans h)

theorem converse_inTransport {timeout left elapsed : Nat} {m : Message} {replies : List Reply}
    {f : Failure} (h : (converse timeout left elapsed m replies).outcome = .error f) :
    f.InTransport := by
  fun_induction converse timeout left elapsed m replies with
  | case2 | case8 => cases h; exact Or.inl rfl
  | case6 elapsed m r rest headAt _ _ _ next hn left _ x ih => exact ih h
  | case10 => cases h
  | _ => cases h; exact Or.inr ⟨_, rfl⟩

theorem Client.exchange_inTransport {c : Client} {d : Dispatch} {link : Link} {f : Failure}
    (h : (c.exchange d link).outcome = .error f) : f.InTransport := by
  rcases c.exchange_cases d link with ⟨_, hx⟩ | ⟨_, _, hx⟩
  · rw [hx] at h
    cases h
    exact Or.inr ⟨_, rfl⟩
  · rw [hx] at h
    exact converse_inTransport h

theorem converse_timeout {timeout left elapsed : Nat} {m : Message} {replies : List Reply}
    (h : (converse timeout left elapsed m replies).outcome = .error .timeout) :
    (converse timeout left elapsed m replies).duration = timeout := by
  fun_induction converse timeout left elapsed m replies with
  | case2 | case8 => rfl
  | case6 elapsed m r rest headAt _ _ _ next hn left _ x ih => exact ih h
  | _ => cases h

/-- An attempt that times out takes just as long as it may. -/
theorem Client.exchange_timeout {c : Client} {d : Dispatch} {link : Link}
    (h : (c.exchange d link).outcome = .error .timeout) :
    (c.exchange d link).duration = c.config.timeout := by
  rcases c.exchange_cases d link with ⟨_, hx⟩ | ⟨_, _, hx⟩
  · rw [hx] at h
    cases h
  · rw [hx] at h ⊢
    exact converse_timeout h

end CameraConsole
