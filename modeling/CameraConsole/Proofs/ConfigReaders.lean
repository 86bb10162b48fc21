import CameraConsole.Proofs.Members
import CameraConsole.Proofs.TokenSlot

/-!
# Two readers of the configuration

The token of a configuration is taken from the bare body by the recovery of a call, and from the
decoded payload by the operation that fetches the configuration. On an object both take the same.
-/

namespace CameraConsole

/-! ## Bodies -/

/-- The body is the text of an object whose last `csrf_token` is this text, not empty. -/
def NamesToken (body token : String) : Prop :=
  token ≠ "" ∧
    ∃ members, Json.ObjectText body members ∧ Json.LastIs "csrf_token" (.text token) members

/-- The body has this value, which reports no error and decodes as a configuration. -/
def HoldsConfig (body : String) (v : Json) : Prop :=
  readBody body = .ok v ∧ reportedError v = none ∧
    ∃ config, DaemonConfig.codec.decode v = .ok config

/-- The body holds a configuration that comes with this token: it names the token, or is a list that
starts with it. -/
def ConfiguresToken (body token : String) : Prop :=
  ∃ v, HoldsConfig body v ∧
    (NamesToken body token ∨ token ≠ "" ∧ ∃ rest, v = .list (.text token :: rest))

theorem payloadOf_eq_ok_iff {α : Type} {codec : Codec α} {v : Json} {x : α} :
    payloadOf codec v = .ok x ↔ reportedError v = none ∧ codec.decode v = .ok x := by
  unfold payloadOf
  cases reportedError v with
  | some message => simp
  | none => simp [mapError_eq_ok_iff]

theorem text?_eq_some_iff {o : Option Json} {s : String} :
    o.bind Json.text? = some s ↔ o = some (.text s) := by
  rcases o with _ | v
  · simp
  · cases v <;> simp [Json.text?]

theorem DaemonConfig.csrfToken_of_decode {v : Json} {config : DaemonConfig}
    (h : DaemonConfig.codec.decode v = .ok config) :
    config.csrfToken = (v.first? "csrf_token").bind Json.text? := by
  obtain ⟨⟨csrfToken, version, cameras, configuration, categories, _⟩, hd, hc⟩ :=
    bind_eq_ok_iff.mp h
  cases hc
  rcases Layout.decode_first hd with ⟨u, hu, hx⟩ | ⟨hu, hx⟩
  · rw [hu]
    cases u with
    | null | text _ => cases hx; rfl
    | _ => cases hx
  · rw [hu]
    cases hx
    rfl

theorem DaemonConfig.token?_eq_some_iff {config : DaemonConfig} {token : String} :
    config.token? = some token ↔ config.csrfToken = some token ∧ token ≠ "" := by
  simp [token?, Option.filter_eq_some_iff]

theorem first?_eq_text_iff {body : String} {v : Json} (h : readBody body = .ok v)
    {token : String} (hne : token ≠ "") :
    v.first? "csrf_token" = some (.text token) ↔
      NamesToken body token ∨ ∃ rest, v = .list (.text token :: rest) := by
  have hnames : NamesToken body token ↔
      ∃ members, v = .object members ∧ members.lookup "csrf_token" = some (.text token) := by
    rw [NamesToken, ← readBody_member_iff, h]
    simp only [Except.ok.injEq, and_iff_right hne]
  rw [hnames]
  cases v with
  | object members => simp [Json.first?, (readBody_ascending h).lookup_reverse]
  | list items => cases items <;> simp [Json.first?]
  | _ => simp [Json.first?]

/-- What the body gives as a configuration. -/
def configIn (body : String) : Except Failure DaemonConfig :=
  readBody body >>= payloadOf DaemonConfig.codec

theorem configIn_eq_ok_iff {body : String} {config : DaemonConfig} :
    configIn body = .ok config ↔ ∃ v, readBody body = .ok v ∧ reportedError v = none ∧
      DaemonConfig.codec.decode v = .ok config := by
  simp only [configIn, bind_eq_ok_iff, payloadOf_eq_ok_iff]

theorem isOk_configIn_iff {body : String} : (configIn body).isOk ↔ ∃ v, HoldsConfig body v := by
  rw [isOk_iff_exists]
  simp only [configIn_eq_ok_iff, HoldsConfig]
  constructor
  · rintro ⟨config, v, hv, he, hd⟩
    exact ⟨v, hv, he, config, hd⟩
  · rintro ⟨v, hv, he, config, hd⟩
    exact ⟨config, v, hv, he, hd⟩

theorem token_configIn_iff {body token : String} :
    (configIn body).toOption.bind DaemonConfig.token? = some token ↔
      ConfiguresToken body token := by
  constructor
  · intro h
    obtain ⟨config, hc, ht⟩ := Option.bind_eq_some_iff.mp h
    obtain ⟨ht, hne⟩ := DaemonConfig.token?_eq_some_iff.mp ht
    obtain ⟨v, hv, he, hd⟩ := configIn_eq_ok_iff.mp (toOption_eq_some_iff.mp hc)
    rw [DaemonConfig.csrfToken_of_decode hd, text?_eq_some_iff, first?_eq_text_iff hv hne] at ht
    exact ⟨v, ⟨hv, he, config, hd⟩, ht.imp id fun hl => ⟨hne, hl⟩⟩
  · rintro ⟨v, ⟨hv, he, config, hd⟩, ht⟩
    have hne : token ≠ "" := ht.elim And.left And.left
    have hfirst := (first?_eq_text_iff hv hne).mpr (ht.imp id And.right)
    refine Option.bind_eq_some_iff.mpr ⟨config, ?_, DaemonConfig.token?_eq_some_iff.mpr ⟨?_, hne⟩⟩
    · exact toOption_eq_some_iff.mpr (configIn_eq_ok_iff.mpr ⟨v, hv, he, hd⟩)
    · rw [DaemonConfig.csrfToken_of_decode hd, hfirst]
      rfl

theorem configuresToken_iff_names {body token : String} {members : List (String × Json)}
    (h : HoldsConfig body (.object members)) :
    ConfiguresToken body token ↔ NamesToken body token := by
  constructor
  · rintro ⟨v, hv, hn | ⟨_, rest, rfl⟩⟩
    · exact hn
    · cases h.1.symm.trans hv.1
  · exact fun hn => ⟨_, h, Or.inl hn⟩

/-! ## Calls -/

/-- The attempt was answered with success and this body. -/
def Attempt.Brings (body : String) (a : Attempt) : Prop :=
  ∃ response, a.exchange.outcome = .ok response ∧ response.isSuccess ∧ response.body = body

instance Attempt.decidableBrings (body : String) (a : Attempt) : Decidable (a.Brings body) :=
  match h : a.exchange.outcome with
  | .ok response =>
    decidable_of_iff (response.isSuccess ∧ response.body = body) (by simp [Brings, h])
  | .error _ => isFalse (by simp [Brings, h])

theorem Attempt.Brings.grants_iff {a : Attempt} {body token : String} (h : a.Brings body) :
    a.Grants token ↔ NamesToken body token := by
  obtain ⟨response, ho, hs, rfl⟩ := h
  rw [NamesToken, ← readBody_member_iff, Grants]
  constructor
  · rintro ⟨response', members, ho', _, hb, hl, hne⟩
    cases ho.symm.trans ho'
    exact ⟨hne, members, hb, hl⟩
  · rintro ⟨hne, members, hb, hl⟩
    exact ⟨response, members, ho, hs, hb, hl, hne⟩

theorem Attempt.Brings.result {a : Attempt} {body : String} (h : a.Brings body) :
    a.result = readBody body := by
  obtain ⟨response, ho, hs, rfl⟩ := h
  simp only [Attempt.result, ho, hs, ↓reduceIte]

theorem World.keep_token {w : World} {t : Option String} (h : ∀ token ∈ t, token ≠ "") :
    (w.keep t).context.token = t.or w.context.token := by
  cases t with
  | none => rfl
  | some token => simp [keep, adjust, Context.setToken, h token rfl]

namespace Client

variable {c : Client} {w : World} {body : String}

theorem course_config_recovery : (c.course (read .config) w).recovery = none :=
  (c.course_takes (read .config) w).recovery_of_read rfl

theorem daemonConfig_of_brings (h : (c.course (read .config) w).main.Brings body) :
    (c.daemonConfig w).1 = configIn body := by
  have hr : (c.run (read .config) w).1 = readBody body := by
    rw [run_result, Course.result, course_config_recovery]
    exact h.result
  rw [daemonConfig_result, fetch, configIn]
  generalize c.run (read .config) w = result at hr
  obtain ⟨_ | v, w'⟩ := result
  · rw [← hr]; rfl
  · rw [← hr]; rfl

theorem daemonConfig_token (h : (c.course (read .config) w).main.Brings body) :
    (c.daemonConfig w).2.context.token =
      ((configIn body).toOption.bind DaemonConfig.token?).or w.context.token := by
  rw [daemonConfig_world, daemonConfig_of_brings h, World.keep_token, run_context]
  · congr 1
    simp [Course.context, Course.token, course_config_recovery]
  · intro token ht
    obtain ⟨_, _, ht⟩ := Option.bind_eq_some_iff.mp ht
    exact (DaemonConfig.token?_eq_some_iff.mp ht).2

end Client

/-! ## Sessions -/

namespace Session

theorem step_recovered {a : Action} {c : Client} {r : Request} (h : a.call? = some (c, r))
    {w : World} {v : Recovery} (hv : (c.course r w).recovery = some v) {body : String}
    (hb : v.fetch.Brings body) (token : String) :
    (step a w).1.context.token = some token ↔ NamesToken body token := by
  have hconfig : ∀ c, a ≠ .operate c .config := by
    rintro c' rfl
    cases h
    exact absurd (Client.course_config_recovery.symm.trans hv) nofun
  rcases (c.course_takes r w).recovery_cases with ⟨hf, _⟩ | ⟨_, hn⟩
  · obtain ⟨v', hv', ht⟩ := (step_token_cases h hconfig w).2 hf
    cases hv.symm.trans hv'
    exact (ht token).trans hb.grants_iff
  · cases hn.symm.trans hv

theorem step_config {c : Client} {w : World} {body : String}
    (h : (c.course (Client.read .config) w).main.Brings body) :
    (step (.operate c .config) w).1.result =
        (configIn body).map (.answer ∘ .config) ∧
      (step (.operate c .config) w).1.context.token =
        ((configIn body).toOption.bind DaemonConfig.token?).or w.context.token := by
  have h' : (c.course (Client.read .config) w.freshJournal).main.Brings body := h
  refine ⟨?_, Client.daemonConfig_token h'⟩
  show ((c.daemonConfig w.freshJournal).1.map _).map _ = _
  rw [Client.daemonConfig_of_brings h']
  cases configIn body <;> rfl

/-- A recovery that fetches a body takes the token that it names. The operation gives a
configuration when the body holds one, and takes the token that the body configures; without one the
slot stays as it was. When the body is an object that holds a configuration, both take the same. -/
theorem config_readers_agree (body : String) :
    (∀ a c r w v, a.call? = some (c, r) → (c.course r w).recovery = some v →
      v.fetch.Brings body →
      ∀ token, (step a w).1.context.token = some token ↔ NamesToken body token) ∧
    (∀ c w, (c.course (Client.read .config) w).main.Brings body →
      ((step (.operate c .config) w).1.result.isOk ↔ ∃ v, HoldsConfig body v) ∧
      ∀ token, (step (.operate c .config) w).1.context.token = some token ↔
        ConfiguresToken body token ∨
          (w.context.token = some token ∧ ∀ t, ¬ ConfiguresToken body t)) ∧
    (∀ a c r w v c' w', a.call? = some (c, r) → (c.course r w).recovery = some v →
      v.fetch.Brings body → (c'.course (Client.read .config) w').main.Brings body →
      (step (.operate c' .config) w').1.result.isOk →
      (∃ members, readBody body = .ok (.object members)) →
      (step (.operate c' .config) w').1.context.token =
        (step a w).1.context.token.or w'.context.token) := by
  refine ⟨fun a c r w v h hv hb => step_recovered h hv hb, fun c w hb => ?_,
    fun a c r w v c' w' h hv hb hb' hok hobject => ?_⟩
  · obtain ⟨hresult, htoken⟩ := step_config hb
    refine ⟨by rw [hresult, isOk_map, isOk_configIn_iff], fun token => ?_⟩
    rw [htoken, Option.or_eq_some_iff, token_configIn_iff, Option.eq_none_iff_forall_ne_some]
    simp only [ne_eq, token_configIn_iff]
    exact or_congr_right and_comm
  · obtain ⟨hresult, htoken⟩ := step_config hb'
    obtain ⟨members, hm⟩ := hobject
    rw [hresult, isOk_map, isOk_configIn_iff] at hok
    obtain ⟨v', hv'⟩ := hok
    cases hm.symm.trans hv'.1
    rw [htoken]
    congr 1
    refine Option.ext fun token => ?_
    rw [token_configIn_iff, configuresToken_iff_names hv']
    exact (step_recovered h hv hb token).symm

/-- An object with two tokens, of which the last counts. -/
def doubled : String :=
  "\x7b\"csrf_token\":\"old\",\"csrf_token\":\"abc\"\x7d"

theorem config_readers_agree_doubled :
    let c := Client.onLocalhost
    let r := Client.remove (.picture 1 7)
    let stale : World :=
      .ofLink ⟨.direct, [{ status := 403 }, { body := Text.bytes doubled }, {}]⟩
    let fresh : World := .ofLink ⟨.direct, [{ body := Text.bytes doubled }]⟩
    (∃ v ∈ (c.course r stale).recovery, v.fetch.Brings doubled) ∧
      (c.course (Client.read .config) fresh).main.Brings doubled ∧
      (step (.operate c .config) fresh).1.result.isOk ∧
      readBody doubled = .ok (.object [("csrf_token", .text "abc")]) ∧
      NamesToken doubled "abc" ∧
      (step (.operate c .config) fresh).1.context.token =
        (step (.call c r) stale).1.context.token.or none := by
  intro c r stale fresh
  have hrecovery : ∃ v ∈ (c.course r stale).recovery, v.fetch.Brings doubled := by decide +kernel
  have hmain : (c.course (Client.read .config) fresh).main.Brings doubled := by decide +kernel
  have hok : (step (.operate c .config) fresh).1.result.isOk := by decide +kernel
  have hbody : readBody doubled = .ok (.object [("csrf_token", .text "abc")]) := by decide +kernel
  have htoken : (step (.call c r) stale).1.context.token = some "abc" := by decide +kernel
  obtain ⟨recovered, _, agree⟩ := config_readers_agree doubled
  obtain ⟨v, hv, hb⟩ := hrecovery
  exact ⟨⟨v, hv, hb⟩, hmain, hok, hbody,
    (recovered (.call c r) c r stale v rfl hv hb "abc").mp htoken,
    agree (.call c r) c r stale v c fresh rfl hv hb hmain hok ⟨_, hbody⟩⟩

end Session

end CameraConsole
