import CameraConsole.Proofs.ConsoleRuns
import CameraConsole.Proofs.Resolution

/-!
# Steps of a builder

A step writes some settings and leaves the others alone; this is all there is to know about it. So a
client has in each setting what the last step wrote there, or what the builder began with.
-/

namespace CameraConsole

/-! ## Settings -/

/-- What can be set about a client: its configuration, field by field, and its credentials. -/
inductive Setting where
  | baseUrl
  | timeout
  | maxRetries
  | retryBaseDelay
  | retryableStatuses
  | poolMaxIdlePerHost
  | proxyUrl
  | credentials
  deriving DecidableEq

namespace Setting

@[reducible] def Value : Setting → Type
  | baseUrl => String
  | timeout | maxRetries | retryBaseDelay | poolMaxIdlePerHost => Nat
  | retryableStatuses => List Nat
  | proxyUrl => Option String
  | credentials => Option Credentials

/-- The value of a setting. -/
def of (config : ClientConfig) (stored : Option Credentials) : (s : Setting) → s.Value
  | baseUrl => config.baseUrl
  | timeout => config.timeout
  | maxRetries => config.maxRetries
  | retryBaseDelay => config.retryBaseDelay
  | retryableStatuses => config.retryableStatuses
  | poolMaxIdlePerHost => config.poolMaxIdlePerHost
  | proxyUrl => config.proxyUrl
  | credentials => stored

end Setting

def Builder.get (b : Builder) (s : Setting) : s.Value :=
  s.of b.config b.credentials

namespace BuildStep

/-- What a step writes to a setting; none when it leaves it alone. A timeout of zero is not written,
and a configuration has no credentials. -/
def written? : BuildStep → (s : Setting) → Option s.Value
  | .baseUrl url, .baseUrl => some url
  | .proxy url, .proxyUrl => some (some url)
  | .timeout ms, .timeout => if ms = 0 then none else some ms
  | .retryBaseDelay ms, .retryBaseDelay => some ms
  | .maxRetries n, .maxRetries => some n
  | .basicAuth k, .credentials => some (some k)
  | .config _, .credentials => none
  | .config replacement, s => some (s.of replacement none)
  | _, _ => none

/-- The last value that steps write to a setting, else the one it has at the start. -/
def lastWritten (steps : List BuildStep) (s : Setting) (start : s.Value) : s.Value :=
  (steps.filterMap (·.written? s)).getLast?.getD start

/-- Steps that write to no common setting. -/
def Disjoint (p q : BuildStep) : Prop :=
  ∀ s, p.written? s = none ∨ q.written? s = none

variable {s : Setting}

theorem lastWritten_cons (step : BuildStep) (steps : List BuildStep) (start : s.Value) :
    lastWritten (step :: steps) s start =
      lastWritten steps s ((step.written? s).getD start) := by
  unfold lastWritten
  rw [List.filterMap_cons]
  cases step.written? s with
  | none => rfl
  | some v => rw [List.getLast?_cons]; rfl

/-- What holds of the start and of all that is written holds in the end. -/
theorem lastWritten_induction {P : s.Value → Prop} {steps : List BuildStep} {start : s.Value}
    (begins : P start) (writes : ∀ step ∈ steps, ∀ v ∈ step.written? s, P v) :
    P (lastWritten steps s start) := by
  induction steps generalizing start with
  | nil => exact begins
  | cons step steps ih =>
      obtain ⟨hstep, hsteps⟩ := List.forall_mem_cons.mp writes
      rw [lastWritten_cons]
      refine ih ?_ hsteps
      cases hw : step.written? s with
      | none => exact begins
      | some v => exact hstep v hw

theorem timeout_pos_of_written {step : BuildStep} {ms : Nat}
    (h : ∀ config, step = .config config → 0 < config.timeout)
    (hw : step.written? .timeout = some ms) : 0 < ms := by
  cases step with
  | timeout n =>
      have hn : (if n = 0 then none else some n) = some ms := hw
      split at hn
      · cases hn
      · cases hn; omega
  | config config => cases hw; exact h config rfl
  | _ => cases hw

end BuildStep

/-! ## Steps -/

namespace Builder

variable {b b' : Builder} {p q : BuildStep} {steps : List BuildStep}

theorem ext_get (h : ∀ s, b.get s = b'.get s) : b = b' := by
  obtain ⟨⟨_, _, _, _, _, _, _⟩, _⟩ := b
  obtain ⟨⟨_, _, _, _, _, _, _⟩, _⟩ := b'
  cases h .baseUrl
  cases h .timeout
  cases h .maxRetries
  cases h .retryBaseDelay
  cases h .retryableStatuses
  cases h .poolMaxIdlePerHost
  cases h .proxyUrl
  cases h .credentials
  rfl

theorem get_apply (b : Builder) (step : BuildStep) (s : Setting) :
    (b.apply step).get s = (step.written? s).getD (b.get s) := by
  cases step with
  | timeout ms => cases ms <;> cases s <;> rfl
  | _ => cases s <;> rfl

theorem get_applyAll (b : Builder) (steps : List BuildStep) (s : Setting) :
    (b.applyAll steps).get s = BuildStep.lastWritten steps s (b.get s) := by
  induction steps generalizing b with
  | nil => rfl
  | cons step steps ih =>
      rw [BuildStep.lastWritten_cons, ← get_apply]
      exact ih (b.apply step)

theorem apply_comm (h : p.Disjoint q) (b : Builder) :
    (b.apply p).apply q = (b.apply q).apply p := by
  refine ext_get fun s => ?_
  rw [get_apply, get_apply, get_apply, get_apply]
  rcases h s with hp | hq
  · rw [hp]; rfl
  · rw [hq]; rfl

theorem applyAll_swap (h : p.Disjoint q) (b : Builder) (before after : List BuildStep) :
    b.applyAll (before ++ p :: q :: after) = b.applyAll (before ++ q :: p :: after) := by
  unfold applyAll
  rw [List.foldl_append, List.foldl_append, List.foldl_cons, List.foldl_cons, List.foldl_cons,
    List.foldl_cons, apply_comm h]

theorem applyAll_timeout_pos (hb : 0 < b.config.timeout)
    (hsteps : ∀ config, .config config ∈ steps → 0 < config.timeout) :
    0 < (b.applyAll steps).config.timeout := by
  have hlast : (b.applyAll steps).config.timeout =
      BuildStep.lastWritten steps .timeout b.config.timeout := b.get_applyAll steps .timeout
  rw [hlast]
  refine BuildStep.lastWritten_induction hb fun step hstep ms hms => ?_
  exact BuildStep.timeout_pos_of_written (fun config hc => hsteps config (hc ▸ hstep)) hms

end Builder

theorem Client.isOk_ofConfig_iff {config : ClientConfig} :
    (ofConfig config).isOk ↔
      (baseUrl config.baseUrl).isOk ∧ ∀ raw ∈ config.proxyUrl, (proxyUrl raw).isOk := by
  unfold ofConfig
  cases baseUrl config.baseUrl with
  | error failure => exact ⟨(nomatch ·), (nomatch ·.1)⟩
  | ok base =>
      cases config.proxyUrl with
      | none => exact ⟨fun _ => ⟨rfl, fun _ h => nomatch h⟩, fun _ => rfl⟩
      | some raw =>
          simp only [Option.mem_some_iff, forall_eq']
          cases proxyUrl raw with
          | error fault => exact ⟨(nomatch ·), (nomatch ·.2)⟩
          | ok url => exact ⟨fun _ => ⟨rfl, rfl⟩, fun _ => rfl⟩

/-! ## The environment -/

/-- The usable value, or the fallback when there is none. -/
inductive Preferred {α : Type} (usable : α → Prop) (fallback : α) : α → Prop where
  | usable {x : α} (h : usable x) : Preferred usable fallback x
  | fallback (h : ∀ x, ¬ usable x) : Preferred usable fallback fallback

theorem Preferred.elim {α : Type} {usable P : α → Prop} {fallback x : α}
    (h : Preferred usable fallback x) (hu : ∀ x, usable x → P x) (hf : P fallback) : P x := by
  cases h with
  | usable h => exact hu _ h
  | fallback _ => exact hf

theorem preferred_getD {α : Type} {usable : α → Prop} {x : Option α}
    (h : ∀ a, x = some a ↔ usable a) (fallback : α) :
    Preferred usable fallback (x.getD fallback) := by
  cases x with
  | none => exact .fallback fun a ha => nomatch (h a).mpr ha
  | some a => exact .usable ((h a).mp rfl)

/-- The variable holds this number of 64 bits, with or without blanks around it. -/
def Environment.Numbers (env : Environment) (name : String) (n : Nat) : Prop :=
  ∃ text, env.lookup name = some text ∧ Text.Numeral (Text.trim text) n ∧ n < UInt64.size

/-- The settings are those of the environment; what cannot be used of it does not count. -/
structure ClientConfig.Reflects (env : Environment) (config : ClientConfig) : Prop where
  baseUrl : Preferred (fun url => env.lookup "MOTION_BASE_URL" = some url) "http://localhost:8080"
    config.baseUrl
  timeout : Preferred (fun ms => env.Numbers "MOTION_HTTP_TIMEOUT_MS" ms ∧ 0 < ms) 10000
    config.timeout
  maxRetries : config.maxRetries = 1
  retryBaseDelay : Preferred (env.Numbers "MOTION_RETRY_BASE_DELAY_MS") 1000 config.retryBaseDelay
  retryableStatuses : config.retryableStatuses = [502, 503, 504]
  poolMaxIdlePerHost : Preferred (env.Numbers "MOTION_HTTP_POOL_MAX_IDLE_PER_HOST") 8
    config.poolMaxIdlePerHost
  proxyUrl : ∀ url, config.proxyUrl = some url ↔
    env.lookup "MOTION_PROXY_URL" = some url ∧ url ≠ ""

namespace ClientConfig

theorem numberVariable_eq_some_iff {env : Environment} {name : String} {n : Nat} :
    numberVariable env name = some n ↔ env.Numbers name n := by
  have hlimit : n ≤ Text.max64 ↔ n < UInt64.size := Nat.le_sub_one_iff_lt (by decide)
  simp only [numberVariable, Option.bind_eq_some_iff, toOption_eq_some_iff,
    Text.readNumeral_eq_ok_iff, hlimit, Environment.Numbers]

theorem ofEnvironment_reflects (env : Environment) : (ofEnvironment env).Reflects env where
  baseUrl := preferred_getD (fun _ => Iff.rfl) _
  timeout := preferred_getD (fun n => by
    simp only [Option.filter_eq_some_iff, numberVariable_eq_some_iff, decide_eq_true_eq]) _
  maxRetries := rfl
  retryBaseDelay := preferred_getD (fun _ => numberVariable_eq_some_iff) _
  retryableStatuses := rfl
  poolMaxIdlePerHost := preferred_getD (fun _ => numberVariable_eq_some_iff) _
  proxyUrl url := by
    simp only [ofEnvironment, Option.filter_eq_some_iff, decide_eq_true_eq]

theorem Reflects.timeout_pos {env : Environment} {config : ClientConfig}
    (h : config.Reflects env) : 0 < config.timeout :=
  h.timeout.elim (fun _ h => h.2) (by decide)

/-- The default settings, or those of the environment. -/
def Stock (env : Environment) (config : ClientConfig) : Prop :=
  config = {} ∨ config = .ofEnvironment env

theorem Stock.timeout_pos {env : Environment} {config : ClientConfig} (h : config.Stock env) :
    0 < config.timeout := by
  rcases h with rfl | rfl
  · decide
  · exact (ofEnvironment_reflects env).timeout_pos

end ClientConfig

theorem Builder.ofEnvironment_credentials_iff {env : Environment} {k : Credentials} :
    (ofEnvironment env).credentials = some k ↔ env.lookup "MOTION_USER" = some k.username ∧
      env.lookup "MOTION_PASSWORD" = some k.password ∧ k.username ≠ "" := by
  obtain ⟨username, password⟩ := k
  unfold ofEnvironment
  dsimp only
  cases env.lookup "MOTION_USER" with
  | none => simp
  | some user =>
      cases env.lookup "MOTION_PASSWORD" with
      | none => simp
      | some pass =>
          by_cases hu : user = ""
          · simp only [hu, ↓reduceIte, reduceCtorEq, false_iff]
            rintro ⟨h, _, hne⟩
            exact hne (Option.some.inj h).symm
          · simp only [hu, ↓reduceIte, Option.some.injEq, Credentials.mk.injEq]
            exact ⟨fun ⟨h, h'⟩ => ⟨h, h', h ▸ hu⟩, fun ⟨h, h', _⟩ => ⟨h, h'⟩⟩

/-! ## Retry policies -/

/-- When a client tries again: at most so often, after a delay that grows from the first one on, and
on answers of these statuses. -/
structure RetryPolicy where
  maxRetries : Nat
  baseDelay : Nat
  statuses : List Nat

namespace RetryPolicy

/-- The delay after which a request with this answer is made again; none when it is not. -/
def delay? (p : RetryPolicy) (status retryCount : Nat) : Option Nat :=
  if status ∈ p.statuses ∧ retryCount < p.maxRetries then
    some (min (p.baseDelay * (retryCount + 1)) longestDelay)
  else none

variable {p : RetryPolicy} {status retryCount : Nat}

theorem delay?_eq_some_iff {delay : Nat} :
    p.delay? status retryCount = some delay ↔ (status ∈ p.statuses ∧ retryCount < p.maxRetries) ∧
      min (p.baseDelay * (retryCount + 1)) longestDelay = delay := by
  rw [delay?, Option.ite_none_right_eq_some, Option.some.injEq]

theorem delay?_eq_none_iff :
    p.delay? status retryCount = none ↔ (retryCount < p.maxRetries → status ∉ p.statuses) := by
  rw [delay?, ite_eq_right_iff]
  constructor
  · intro h hlt hs
    cases h ⟨hs, hlt⟩
  · rintro h ⟨hs, hlt⟩
    exact absurd hs (h hlt)

end RetryPolicy

def ClientConfig.policy (config : ClientConfig) : RetryPolicy :=
  ⟨config.maxRetries, config.retryBaseDelay, config.retryableStatuses⟩

/-- The answer is a failure that nothing but the policy decides about. -/
def Response.LeftToPolicy (response : Response) (method : Method) : Prop :=
  response.isSuccess = false ∧ response.status ≠ 401 ∧ ¬ (response.status = 403 ∧ method.mutating)

/-- Calls begin with the retries that the policy leaves to them, and make one just when it has a delay
for the answer. -/
structure Client.Obeys (c : Client) (p : RetryPolicy) : Prop where
  begins (r : Request) (w : World) :
    c.run r w = c.persist w.nextCall (p.maxRetries - r.retryCount) r
      { w with nextCall := w.nextCall + 1 }
  retries {call left delay : Nat} {r : Request} {w v : World} {response : Response}
    (spent : left = p.maxRetries - r.retryCount)
    (answered : c.attempt call r w = (.ok response, v)) (undecided : response.LeftToPolicy r.method)
    (again : p.delay? response.status r.retryCount = some delay) :
    c.persist call left r w = c.persist call (left - 1) r.again
      ((v.note (.retrying call response.status r.endpoint r.retryCount delay)).wait delay)
  fails {call left : Nat} {r : Request} {w v : World} {response : Response}
    (spent : left = p.maxRetries - r.retryCount)
    (answered : c.attempt call r w = (.ok response, v)) (undecided : response.LeftToPolicy r.method)
    (denied : p.delay? response.status r.retryCount = none) :
    c.persist call left r w = (.error (.ofAnswer response.status response.reason),
      v.note (.failed call response.status r.method r.endpoint r.retryCount))

theorem Client.obeys_policy (c : Client) : c.Obeys c.config.policy where
  begins _ _ := rfl
  -- The loop counts the retries that are left, the policy those that were made: `spent` ties the two.
  retries {call left delay r w v response} spent answered undecided again := by
    obtain ⟨h1, h2, h3⟩ := undecided
    obtain ⟨⟨hs, hlt⟩, rfl⟩ := RetryPolicy.delay?_eq_some_iff.mp again
    obtain ⟨left, rfl⟩ := Nat.exists_eq_add_one.mpr (show 0 < left by omega)
    have hs' : response.status ∈ c.config.retryableStatuses := hs
    conv => lhs; unfold persist
    simp only [answered, h1, h2, h3, hs', Bool.false_eq_true, ↓reduceIte]
    rfl
  fails {call left r w v response} spent answered undecided denied := by
    obtain ⟨h1, h2, h3⟩ := undecided
    unfold persist
    simp only [answered, h1, h2, h3, Bool.false_eq_true, ↓reduceIte]
    cases left with
    | zero => rfl
    | succ left =>
        have hs : response.status ∉ c.config.retryableStatuses :=
          RetryPolicy.delay?_eq_none_iff.mp denied (by omega)
        simp only [hs, ↓reduceIte]

/-! ## Clients -/

namespace Builder

/-- What steps make of a setting of a builder that begins so. -/
def last (start : Builder) (steps : List BuildStep) (s : Setting) : s.Value :=
  BuildStep.lastWritten steps s (start.get s)

theorem config_of_last {start : Builder} {steps : List BuildStep} {c : Client} {context : Context}
    (h : ((start.applyAll steps).assemble context).1 = .ok c) (s : Setting) :
    s.of c.config (start.last steps .credentials) = start.last steps s := by
  rw [assemble_result] at h
  rw [Client.ofConfig_config h]
  have hcredentials : (start.applyAll steps).credentials = start.last steps .credentials :=
    start.get_applyAll steps .credentials
  rw [← hcredentials]
  exact start.get_applyAll steps s

/-- A client has in each setting what the last step wrote there, else what the builder began with,
and makes its calls by these settings. Only a client that was built gives its credentials to the
context. -/
theorem last_step_counts {env : Environment} {start : Builder} {steps : List BuildStep}
    (begun : start = .default ∨ start = .ofEnvironment env)
    (replaced : ∀ config, .config config ∈ steps → config.Stock env)
    (context : Context) :
    (ClientConfig.ofEnvironment env).Reflects env ∧
      (∀ k, (ofEnvironment env).credentials = some k ↔ env.lookup "MOTION_USER" = some k.username ∧
        env.lookup "MOTION_PASSWORD" = some k.password ∧ k.username ≠ "") ∧
      (∀ c, ((start.applyAll steps).assemble context).1 = .ok c →
        (∀ s, s.of c.config (start.last steps .credentials) = start.last steps s) ∧
        c.Obeys ⟨start.last steps .maxRetries, start.last steps .retryBaseDelay,
          start.last steps .retryableStatuses⟩ ∧
        Client.baseUrl (start.last steps .baseUrl) = .ok c.base ∧
        ((start.applyAll steps).assemble context).2 =
          { context with
            credentials := (start.last steps .credentials).or context.credentials }) ∧
      (∀ f, ((start.applyAll steps).assemble context).1 = .error f →
        ((start.applyAll steps).assemble context).2 = context) ∧
      (((start.applyAll steps).assemble context).1.isOk ↔
        (Client.baseUrl (start.last steps .baseUrl)).isOk ∧
          ∀ raw, start.last steps .proxyUrl = some raw → (Client.proxyUrl raw).isOk) ∧
      (start.applyAll steps).build context = ((start.applyAll steps).assemble context).1.map
        (fun c => (c, ((start.applyAll steps).assemble context).2)) ∧
      0 < start.last steps .timeout ∧
      ∀ before p q after, steps = before ++ p :: q :: after → p.Disjoint q →
        start.applyAll (before ++ q :: p :: after) = start.applyAll steps := by
  have hfinal (s : Setting) : (start.applyAll steps).get s = start.last steps s :=
    start.get_applyAll steps s
  have hstart : start.config.Stock env := begun.imp (congrArg config) (congrArg config)
  refine ⟨ClientConfig.ofEnvironment_reflects env, fun _ => ofEnvironment_credentials_iff, ?_,
    fun _ => assemble_context_error, ?_, build_eq_assemble _ _, ?_, ?_⟩
  · intro c hc
    have hsettings := config_of_last hc
    refine ⟨hsettings, ?_, ?_, ?_⟩
    · rw [← hsettings .maxRetries, ← hsettings .retryBaseDelay, ← hsettings .retryableStatuses]
      exact c.obeys_policy
    · rw [← hfinal]
      rw [assemble_result] at hc
      exact Client.ofConfig_base hc
    · rw [← hfinal]
      exact assemble_context_ok hc
  · rw [assemble_result, ← hfinal, ← hfinal]
    exact Client.isOk_ofConfig_iff
  · rw [← hfinal]
    exact applyAll_timeout_pos hstart.timeout_pos fun config hc => (replaced config hc).timeout_pos
  · rintro before p q after rfl hd
    exact (applyAll_swap hd start before after).symm

theorem last_step_counts_mixed :
    let env : Environment :=
      [("MOTION_HTTP_TIMEOUT_MS", " 2500 "), ("MOTION_RETRY_BASE_DELAY_MS", "1s"),
        ("MOTION_USER", "admin"), ("MOTION_PASSWORD", "secret")]
    let steps : List BuildStep :=
      [.maxRetries 5, .basicAuth ⟨"viewer", "pass"⟩, .timeout 70, .config (.ofEnvironment env),
        .timeout 0, .retryBaseDelay 20, .baseUrl "http://camera.test"]
    let shared : Context := ⟨some "abc", some ⟨"guest", "old"⟩, .empty⟩
    let good := ((ofEnvironment env).applyAll steps).assemble shared
    let bad :=
      ((ofEnvironment env).applyAll (steps ++ [.proxy "ftp://camera.test"])).assemble shared
    (∀ config, .config config ∈ steps → config.Stock env) ∧
      (∃ c, good.1 = .ok c ∧ c.config.timeout = 2500 ∧ c.config.baseUrl = "http://camera.test" ∧
        c.Obeys ⟨1, 20, [502, 503, 504]⟩) ∧
      good.2 = { shared with credentials := some ⟨"viewer", "pass"⟩ } ∧
      bad.1.isOk = false ∧ bad.2 = shared := by
  intro env steps shared good bad
  have replaced : ∀ config, .config config ∈ steps → config.Stock env := by
    simp [steps, ClientConfig.Stock]
  have replaced' : ∀ config, .config config ∈ steps ++ [.proxy "ftp://camera.test"] →
      config.Stock env := by
    simp [steps, ClientConfig.Stock]
  obtain ⟨_, _, built, _⟩ := last_step_counts (.inr rfl) replaced shared
  obtain ⟨_, _, _, unbuilt, _⟩ := last_step_counts (.inr rfl) replaced' shared
  have hgood : good.1.isOk := by decide +kernel
  have hbad : bad.1.isOk = false := by decide +kernel
  obtain ⟨c, hc⟩ := isOk_iff_exists.mp hgood
  obtain ⟨hsettings, hobeys, _, hcontext⟩ := built c hc
  refine ⟨replaced, ⟨c, hc, ?_, ?_, hobeys⟩, hcontext, hbad, ?_⟩
  · exact (hsettings .timeout).trans (by decide +kernel)
  · exact hsettings .baseUrl
  · cases hf : bad.1 with
    | ok c => rw [hf] at hbad; cases hbad
    | error f => exact unbuilt f hf

end Builder

end CameraConsole
