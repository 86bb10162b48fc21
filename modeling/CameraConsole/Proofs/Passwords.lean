import CameraConsole.Console.Run
import CameraConsole.Proofs.Actions
import CameraConsole.Proofs.ForbiddenCall
import CameraConsole.Proofs.Masked
import Mathlib.Data.List.Forall2

/-!
# Passwords do not show

Two sessions, or two runs of the console, that are the same under the mask give the same: results,
times, log, token, events and descriptions. Only the values of authorization headers tell them apart.
-/

namespace CameraConsole

/-! ## Agreement -/

namespace World.Alike

variable {u v w w' : World}

theorem refl (w : World) : w.Alike w :=
  ⟨rfl, rfl, rfl, rfl⟩

theorem symm (h : w.Alike w') : w'.Alike w :=
  ⟨h.context.symm, h.link.symm, h.nextCall.symm, h.journal.symm⟩

theorem trans (h : u.Alike v) (h' : v.Alike w) : u.Alike w :=
  ⟨h.context.trans h'.context, h.link.trans h'.link, h.nextCall.trans h'.nextCall,
    h.journal.trans h'.journal⟩

theorem freshJournal (h : w.Alike w') : w.freshJournal.Alike w'.freshJournal :=
  ⟨h.context, h.link, h.nextCall, rfl⟩

theorem withContext (h : w.Alike w') {context context' : Context}
    (hc : context.masked = context'.masked) :
    World.Alike { w with context } { w' with context := context' } :=
  ⟨hc, h.link, h.nextCall, h.journal⟩

theorem note (h : w.Alike w') (e : LogEvent) : (w.note e).Alike (w'.note e) := by
  refine ⟨h.context, h.link, h.nextCall, ?_⟩
  show ({ w.journal.masked with log := w.journal.masked.log ++ [e] } : Journal) =
    { w'.journal.masked with log := w'.journal.masked.log ++ [e] }
  rw [h.journal]

theorem notes (h : w.Alike w') (es : List LogEvent) :
    (es.foldl World.note w).Alike (es.foldl World.note w') := by
  induction es generalizing w w' with
  | nil => exact h
  | cons e es ih => exact ih (h.note e)

end World.Alike

namespace Context

variable {x y : Context}

theorem masked_setToken (h : x.masked = y.masked) (token : String) :
    (x.setToken token).masked = (y.setToken token).masked :=
  show x.masked.setToken token = y.masked.setToken token by rw [h]

theorem masked_invalidateToken (h : x.masked = y.masked) :
    x.invalidateToken.masked = y.invalidateToken.masked :=
  show x.masked.invalidateToken = y.masked.invalidateToken by rw [h]

theorem masked_clearCredentials (h : x.masked = y.masked) :
    x.clearCredentials.masked = y.clearCredentials.masked :=
  show x.masked.clearCredentials = y.masked.clearCredentials by rw [h]

theorem masked_setCredentials (h : x.masked = y.masked) {k k' : Credentials}
    (hk : k.masked = k'.masked) : (x.setCredentials k).masked = (y.setCredentials k').masked :=
  show x.masked.setCredentials k.masked = y.masked.setCredentials k'.masked by rw [h, hk]

theorem masked_withChannel (h : x.masked = y.masked) (channel : Channel) :
    Context.masked { x with channel } = Context.masked { y with channel } :=
  show ({ x.masked with channel } : Context) = { y.masked with channel } by rw [h]

theorem debugText_masked (x : Context) : x.masked.debugText = x.debugText := by
  unfold debugText masked
  cases x.credentials <;> rfl

theorem debugText_of_masked (h : x.masked = y.masked) : x.debugText = y.debugText := by
  rw [← x.debugText_masked, h, y.debugText_masked]

end Context

theorem Client.debugText_of_masked (c : Client) {x y : Context} (h : x.masked = y.masked) :
    c.debugText x = c.debugText y := by
  unfold Client.debugText
  rw [Context.debugText_of_masked h]

namespace Agree

variable {α β : Type} {x y z : α × World}

theorem symm (h : Agree x y) : Agree y x :=
  ⟨h.1.symm, h.2.symm⟩

theorem trans (h : Agree x y) (h' : Agree y z) : Agree x z :=
  ⟨h.1.trans h'.1, h.2.trans h'.2⟩

@[elab_as_elim]
theorem elim {motive : α × World → α × World → Prop} (h : Agree x y)
    (same : ∀ a v v', v.Alike v' → motive (a, v) (a, v')) : motive x y := by
  obtain ⟨a, v⟩ := x
  obtain ⟨b, v'⟩ := y
  obtain ⟨rfl, hv⟩ : a = b ∧ v.Alike v' := h
  exact same a v v' hv

theorem map (h : Agree x y) (f : α → β) : Agree (f x.1, x.2) (f y.1, y.2) :=
  ⟨congrArg f h.1, h.2⟩

end Agree

/-! ## Operations -/

variable {w w' : World}

/-- What a single attempt writes down. -/
def Attempt.entry (a : Attempt) : Journal :=
  { attempts := [a], sent := a.exchange.sent, elapsed := a.exchange.duration }

theorem World.transmit_eq (w : World) (c : Client) (d : Dispatch) (retryCount : Nat) :
    w.transmit c d retryCount =
      ((c.exchange d w.link).outcome,
        w.advance w.context (c.exchange d w.link).replies
          (Attempt.mk d retryCount (c.exchange d w.link)).entry) := by
  simp only [transmit, advance, Prod.mk.injEq, World.mk.injEq, true_and]
  apply Journal.ext_fields <;> simp [Attempt.entry]

theorem World.transmit_agree (c : Client) {d d' : Dispatch} (retryCount : Nat)
    (hd : d.masked = d'.masked) (h : w.Alike w') :
    Agree (w.transmit c d retryCount) (w'.transmit c d' retryCount) := by
  have hx : (c.exchange d w.link).masked = (c.exchange d' w'.link).masked := by
    rw [← c.exchange_masked, hd, h.link, c.exchange_masked]
  rw [World.transmit_eq, World.transmit_eq]
  generalize c.exchange d w.link = x, c.exchange d' w'.link = x' at hx
  have ho : x.outcome = x'.outcome := show x.masked.outcome = x'.masked.outcome by rw [hx]
  have hr : x.replies = x'.replies := show x.masked.replies = x'.masked.replies by rw [hx]
  have hj : (Attempt.mk d retryCount x).entry.masked = (Attempt.mk d' retryCount x').entry.masked :=
    show (Attempt.mk d.masked retryCount x.masked).entry =
      (Attempt.mk d'.masked retryCount x'.masked).entry by rw [hd, hx]
  rw [hr]
  exact ⟨ho, h.advance h.context hj⟩

namespace Client

variable {α : Type} (c : Client) (codec : Codec α) (r : Request)

theorem fetch_agree (h : w.Alike w') : Agree (c.fetch codec r w) (c.fetch codec r w') := by
  unfold fetch
  refine Agree.elim (c.run_agree r h) fun result v v' hv => ?_
  cases result with
  | error failure => exact ⟨rfl, hv⟩
  | ok body => exact ⟨rfl, hv⟩

theorem runAs_agree (h : w.Alike w') : Agree (c.runAs codec r w) (c.runAs codec r w') := by
  unfold runAs
  refine Agree.elim (c.run_agree r h) fun result v v' hv => ?_
  cases result with
  | error failure => exact ⟨rfl, hv⟩
  | ok body => exact ⟨rfl, hv⟩

theorem daemonConfig_agree (h : w.Alike w') : Agree (c.daemonConfig w) (c.daemonConfig w') := by
  unfold daemonConfig
  refine Agree.elim (c.fetch_agree DaemonConfig.codec (read .config) h) fun result v v' hv => ?_
  cases result with
  | error failure => exact ⟨rfl, hv⟩
  | ok config =>
      cases ht : config.csrfToken.filter (· ≠ "") with
      | none => simpa only [ht] using ⟨rfl, hv⟩
      | some token =>
          simpa only [ht] using ⟨rfl, hv.withContext (Context.masked_setToken hv.context token)⟩

theorem login_agree {k k' : Credentials} (hk : k.masked = k'.masked) (h : w.Alike w') :
    Agree (c.login k w) (c.login k' w') := by
  have hu : k.username = k'.username := show k.masked.username = k'.masked.username by rw [hk]
  have hd : k.dispatch.masked = k'.dispatch.masked :=
    show k.masked.dispatch = k'.masked.dispatch by rw [hk]
  have ht := World.transmit_agree c 0 hd h
  unfold Credentials.dispatch at ht
  unfold login
  dsimp only
  refine Agree.elim ht fun result v v' hv => ?_
  cases result with
  | error failure => exact ⟨rfl, hv⟩
  | ok response =>
      dsimp only
      cases loginPayload response with
      | error failure => exact ⟨rfl, hv⟩
      | ok status =>
          rw [hu]
          exact ⟨rfl, (hv.withContext (Context.masked_setCredentials hv.context hk)).note _⟩

end Client

theorem Operation.perform_agree (o : Operation) (c : Client) (h : w.Alike w') :
    Agree (o.perform c w) (o.perform c w') := by
  cases o with
  | config => exact (c.daemonConfig_agree h).map _
  | _ => exact (c.fetch_agree _ _ h).map _

/-! ## Actions -/

def Action.masked : Action → Action
  | dispatch c d => dispatch c d.masked
  | login c k => login c k.masked
  | setCredentials k => setCredentials k.masked
  | a => a

namespace Action

theorem run_masked (a : Action) (h : w.Alike w') : Agree (a.masked.run w) (a.run w') := by
  cases a with
  | call c r => exact (c.run_agree r h).map _
  | callAs c kind r => exact (c.runAs_agree _ r h).map _
  | dispatch c d => exact (World.transmit_agree c 0 d.masked_masked h).map _
  | operate c o => exact (o.perform_agree c h).map _
  | login c k => exact (c.login_agree k.masked_masked h).map _
  | logout => exact ⟨rfl, h.withContext (Context.masked_clearCredentials h.context)⟩
  | clearCredentials => exact ⟨rfl, h.withContext (Context.masked_clearCredentials h.context)⟩
  | setToken token => exact ⟨rfl, h.withContext (Context.masked_setToken h.context token)⟩
  | invalidateToken => exact ⟨rfl, h.withContext (Context.masked_invalidateToken h.context)⟩
  | setCredentials k =>
      exact ⟨rfl, h.withContext (Context.masked_setCredentials h.context k.masked_masked)⟩
  | subscribe =>
      simp only [masked, run, h.channel]
      exact ⟨rfl, h.withContext (Context.masked_withChannel h.context _)⟩
  | unsubscribe id =>
      simp only [masked, run, World.adjust, h.channel]
      exact ⟨rfl, h.withContext (Context.masked_withChannel h.context _)⟩
  | drain id =>
      simp only [masked, run, h.channel]
      exact ⟨rfl, h.withContext (Context.masked_withChannel h.context _)⟩
  | describeClient c =>
      exact ⟨congrArg (Except.ok ∘ Result.description) (c.debugText_of_masked h.context), h⟩
  | describeContext =>
      exact ⟨congrArg (Except.ok ∘ Result.description) (Context.debugText_of_masked h.context), h⟩

theorem run_agree {a a' : Action} (ha : a.masked = a'.masked) (h : w.Alike w') :
    Agree (a.run w) (a'.run w') := by
  -- Both agree with what they share, the masked action.
  have h₁ := a.run_masked (World.Alike.refl w)
  have h₂ := a'.run_masked h
  rw [ha] at h₁
  exact h₁.symm.trans h₂

end Action

/-! ## Sessions -/

/-- All that a step shows is the same, but for the values of authorization headers. -/
structure Step.Alike (s s' : Step) : Prop where
  result : s.result = s'.result
  elapsed : s.journal.elapsed = s'.journal.elapsed
  log : s.journal.log = s'.journal.log
  announced : s.journal.announced = s'.journal.announced
  sent : s.journal.sent.map Message.masked = s'.journal.sent.map Message.masked
  token : s.context.token = s'.context.token
  channel : s.context.channel = s'.context.channel
  contextText : s.context.debugText = s'.context.debugText
  clientText : ∀ c : Client, c.debugText s.context = c.debugText s'.context

theorem Step.alike_of_masked {s s' : Step} (result : s.result = s'.result)
    (hj : s.journal.masked = s'.journal.masked) (hc : s.context.masked = s'.context.masked) :
    s.Alike s' where
  result := result
  elapsed := show s.journal.masked.elapsed = s'.journal.masked.elapsed by rw [hj]
  log := show s.journal.masked.log = s'.journal.masked.log by rw [hj]
  announced := show s.journal.masked.announced = s'.journal.masked.announced by rw [hj]
  sent := show s.journal.masked.sent = s'.journal.masked.sent by rw [hj]
  token := show s.context.masked.token = s'.context.masked.token by rw [hc]
  channel := show s.context.masked.channel = s'.context.masked.channel by rw [hc]
  contextText := Context.debugText_of_masked hc
  clientText c := c.debugText_of_masked hc

namespace Session

theorem step_alike {a a' : Action} (ha : a.masked = a'.masked) (h : w.Alike w') :
    (step a w).1.Alike (step a' w').1 ∧ (step a w).2.Alike (step a' w').2 := by
  obtain ⟨hr, hw⟩ := Action.run_agree ha h.freshJournal
  exact ⟨Step.alike_of_masked hr hw.journal hw.context, hw⟩

theorem run_alike {actions actions' : List Action}
    (ha : actions.map Action.masked = actions'.map Action.masked) (h : w.Alike w') :
    List.Forall₂ Step.Alike (run actions w).1 (run actions' w').1 := by
  induction actions generalizing actions' w w' with
  | nil =>
      cases actions' with
      | nil => exact .nil
      | cons a' actions' => cases ha
  | cons a actions ih =>
      cases actions' with
      | nil => cases ha
      | cons a' actions' =>
          obtain ⟨hhead, htail⟩ := List.cons.inj ha
          obtain ⟨hs, hw⟩ := step_alike hhead h
          exact .cons hs (ih htail hw)

end Session

/-! ## Clients -/

def BuildStep.masked : BuildStep → BuildStep
  | basicAuth k => basicAuth k.masked
  | s => s

def Builder.masked (b : Builder) : Builder :=
  { b with credentials := b.credentials.map Credentials.masked }

namespace Builder

theorem apply_masked (b : Builder) (s : BuildStep) :
    b.masked.apply s.masked = (b.apply s).masked := by
  cases s with
  | timeout ms =>
      simp only [BuildStep.masked, apply]
      split <;> rfl
  | _ => rfl

theorem applyAll_masked (b : Builder) (steps : List BuildStep) :
    b.masked.applyAll (steps.map BuildStep.masked) = (b.applyAll steps).masked := by
  induction steps generalizing b with
  | nil => rfl
  | cons s steps ih =>
      show (b.masked.apply s.masked).applyAll (steps.map BuildStep.masked) = _
      rw [apply_masked]
      exact ih (b.apply s)

theorem build_masked (b : Builder) (context : Context) :
    b.masked.build context.masked =
      (b.build context).map fun (client, context) => (client, context.masked) := by
  obtain ⟨config, credentials⟩ := b
  unfold build assemble masked
  cases Client.ofConfig config with
  | error f => rfl
  | ok client => cases credentials <;> rfl

end Builder

namespace Session

theorem build_masked (builders : List Builder) (context : Context) :
    build (builders.map Builder.masked) context.masked =
      (build builders context).map fun (clients, context) => (clients, context.masked) := by
  induction builders generalizing context with
  | nil => rfl
  | cons b builders ih =>
      simp only [List.map_cons, build, Builder.build_masked, bind, Except.bind]
      cases b.build context with
      | error f => rfl
      | ok built =>
          simp only [Except.map, ih]
          cases build builders built.2 <;> rfl

/-- A session from its start: every client begins with some settings and takes steps, and all are
built in one fresh context. It shows the clients and the steps of its actions. -/
def play (setups : List (Builder × List BuildStep)) (actions : List Action) (link : Link) :
    Except Failure (List Client × List Step) := do
  let (clients, context) ← build (setups.map fun (b, steps) => b.applyAll steps) .empty
  .ok (clients, (run actions { World.ofLink link with context }).1)

/-- Both fail in the same way, or have the same clients and steps that are alike. -/
inductive Alike :
    Except Failure (List Client × List Step) → Except Failure (List Client × List Step) → Prop where
  | failed (f : Failure) : Alike (.error f) (.error f)
  | played (clients : List Client) {steps steps' : List Step}
      (steps_alike : List.Forall₂ Step.Alike steps steps') :
      Alike (.ok (clients, steps)) (.ok (clients, steps'))

def maskedSetups (setups : List (Builder × List BuildStep)) : List (Builder × List BuildStep) :=
  setups.map fun (b, steps) => (b.masked, steps.map BuildStep.masked)

theorem builders_masked (setups : List (Builder × List BuildStep)) :
    (setups.map fun (b, steps) => b.applyAll steps).map Builder.masked =
      (maskedSetups setups).map fun (b, steps) => b.applyAll steps := by
  simp only [maskedSetups, List.map_map]
  apply List.map_congr_left
  intro (b, steps) _
  exact (b.applyAll_masked steps).symm

theorem play_alike {setups setups' : List (Builder × List BuildStep)} {actions actions' : List Action}
    (hs : maskedSetups setups = maskedSetups setups')
    (ha : actions.map Action.masked = actions'.map Action.masked) (link : Link) :
    Alike (play setups actions link) (play setups' actions' link) := by
  have hb := build_masked (setups.map fun (b, steps) => b.applyAll steps) .empty
  have hb' := build_masked (setups'.map fun (b, steps) => b.applyAll steps) .empty
  -- The masked setups are the same, so both builds have the same image under the mask.
  rw [builders_masked] at hb hb'
  rw [hs, hb'] at hb
  unfold play
  rcases map_eq_map_cases hb.symm with ⟨f, hx, hy⟩ | ⟨⟨clients, context⟩, ⟨_, context'⟩, hx, hy, hxy⟩
  · rw [hx, hy]
    exact .failed f
  · rw [hx, hy]
    obtain ⟨rfl, hc⟩ := Prod.mk.inj hxy
    exact .played clients (run_alike ha ⟨hc, rfl, rfl, rfl⟩)

end Session

/-! ## The console -/

def Environment.masked (env : Environment) : Environment :=
  env.map fun (name, value) => (name, if name = "MOTION_PASSWORD" then "" else value)

theorem Environment.lookup_masked (env : Environment) (name : String) :
    env.masked.lookup name =
      (env.lookup name).map fun value => if name = "MOTION_PASSWORD" then "" else value := by
  induction env with
  | nil => rfl
  | cons entry env ih =>
      obtain ⟨key, value⟩ := entry
      by_cases h : name = key
      · subst h
        simp [masked]
      · have hne : (name == key) = false := by simpa using h
        simp only [masked, List.map_cons, List.lookup_cons, hne]
        exact ih

theorem Environment.lookup_masked_of_ne (env : Environment) {name : String}
    (h : name ≠ "MOTION_PASSWORD") : env.masked.lookup name = env.lookup name := by
  rw [lookup_masked]
  simp [h]

theorem ClientConfig.ofEnvironment_masked (env : Environment) :
    ofEnvironment env.masked = ofEnvironment env := by
  simp [ofEnvironment, numberVariable, Environment.lookup_masked_of_ne]

theorem Builder.ofEnvironment_masked (env : Environment) :
    ofEnvironment env.masked = (ofEnvironment env).masked := by
  simp only [ofEnvironment, masked, ClientConfig.ofEnvironment_masked, Environment.lookup_masked]
  cases env.lookup "MOTION_USER" with
  | none => rfl
  | some user =>
      cases env.lookup "MOTION_PASSWORD" with
      | none => rfl
      | some password =>
          by_cases h : user = "" <;> simp [h, Credentials.masked]

def Options.masked (o : Options) : Options :=
  { o with password := o.password.map fun _ => "" }

/-- The value of every option for a password is covered, and nothing behind the options. -/
def maskedArguments : List String → List String
  | [] => []
  | [name] => [name]
  | name :: value :: rest =>
    if name = "--password" then name :: "" :: maskedArguments rest
    else if Options.isOption name then name :: value :: maskedArguments rest
    else name :: value :: rest

theorem Options.read_masked (o : Options) (args : List String) :
    o.masked.read (maskedArguments args) =
      (o.read args).map fun (o, rest) => (o.masked, rest) := by
  induction args using maskedArguments.induct generalizing o with
  | case1 => rfl
  | case2 name =>
      simp only [maskedArguments, read]
      split <;> rfl
  | case3 value rest ih =>
      simp only [maskedArguments, ↓reduceIte, read, set?]
      exact ih { o with password := some value }
  | case4 name value rest hp ho ih =>
      simp only [maskedArguments, hp, ho, ↓reduceIte, read, set?]
      by_cases hu : name = "--url"
      · simp only [hu, ↓reduceIte]
        exact ih { o with url := some value }
      · have hn : name = "--user" := by simpa [isOption, hu, hp] using ho
        simp only [hn]
        exact ih { o with user := some value }
  | case5 name value rest hp ho =>
      have hs : ∀ o : Options, o.set? name value = none := by
        intro o
        simp only [isOption, Bool.or_eq_true, decide_eq_true_eq, not_or] at ho
        simp only [set?, ho, ↓reduceIte]
      simp only [maskedArguments, hp, ho, Bool.false_eq_true, ↓reduceIte, read, hs]
      rfl

namespace Console

theorem builder_masked (env : Environment) (o : Options) :
    builder env.masked o.masked = (builder env o).masked := by
  unfold builder
  rw [Builder.ofEnvironment_masked, ← Builder.applyAll_masked]
  congr 1
  simp only [Options.masked]
  cases o.url <;> cases o.user <;> cases o.password <;> rfl

theorem prime_alike (c : Client) (h : w.Alike w') : (prime c w).Alike (prime c w') := by
  unfold prime
  refine Agree.elim (c.daemonConfig_agree h) fun result v v' hv => ?_
  cases result with
  | error failure => exact hv.note _
  | ok config => exact hv

theorem operate_agree (o : Operation) (c : Client) (h : w.Alike w') :
    Agree (operate o c w) (operate o c w') := by
  unfold operate
  split
  · exact o.perform_agree c (prime_alike c h)
  · exact o.perform_agree c h

theorem dispatch_agree (c : Client) (command : String) (args : List String) (h : w.Alike w') :
    Agree (dispatch c command args w) (dispatch c command args w') := by
  unfold dispatch
  cases Operation.ofCommand command args with
  | error fault => exact ⟨rfl, h⟩
  | ok o => exact (operate_agree o c h).map _

theorem report_alike (id : Nat) (h : w.Alike w') : (report id w).Alike (report id w') := by
  unfold report
  rw [h.channel]
  exact (h.withContext (Context.masked_withChannel h.context _)).notes _

theorem runCommand_agree {env env' : Environment} {o o' : Options}
    (hb : (builder env o).masked = (builder env' o').masked) (command : String)
    (args : List String) (link : Link) :
    Agree (runCommand env o command args link) (runCommand env' o' command args link) := by
  have hbuild := (builder env o).build_masked .empty
  rw [hb, Builder.build_masked] at hbuild
  unfold runCommand
  dsimp only [World.ofLink]
  rcases map_eq_map_cases hbuild.symm with ⟨f, hx, hy⟩ | ⟨⟨c, context⟩, ⟨_, context'⟩, hx, hy, hxy⟩
  · rw [hx, hy]
    exact ⟨rfl, .refl _⟩
  · rw [hx, hy]
    obtain ⟨rfl, hc⟩ := Prod.mk.inj hxy
    have hch : context.channel = context'.channel :=
      show context.masked.channel = context'.masked.channel by rw [hc]
    dsimp only
    rw [hch]
    have hw := (World.Alike.refl (World.ofLink link)).withContext
      (Context.masked_withChannel hc context'.channel.subscribe.2)
    obtain ⟨hr, hd⟩ := dispatch_agree c command args hw
    exact ⟨hr, report_alike _ hd⟩

theorem filter_masked (env : Environment) :
    LogFilter.ofEnvironment env.masked = LogFilter.ofEnvironment env := by
  unfold LogFilter.ofEnvironment
  rw [env.lookup_masked_of_ne (by decide)]

theorem run_masked_congr {env env' : Environment} {args args' : List String}
    (he : env.masked = env'.masked) (ha : maskedArguments args = maskedArguments args')
    (link : Link) :
    (run env args link).exit = (run env' args' link).exit ∧
      (run env args link).stdout = (run env' args' link).stdout ∧
      (run env args link).stderr = (run env' args' link).stderr ∧
      (run env args link).world.journal.log = (run env' args' link).world.journal.log := by
  have hlog : logText env = logText env' := by
    unfold logText
    rw [← filter_masked env, he, filter_masked]
  have hread := Options.read_masked {} args
  rw [ha, Options.read_masked] at hread
  unfold run
  rcases map_eq_map_cases hread.symm with ⟨fault, hx, hy⟩ | ⟨⟨o, rest⟩, ⟨o', _⟩, hx, hy, hxy⟩
  · rw [hx, hy]
    exact ⟨rfl, rfl, rfl, rfl⟩
  obtain ⟨ho, rfl⟩ := Prod.mk.inj hxy
  rw [hx, hy]
  cases rest with
  | nil => exact ⟨rfl, rfl, rfl, rfl⟩
  | cons command rest =>
      have hb : (builder env o).masked = (builder env' o').masked := by
        rw [← builder_masked, ← builder_masked, he, ho]
      have hrun := runCommand_agree hb command rest link
      dsimp only
      split
      · exact ⟨rfl, rfl, rfl, rfl⟩
      split
      · exact ⟨rfl, rfl, rfl, rfl⟩
      generalize runCommand env o command rest link = x,
        runCommand env' o' command rest link = y at hrun
      refine Agree.elim hrun fun result v v' hv => ?_
      have hl : v.journal.log = v'.journal.log :=
        show v.journal.masked.log = v'.journal.masked.log by rw [hv.journal]
      cases result with
      | ok answer =>
          dsimp only
          rw [hlog, hl]
          exact ⟨rfl, rfl, rfl, rfl⟩
      | error trouble =>
          dsimp only
          rw [hlog, hl]
          exact ⟨rfl, rfl, rfl, rfl⟩

end Console

/-! ## Main statement -/

/-- Two sessions that differ in passwords only go the same way: step by step they have the same
results, times, log, token, events and descriptions, and send the same requests but for the values of
authorization headers. Two runs of the console that differ in passwords only have the same exit code,
the same standard output and the same log, with events of every level; and whatever filter the
environment sets for the log, the program's own lines on the error output are the same. Lines that
the libraries beneath the program log are not spoken of. -/
theorem passwords_never_show (link : Link) :
    (∀ (setups setups' : List (Builder × List BuildStep)) (actions actions' : List Action),
      Session.maskedSetups setups = Session.maskedSetups setups' →
      actions.map Action.masked = actions'.map Action.masked →
      Session.Alike (Session.play setups actions link) (Session.play setups' actions' link)) ∧
    ∀ (env env' : Environment) (args args' : List String),
      env.masked = env'.masked → maskedArguments args = maskedArguments args' →
      (Console.run env args link).exit = (Console.run env' args' link).exit ∧
        (Console.run env args link).stdout = (Console.run env' args' link).stdout ∧
        (Console.run env args link).stderr = (Console.run env' args' link).stderr ∧
        (Console.run env args link).world.journal.log =
          (Console.run env' args' link).world.journal.log := by
  constructor
  · intro setups setups' actions actions' hs ha
    exact Session.play_alike hs ha link
  · intro env env' args args' he ha
    exact Console.run_masked_congr he ha link

/-- A session that logs in and deletes a picture, with these passwords. -/
def Session.guarded (first second : String) : List (Builder × List BuildStep) × List Action :=
  ([(.default, [.maxRetries 0, .basicAuth ⟨"admin", first⟩])],
    [.login Client.onLocalhost ⟨"admin", second⟩,
      .operate Client.onLocalhost (.deletePicture 1 7)])

/-- A run of the console with this password, in an environment with another one that shows all of
the log. -/
def Console.guarded (password other : String) : Environment × List String :=
  ([("MOTION_PASSWORD", other), ("RUST_LOG", "Debug")],
    ["--user", "admin", "--password", password, "auth"])

/-- The passwords are sent, and still do not show, though the log does. -/
theorem passwords_sent_never_show :
    let link : Link := ⟨.direct, [{ body := Text.bytes "\x7b\x7d" }, {}]⟩
    let x := Session.guarded "one" "two"
    let y := Session.guarded "three" "four"
    let u := Console.guarded "one" "two"
    let v := Console.guarded "three" "four"
    (Session.maskedSetups x.1 = Session.maskedSetups y.1 ∧
      x.2.map Action.masked = y.2.map Action.masked ∧
      (Session.play x.1 x.2 link).map (fun p => p.2.map (·.journal.sent)) ≠
        (Session.play y.1 y.2 link).map (fun p => p.2.map (·.journal.sent)) ∧
      Session.Alike (Session.play x.1 x.2 link) (Session.play y.1 y.2 link)) ∧
    (u.1.masked = v.1.masked ∧ maskedArguments u.2 = maskedArguments v.2 ∧
      (Console.run u.1 u.2 link).world.journal.sent ≠ (Console.run v.1 v.2 link).world.journal.sent ∧
      (Console.run u.1 u.2 link).world.journal.log.map (LogFilter.ofEnvironment u.1).shows =
        [true, true] ∧
      (Console.run u.1 u.2 link).exit = (Console.run v.1 v.2 link).exit ∧
      (Console.run u.1 u.2 link).stdout = (Console.run v.1 v.2 link).stdout ∧
      (Console.run u.1 u.2 link).stderr = (Console.run v.1 v.2 link).stderr ∧
      (Console.run u.1 u.2 link).world.journal.log = (Console.run v.1 v.2 link).world.journal.log) := by
  intro link x y u v
  have hs : Session.maskedSetups x.1 = Session.maskedSetups y.1 := by decide +kernel
  have ha : x.2.map Action.masked = y.2.map Action.masked := by decide +kernel
  have he : u.1.masked = v.1.masked := by decide +kernel
  have hargs : maskedArguments u.2 = maskedArguments v.2 := by decide +kernel
  obtain ⟨session, console⟩ := passwords_never_show link
  exact ⟨⟨hs, ha, by decide +kernel, session _ _ _ _ hs ha⟩,
    ⟨he, hargs, by decide +kernel, by decide +kernel, console _ _ _ _ he hargs⟩⟩

end CameraConsole
