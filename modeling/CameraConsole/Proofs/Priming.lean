import CameraConsole.Proofs.ConfigReaders
import CameraConsole.Proofs.ConsoleRuns
import CameraConsole.Proofs.Delivery
import CameraConsole.Proofs.ResourceUrls
import CameraConsole.Proofs.UnsendableToken

/-!
# Priming

A command that changes something fetches the configuration first, for the token that may come with
it. Beyond the token and the replies it uses up, this makes no difference to what the command shows.
-/

namespace CameraConsole

/-! ## What a result depends on -/

theorem World.Akin.trans {u v w : World} (h : u.Akin v) (h' : v.Akin w) : u.Akin w where
  context := ⟨h.context.token.trans h'.context.token,
    h.context.credentials.trans h'.context.credentials⟩
  link := h.link.trans h'.link

theorem Operation.perform_akin (o : Operation) (c : Client) {v w : World} (h : v.Akin w) :
    (o.perform c v).1 = (o.perform c w).1 := by
  rw [o.perform_result, o.perform_result, (c.run_akin h o.request).1]

namespace Client

variable {c : Client} {w : World}

theorem daemonConfig_akin {v w : World} (h : v.Akin w) :
    (c.daemonConfig v).2.Akin (c.daemonConfig w).2 := by
  obtain ⟨hr, hw⟩ := c.run_akin h (read .config)
  have he : (c.daemonConfig v).1 = (c.daemonConfig w).1 := by
    rw [daemonConfig_result, daemonConfig_result, fetch_result, fetch_result, hr]
  rw [daemonConfig_world, daemonConfig_world, he]
  exact hw.keep _

/-! ## The first attempt -/

theorem Takes.head?_attempts {context : Context} {left : Nat} {r : Request} {link : Link}
    {course : Course} (h : c.Takes context left r link course) :
    course.attempts.head? = some (c.trial r context link) := by
  cases h with
  | forbidden ha _ | settled ha _ _ | retry ha _ _ => rw [ha]; rfl

/-- An answer comes only to a call whose first attempt was sent. -/
theorem sent_of_run_ok {r : Request} {v : Json} (h : (c.run r w).1 = .ok v) :
    (c.exchange (r.dispatch w.context) w.link).sent ≠ [] := by
  intro hs
  obtain ⟨f, ho⟩ := exchange_unsent hs
  have ho' : (c.trial r w.context w.link).exchange.outcome = .error f := ho
  rw [c.run_result, (c.course_takes r w).eq_of_unanswered ho'] at h
  simp only [Course.result, Attempt.result, ho'] at h
  cases h

theorem sends_iff {raw : String} (hb : baseUrl raw = .ok c.base) {d : Dispatch} {x : Resource}
    (hd : d.endpoint = x.endpoint) {link : Link} :
    (c.exchange d link).sent ≠ [] ↔
      link.route = .direct ∧ c.base.hostIsPlain ∧ ∀ token ∈ d.token, ¬ Text.Unsendable token := by
  have hu : c.resolve d.endpoint = .ok (c.urlOf x) := by
    rw [hd]
    exact (grounded_of_baseUrl hb).resolve_eq x
  have hh : (c.urlOf x).isHttp := by
    show c.base.isHttp
    simp only [Url.isHttp, Bool.or_eq_true, decide_eq_true_eq]
    exact baseUrl_scheme hb
  exact (sent_ne_nil_iff hu hh).trans Iff.rfl

theorem daemonConfig_route : (c.daemonConfig w).2.link.route = w.link.route := by
  rw [daemonConfig_world, World.keep_link, run_eq]
  rfl

theorem daemonConfig_credentials :
    (c.daemonConfig w).2.context.credentials = w.context.credentials := by
  rw [daemonConfig_world, World.keep_credentials, run_context]
  rfl

theorem daemonConfig_keeps_token {config : DaemonConfig} (hc : (c.daemonConfig w).1 = .ok config)
    {token : String} (ht : config.csrfToken = some token) (hne : token ≠ "") :
    (c.daemonConfig w).2.context.token = some token := by
  have hk : (c.daemonConfig w).1.toOption.bind DaemonConfig.token? = some token := by
    rw [hc]
    exact DaemonConfig.token?_eq_some_iff.mpr ⟨ht, hne⟩
  rw [daemonConfig_world, hk, World.keep_token]
  · rfl
  · intro t hm
    cases hm
    exact hne

/-- A sendable token that comes with the configuration is in the first message of whatever changes
something next: the daemon that sent it can be reached for that, too. -/
theorem primed_opening {raw : String} (hb : baseUrl raw = .ok c.base) {config : DaemonConfig}
    (hc : (c.daemonConfig w).1 = .ok config) {token : String}
    (ht : config.csrfToken = some token) (hne : token ≠ "") (hs : ¬ Text.Unsendable token)
    {o : Operation} (ho : o.mutating) {v : World} (hv : v.context = (c.daemonConfig w).2.context)
    (hl : v.link = (c.daemonConfig w).2.link) :
    ∃ a m, (c.course o.request v).attempts.head? = some a ∧ a.exchange.sent.head? = some m ∧
      m.method = o.request.method ∧ m.headers.csrfToken = [token] := by
  have hfetch : (c.run (read .config) w).1.bind (payloadOf DaemonConfig.codec) = .ok config := by
    rw [← fetch_result, ← daemonConfig_result, hc]
  obtain ⟨body, hrun, _⟩ := bind_eq_ok_iff.mp hfetch
  -- The route and the host are those of every request, so one that was sent vouches for the next.
  obtain ⟨hroute, hplain, _⟩ := (sends_iff hb (x := .config) rfl).mp (sent_of_run_ok hrun)
  have hm : o.request.method.mutating = true := o.request_mutating.trans ho
  have hd : (o.request.dispatch v.context).token = some token := by
    simp only [Request.dispatch, Context.tokenFor, hm, ↓reduceIte, hv,
      daemonConfig_keeps_token hc ht hne]
  have hsent : (c.exchange (o.request.dispatch v.context) v.link).sent ≠ [] := by
    refine (sends_iff hb (x := o.resource) o.request_endpoint).mpr ⟨?_, hplain, ?_⟩
    · rw [hl, daemonConfig_route, hroute]
    · rw [hd]
      intro t he
      cases he
      exact hs
  obtain ⟨m, hhead⟩ := Option.ne_none_iff_exists'.mp (mt List.head?_eq_none_iff.mp hsent)
  refine ⟨_, m, (c.course_takes o.request v).head?_attempts, hhead, ?_, ?_⟩
  · exact message_method (head?_exchange_iff.mp hhead).2
  · rw [exchange_csrfToken (List.mem_of_mem_head? hhead), hd]
    rfl

end Client

/-! ## Runs -/

namespace Console

/-- The run shows what an operation gave: an answer, or a failure in the last line of its errors. -/
inductive Outcome.Shows (env : Environment) (out : Outcome) : Except Failure Answer → Prop where
  | answer {x : Answer} (exit : out.exit = 0)
      (stdout : out.stdout = x.toJson.renderIndented ++ "\n")
      (stderr : out.stderr = logText env out.world.journal.log) : Shows env out (.ok x)
  | failure {f : Failure} (exit : out.exit = 1) (stdout : out.stdout = "")
      (stderr : out.stderr =
        logText env out.world.journal.log ++ ("Error: " ++ f.userMessage ++ "\n")) :
      Shows env out (.error f)

theorem conclude_shows (env : Environment) (result : Except Failure Answer) (w : World) :
    (conclude env (result.mapError .failure) w).Shows env result := by
  cases result with
  | ok x => exact .answer rfl rfl rfl
  | error f => exact .failure rfl rfl rfl

theorem prime_akin (c : Client) (w : World) : (prime c w).Akin (c.daemonConfig w).2 := by
  unfold prime
  rcases c.daemonConfig w with ⟨_ | _, _⟩ <;> exact ⟨⟨rfl, rfl⟩, rfl⟩

variable {env : Environment} {c : Client} {context : Context}

/-- A command that changes something has the result that its operation has alone, in a world with the
context and the link that the configuration left. -/
theorem operate_primed (o : Operation) (ho : o.mutating) (context : Context) (link : Link) :
    let config := c.daemonConfig { context, link }
    let alone := o.perform c config.2.freshJournal
    (operate o c (listening context link)).1 = alone.1 ∧
      (operate o c (listening context link)).2.journal.attempts =
        config.2.journal.attempts ++ alone.2.journal.attempts := by
  intro config alone
  -- The subscriber of the run and the note about a failed fetch are nothing that a call looks at.
  have fresh : (listening context link).Akin { context, link } := ⟨⟨rfl, rfl⟩, rfl⟩
  have primed : (prime c (listening context link)).Akin config.2.freshJournal :=
    (prime_akin c _).trans ((Client.daemonConfig_akin fresh).trans ⟨⟨rfl, rfl⟩, rfl⟩)
  constructor
  · unfold operate
    rw [if_pos ho]
    exact o.perform_akin c primed
  · have hconfig : config.2.journal.attempts = _ := Client.daemonConfig_attempts
    have halone : alone.2.journal.attempts = _ := o.perform_attempts c config.2.freshJournal
    rw [operate_attempts, if_pos ho, c.course_akin primed, c.course_akin fresh, hconfig, halone]
    rfl

theorem carryOut_shows {o : Operation} (ho : o.mutating) (env : Environment) (context : Context)
    (link : Link) :
    (carryOut env c context o link).Shows env
      (o.perform c (c.daemonConfig { context, link }).2.freshJournal).1 := by
  rw [← (operate_primed o ho context link).1]
  exact conclude_shows ..

/-- A command that changes something, with arguments that are right for it, shows what its operation
gives alone in the context and with the replies that fetching the configuration left, and makes the
attempts of both. How the fetch ended does not show: with another link that leaves the same token and
the same link, the command shows the same. A sendable token that was fetched is in the first message
of the operation. -/
theorem priming_transparent (env : Environment) {given : List (String × String)}
    (options : ∀ x ∈ given, Options.isOption x.1) {command : String}
    (changes : command ∈ Operation.changingCommands) {args : List String}
    (used : ¬ Misused command args)
    (built : (builder env (.ofGiven given)).build .empty = .ok (c, context)) (link : Link) :
    ∃ o, Operation.ofCommand command args = .ok o ∧
      let out := run env (Options.words given ++ command :: args)
      let config := fun link => c.daemonConfig { context, link }
      let alone := o.perform c (config link).2.freshJournal
      (out link).Shows env alone.1 ∧
      (out link).world.journal.attempts =
        (config link).2.journal.attempts ++ alone.2.journal.attempts ∧
      alone.2.journal.attempts ≠ [] ∧
      (∀ link', (config link').2.context.token = (config link).2.context.token →
        (config link').2.link = (config link).2.link → (out link').Shows env alone.1) ∧
      ∀ daemon token, (config link).1 = .ok daemon → daemon.csrfToken = some token → token ≠ "" →
        ¬ Text.Unsendable token →
        ∃ a m, alone.2.journal.attempts.head? = some a ∧ a.exchange.sent.head? = some m ∧
          m.method = o.request.method ∧ m.headers.csrfToken = [token] := by
  obtain ⟨o, ho⟩ := isOk_iff_exists.mp ((isOk_ofCommand_iff command args).mpr used)
  have hm : o.mutating := (Operation.ofCommand_mutating ho).trans (decide_eq_true changes)
  have carried := run_carryOut options (Operation.not_isOption_of_changes changes)
    (not_tells_of_changes changes) built ho
  have hb := Client.ofConfig_base (Builder.build_eq_ok built).1
  refine ⟨o, ho, ?_⟩
  intro out config alone
  have kept (link : Link) : (config link).2.context.credentials = context.credentials :=
    Client.daemonConfig_credentials
  have attempts : alone.2.journal.attempts = (c.course o.request _).attempts :=
    (o.perform_attempts c _).trans (List.nil_append _)
  refine ⟨?_, ?_, ?_, fun link' ht hl => ?_, fun daemon token hc htoken hne hs => ?_⟩
  · rw [show out link = _ from carried link]
    exact carryOut_shows hm env context link
  · rw [show out link = _ from carried link, carryOut, conclude_world, report_eq]
    exact (operate_primed o hm context link).2
  · rw [attempts]
    exact Client.course_attempts_ne_nil
  · have same : (o.perform c (config link').2.freshJournal).1 = alone.1 :=
      o.perform_akin c ⟨⟨ht, (kept link').trans (kept link).symm⟩, hl⟩
    rw [show out link' = _ from carried link', ← same]
    exact carryOut_shows hm env context link'
  · rw [attempts]
    exact Client.primed_opening hb hc htoken hne hs hm rfl rfl

/-- A daemon that has a token, but demands authentication for everything else. -/
def demanding : Link :=
  ⟨.direct, [{ body := Text.bytes "\x7b\"csrf_token\":\"abc\"\x7d" }, { status := 401 }]⟩

theorem priming_transparent_demanding :
    let c := Client.onLocalhost
    let config := c.daemonConfig { context := .empty, link := demanding }
    let alone := Operation.reboot.perform c config.2.freshJournal
    let given := [("--url", "http://localhost:8080")]
    (∀ x ∈ given, Options.isOption x.1) ∧ "reboot" ∈ Operation.changingCommands ∧
      ¬ Misused "reboot" [] ∧ (builder [] (.ofGiven given)).build .empty = .ok (c, .empty) ∧
      config.1.toOption.bind DaemonConfig.csrfToken = some "abc" ∧ ¬ Text.Unsendable "abc" ∧
      alone.1 = .error .authenticationRequired ∧
      (run [] ["--url", "http://localhost:8080", "reboot"] demanding).Shows [] alone.1 ∧
      ∃ a m, alone.2.journal.attempts.head? = some a ∧ a.exchange.sent.head? = some m ∧
        m.method = .post ∧ m.headers.csrfToken = ["abc"] := by
  intro c config alone given
  have options : ∀ x ∈ given, Options.isOption x.1 := by decide
  have changes : "reboot" ∈ Operation.changingCommands := by decide
  have used : ¬ Misused "reboot" [] := (isOk_ofCommand_iff "reboot" []).mp rfl
  have built : (builder [] (.ofGiven given)).build .empty = .ok (c, .empty) := by decide +kernel
  have fetched : config.1.toOption.bind DaemonConfig.csrfToken = some "abc" := by decide +kernel
  have sendable : ¬ Text.Unsendable "abc" := by decide
  obtain ⟨o, ho, shows, _, _, _, first⟩ :=
    priming_transparent [] options changes used built demanding
  have hreboot : Operation.reboot = o := Except.ok.inj ho
  subst hreboot
  obtain ⟨daemon, hd, ht⟩ := Option.bind_eq_some_iff.mp fetched
  exact ⟨options, changes, used, built, fetched, sendable, by decide +kernel, shows,
    first daemon "abc" (toOption_eq_some_iff.mp hd) ht (by decide) sendable⟩

end Console

end CameraConsole
