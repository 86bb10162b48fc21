import CameraConsole.Console.Run
import CameraConsole.Proofs.Actions
import CameraConsole.Proofs.Attempts
import CameraConsole.Proofs.CommandLine
import CameraConsole.Proofs.TokenSlot

/-!
# Runs of the console

A run stays idle, or it performs the operation of its command with a client of its own. An idle run
leaves the daemon alone. Any other run succeeds with an output, or fails without one.
-/

namespace CameraConsole

/-! ## Calls -/

namespace Client

variable {c : Client} {r : Request} {w : World}

theorem length_read_le (hr : r.method.mutating = false) :
    (c.course r w).attempts.length ≤ c.config.maxRetries + 1 := by
  have ht := c.course_takes r w
  have hl := ht.retried_length_le
  simp only [Course.attempts, ht.recovery_of_read hr, Option.map_none, Option.getD_none,
    List.length_append, List.length_singleton]
  omega

theorem length_course_le : (c.course r w).attempts.length ≤ c.config.maxRetries + 3 := by
  have hl := (c.course_takes r w).length_attempts_le
  omega

theorem course_attempts_ne_nil : (c.course r w).attempts ≠ [] := by
  simp [Course.attempts]

theorem dispatch_of_read (hr : r.method.mutating = false) {a : Attempt}
    (ha : a ∈ (c.course r w).attempts) : a.dispatch = r.dispatch w.context := by
  have ht := c.course_takes r w
  simp only [Course.attempts, ht.recovery_of_read hr, Option.map_none, Option.getD_none,
    List.mem_append, List.mem_singleton] at ha
  rcases ha with ha | rfl
  · exact (ht.retried_transient a ha).1
  · exact ht.main_dispatch

theorem daemonConfig_attempts : (c.daemonConfig w).2.journal.attempts =
    w.journal.attempts ++ (c.course (read .config) w).attempts := by
  rw [daemonConfig_world, World.keep_journal, run_attempts]

end Client

namespace Operation

variable (o : Operation) (c : Client) (w : World)

theorem request_mutating : o.request.method.mutating = o.mutating := by
  cases o <;> rfl

theorem request_get {o : Operation} (h : o.mutating = false) : o.request.method = .get := by
  cases o with
  | setParameter | patchConfig | deletePicture | deleteMovie | reboot | shutdown => cases h
  | _ => rfl

theorem perform_attempts : (o.perform c w).2.journal.attempts =
    w.journal.attempts ++ (c.course o.request w).attempts := by
  rw [perform_world, World.keep_journal, c.run_attempts]

end Operation

/-- Just what the attempts sent was sent. -/
def Journal.Accounts (j : Journal) : Prop :=
  j.sent = j.attempts.flatMap (·.exchange.sent)

theorem Client.run_accounts {c : Client} {r : Request} {w : World} (h : w.journal.Accounts) :
    (c.run r w).2.journal.Accounts := by
  rw [Journal.Accounts, run_sent, run_attempts, List.flatMap_append, ← h]

/-! ## Clients of the console -/

theorem Client.ofConfig_config {config : ClientConfig} {c : Client} (h : ofConfig config = .ok c) :
    c.config = config := by
  obtain ⟨base, _, h⟩ := bind_eq_ok_iff.mp h
  split at h
  · cases h; rfl
  · split at h
    · cases h; rfl
    · cases h

namespace Console

variable {env : Environment} {o : Options} {c : Client} {context : Context}

theorem builder_maxRetries (env : Environment) (o : Options) :
    (builder env o).config.maxRetries = 1 := by
  unfold builder
  cases o.url <;> cases o.user <;> rfl

theorem build_maxRetries (h : (builder env o).build .empty = .ok (c, context)) :
    c.config.maxRetries = 1 := by
  rw [Client.ofConfig_config (Builder.build_eq_ok h).1, builder_maxRetries]

/-! ## Parts of a run -/

/-- The world in which a command begins: one subscriber listens, and nothing happened yet. -/
def listening (context : Context) (link : Link) : World :=
  { context := { context with channel := context.channel.subscribe.2 }, link }

theorem notes_eq (es : List LogEvent) (w : World) :
    es.foldl World.note w = { w with journal := { w.journal with log := w.journal.log ++ es } } := by
  induction es generalizing w with
  | nil => rw [List.append_nil]; rfl
  | cons e es ih =>
      rw [List.foldl_cons, ih]
      simp only [World.note, List.append_assoc, List.singleton_append]

/-- A report adds to the log, and moves its subscriber on. -/
theorem report_eq (id : Nat) (w : World) :
    report id w =
      { w with
        context := { w.context with channel := (w.context.channel.drain id).2 }
        journal := { w.journal with
          log := w.journal.log ++ (w.context.channel.drain id).1.map warning } } := by
  unfold report
  dsimp only
  rw [notes_eq]
  rfl

theorem report_unheard {context : Context} (h : context.channel = .empty) (link : Link) :
    (report context.channel.nextId (listening context link)).journal = {} := by
  rw [report_eq]
  simp only [listening, h]
  rfl

theorem prime_attempts (c : Client) (w : World) :
    (prime c w).journal.attempts = (c.daemonConfig w).2.journal.attempts := by
  unfold prime
  rcases c.daemonConfig w with ⟨_ | _, _⟩ <;> rfl

theorem prime_accounts {w : World} (h : w.journal.Accounts) : (prime c w).journal.Accounts := by
  have hj : (c.daemonConfig w).2.journal.Accounts := by
    rw [c.daemonConfig_world, World.keep_journal]
    exact Client.run_accounts h
  unfold prime
  rcases hd : c.daemonConfig w with ⟨_ | _, _⟩
  · rw [hd] at hj; exact hj
  · rw [hd] at hj; exact hj

theorem operate_accounts (o : Operation) {w : World} (h : w.journal.Accounts) :
    (operate o c w).2.journal.Accounts := by
  unfold operate
  rw [o.perform_world, World.keep_journal]
  refine Client.run_accounts ?_
  split
  · exact prime_accounts h
  · exact h

/-- A read begins at once; a change after the configuration was fetched. -/
theorem operate_attempts (o : Operation) (c : Client) (w : World) :
    (operate o c w).2.journal.attempts = w.journal.attempts ++
      if o.mutating then
        (c.course (Client.read .config) w).attempts ++ (c.course o.request (prime c w)).attempts
      else (c.course o.request w).attempts := by
  unfold operate
  rw [o.perform_attempts]
  split
  · rw [prime_attempts, Client.daemonConfig_attempts, List.append_assoc]
  · rfl

/-! ## Runs -/

/-- The outcome of a run that got this far. -/
def conclude (env : Environment) (result : Except Trouble Answer) (w : World) : Outcome :=
  match result with
  | .ok answer =>
    { exit := 0, stdout := answer.toJson.renderIndented ++ "\n",
      stderr := logText env w.journal.log, world := w }
  | .error trouble =>
    { exit := 1, stdout := "", stderr := logText env w.journal.log ++ trouble.text, world := w }

/-- The commands that tell about the console itself. -/
def tellingCommands : List String :=
  ["version", "--version", "-V", "help", "--help", "-h"]

theorem not_tells_of_changes {command : String} (h : command ∈ Operation.changingCommands) :
    command ∉ tellingCommands := by
  revert command
  decide

variable {given : List (String × String)} {command : String}

theorem read_line (options : ∀ x ∈ given, Options.isOption x.1)
    (plain : ¬ Options.isOption command) (args : List String) :
    Options.read {} (Options.words given ++ command :: args) =
      .ok (.ofGiven given, command :: args) :=
  (Options.read_words options [] _).trans (Options.read_command plain _ args)

theorem run_told (env : Environment) (options : ∀ x ∈ given, Options.isOption x.1)
    (telling : command ∈ tellingCommands) (args : List String) (link : Link) :
    ∃ text, text ≠ "" ∧ run env (Options.words given ++ command :: args) link =
      { exit := 0, stdout := text, stderr := "", world := .ofLink link } := by
  have plain : ¬ Options.isOption command := by
    revert command
    decide
  unfold run
  rw [read_line options plain]
  dsimp only
  split
  · exact ⟨version, by decide, rfl⟩
  · rename_i hv
    have hh : command ∈ ["help", "--help", "-h"] :=
      (List.mem_append (s := ["version", "--version", "-V"]).mp telling).resolve_left hv
    rw [if_pos hh]
    exact ⟨usage, by simp [usage], rfl⟩

theorem run_command (options : ∀ x ∈ given, Options.isOption x.1)
    (plain : ¬ Options.isOption command) (telling : command ∉ tellingCommands)
    (args : List String) (link : Link) :
    run env (Options.words given ++ command :: args) link =
      conclude env (runCommand env (.ofGiven given) command args link).1
        (runCommand env (.ofGiven given) command args link).2 := by
  have hv : command ∉ ["version", "--version", "-V"] := fun h =>
    telling (List.mem_append (t := ["help", "--help", "-h"]).mpr (Or.inl h))
  have hh : command ∉ ["help", "--help", "-h"] := fun h =>
    telling (List.mem_append (s := ["version", "--version", "-V"]).mpr (Or.inr h))
  unfold run
  rw [read_line options plain]
  dsimp only
  rw [if_neg hv, if_neg hh]
  rcases runCommand env (.ofGiven given) command args link with ⟨_ | _, _⟩ <;> rfl

theorem runCommand_built (built : (builder env o).build .empty = .ok (c, context))
    (command : String) (args : List String) (link : Link) :
    runCommand env o command args link =
      ((dispatch c command args (listening context link)).1,
        report context.channel.nextId (dispatch c command args (listening context link)).2) := by
  unfold runCommand
  dsimp only [World.ofLink]
  rw [built]
  rfl

/-- The outcome of a run that performs an operation. -/
def carryOut (env : Environment) (c : Client) (context : Context) (o : Operation) (link : Link) :
    Outcome :=
  let x := operate o c (listening context link)
  conclude env (x.1.mapError .failure) (report context.channel.nextId x.2)

/-- Why a run leaves the daemon alone. -/
inductive Idle (env : Environment) : List String → Prop where
  | lacksValue {given : List (String × String)} {name : String}
      (options : ∀ x ∈ given, Options.isOption x.1) (option : Options.isOption name) :
      Idle env (Options.words given ++ [name])
  | noCommand {given : List (String × String)} (options : ∀ x ∈ given, Options.isOption x.1) :
      Idle env (Options.words given)
  | told {given : List (String × String)} {command : String} {args : List String}
      (options : ∀ x ∈ given, Options.isOption x.1) (telling : command ∈ tellingCommands) :
      Idle env (Options.words given ++ command :: args)
  | unbuilt {given : List (String × String)} {command : String} {args : List String} {f : Failure}
      (options : ∀ x ∈ given, Options.isOption x.1) (plain : ¬ Options.isOption command)
      (unbuilt : (builder env (.ofGiven given)).build .empty = .error f) :
      Idle env (Options.words given ++ command :: args)
  | misused {given : List (String × String)} {command : String} {args : List String}
      (options : ∀ x ∈ given, Options.isOption x.1) (plain : ¬ Options.isOption command)
      (misused : Misused command args) : Idle env (Options.words given ++ command :: args)

/-- The run succeeded with an output, or failed without one. -/
def Outcome.Decided (x : Outcome) : Prop :=
  (x.exit = 0 ∧ x.stdout ≠ "") ∨ (x.exit = 1 ∧ x.stdout = "")

theorem conclude_decided (env : Environment) (result : Except Trouble Answer) (w : World) :
    (conclude env result w).Decided := by
  cases result with
  | ok answer =>
      refine Or.inl ⟨rfl, fun h => ?_⟩
      have hl : _ ++ ['\n'] = [] := (String.toList_append ..).symm.trans (congrArg String.toList h)
      exact absurd hl (List.append_ne_nil_of_right_ne_nil _ nofun)
  | error trouble => exact Or.inr ⟨rfl, rfl⟩

theorem conclude_world (env : Environment) (result : Except Trouble Answer) (w : World) :
    (conclude env result w).world = w := by
  cases result <;> rfl

/-- The run is over before anything could happen. -/
structure Outcome.Unmoved (link : Link) (x : Outcome) : Prop where
  decided : x.Decided
  journal : x.world.journal = {}
  link : x.world.link = link

theorem runCommand_unbuilt {f : Failure} (unbuilt : (builder env o).build .empty = .error f)
    (command : String) (args : List String) (link : Link) :
    runCommand env o command args link = (.error (.failure f), .ofLink link) := by
  unfold runCommand
  dsimp only [World.ofLink]
  rw [unbuilt]

theorem run_told_unmoved (options : ∀ x ∈ given, Options.isOption x.1)
    (telling : command ∈ tellingCommands) (args : List String) (link : Link) :
    (run env (Options.words given ++ command :: args) link).Unmoved link := by
  obtain ⟨text, ht, hr⟩ := run_told env options telling args link
  rw [hr]
  exact ⟨Or.inl ⟨rfl, ht⟩, rfl, rfl⟩

theorem run_unbuilt_unmoved (options : ∀ x ∈ given, Options.isOption x.1)
    (plain : ¬ Options.isOption command) {f : Failure}
    (unbuilt : (builder env (.ofGiven given)).build .empty = .error f) (args : List String)
    (link : Link) : (run env (Options.words given ++ command :: args) link).Unmoved link := by
  by_cases telling : command ∈ tellingCommands
  · exact run_told_unmoved options telling args link
  · rw [run_command options plain telling, runCommand_unbuilt unbuilt]
    exact ⟨conclude_decided .., rfl, rfl⟩

theorem run_misused_unmoved (options : ∀ x ∈ given, Options.isOption x.1)
    (plain : ¬ Options.isOption command) {args : List String} (misused : Misused command args)
    (link : Link) : (run env (Options.words given ++ command :: args) link).Unmoved link := by
  cases built : (builder env (.ofGiven given)).build .empty with
  | error f => exact run_unbuilt_unmoved options plain built args link
  | ok x =>
      obtain ⟨c, context⟩ := x
      by_cases telling : command ∈ tellingCommands
      · exact run_told_unmoved options telling args link
      · cases ho : Operation.ofCommand command args with
        | ok o =>
            have hok : (Operation.ofCommand command args).isOk := by rw [ho]; rfl
            exact absurd misused ((isOk_ofCommand_iff command args).mp hok)
        | error fault =>
            -- The subscriber of a fresh context finds nothing to report.
            have hempty := (Builder.build_eq_ok built).2.2
            have hd : dispatch c command args (listening context link) =
                (.error (.usage fault), listening context link) := by
              unfold dispatch
              rw [ho]
            rw [run_command options plain telling, runCommand_built built, hd]
            refine ⟨conclude_decided .., ?_, ?_⟩
            · rw [conclude_world, report_unheard hempty]
            · rw [conclude_world, report_eq]
              rfl

/-- What can be seen wrong with a run in advance keeps it from doing anything. -/
theorem Idle.unmoved {args : List String} (h : Idle env args) (link : Link) :
    (run env args link).Unmoved link := by
  cases h with
  | @lacksValue given name options option =>
      have hr : Options.read {} (Options.words given ++ [name]) = .error (.missingValue name) := by
        refine (Options.read_words options [] [name]).trans ?_
        rw [Options.read, if_pos option]
      unfold run
      rw [hr]
      exact ⟨Or.inr ⟨rfl, rfl⟩, rfl, rfl⟩
  | @noCommand given options =>
      have hr : Options.read {} (Options.words given) = .ok (.ofGiven given, []) := by
        rw [← List.append_nil (Options.words given)]
        exact Options.read_words options [] []
      unfold run
      rw [hr]
      exact ⟨Or.inr ⟨rfl, rfl⟩, rfl, rfl⟩
  | told options telling => exact run_told_unmoved options telling _ link
  | unbuilt options plain unbuilt => exact run_unbuilt_unmoved options plain unbuilt _ link
  | misused options plain misused => exact run_misused_unmoved options plain misused link

theorem run_carryOut (options : ∀ x ∈ given, Options.isOption x.1)
    (plain : ¬ Options.isOption command) (telling : command ∉ tellingCommands)
    (built : (builder env (.ofGiven given)).build .empty = .ok (c, context)) {args : List String}
    {o : Operation} (ho : Operation.ofCommand command args = .ok o) (link : Link) :
    run env (Options.words given ++ command :: args) link = carryOut env c context o link := by
  rw [run_command options plain telling, runCommand_built built]
  unfold dispatch carryOut
  rw [ho]

/-- A run with a command is idle, or it carries out what the command asks for. -/
theorem run_line (env : Environment) (options : ∀ x ∈ given, Options.isOption x.1)
    (plain : ¬ Options.isOption command) (args : List String) :
    Idle env (Options.words given ++ command :: args) ∨
      ∃ c context o, (builder env (.ofGiven given)).build .empty = .ok (c, context) ∧
        Operation.ofCommand command args = .ok o ∧
        ∀ link, run env (Options.words given ++ command :: args) link =
          carryOut env c context o link := by
  by_cases telling : command ∈ tellingCommands
  · exact Or.inl (.told options telling)
  cases built : (builder env (.ofGiven given)).build .empty with
  | error f => exact Or.inl (.unbuilt options plain built)
  | ok x =>
      obtain ⟨c, context⟩ := x
      cases ho : Operation.ofCommand command args with
      | error fault =>
          refine Or.inl (.misused options plain (Classical.byContradiction fun h => ?_))
          have hok := (isOk_ofCommand_iff command args).mpr h
          rw [ho] at hok
          cases hok
      | ok o =>
          exact Or.inr ⟨c, context, o, rfl, rfl, run_carryOut options plain telling built ho⟩

/-! ## Attempts of a run -/

theorem carryOut_attempts (env : Environment) (c : Client) (context : Context) (o : Operation)
    (link : Link) :
    (carryOut env c context o link).world.journal.attempts =
      let w := listening context link
      if o.mutating then
        (c.course (Client.read .config) w).attempts ++ (c.course o.request (prime c w)).attempts
      else (c.course o.request w).attempts := by
  unfold carryOut
  rw [conclude_world, report_eq]
  exact (operate_attempts o c (listening context link)).trans (List.nil_append _)

theorem carryOut_accounts (env : Environment) (c : Client) (context : Context) (o : Operation)
    (link : Link) : (carryOut env c context o link).world.journal.Accounts := by
  unfold carryOut
  rw [conclude_world, report_eq]
  exact operate_accounts (w := listening context link) o rfl

theorem carryOut_attempts_ne_nil (env : Environment) (c : Client) (context : Context)
    (o : Operation) (link : Link) :
    (carryOut env c context o link).world.journal.attempts ≠ [] := by
  rw [carryOut_attempts]
  dsimp only
  split
  · exact List.append_ne_nil_of_left_ne_nil Client.course_attempts_ne_nil _
  · exact Client.course_attempts_ne_nil

theorem carryOut_reads {o : Operation} (ho : o.mutating = false) (hc : c.config.maxRetries = 1)
    (env : Environment) (context : Context) (link : Link) :
    let j := (carryOut env c context o link).world.journal
    j.attempts.length ≤ 2 ∧ (∀ a ∈ j.attempts, a.dispatch.method = .get) ∧
      ∀ m ∈ j.sent, m.method = .get := by
  intro j
  have hr : o.request.method.mutating = false := o.request_mutating.trans ho
  have hj : j.attempts = (c.course o.request (listening context link)).attempts := by
    refine (carryOut_attempts ..).trans ?_
    rw [ho]
    rfl
  have hget : ∀ a ∈ j.attempts, a.dispatch.method = .get := by
    intro a ha
    rw [hj] at ha
    rw [Client.dispatch_of_read hr ha]
    exact Operation.request_get ho
  refine ⟨?_, hget, fun m hm => ?_⟩
  · have hl := Client.length_read_le (c := c) (w := listening context link) hr
    rw [hc] at hl
    rw [hj]
    exact hl
  · rw [show j.sent = _ from carryOut_accounts .., List.mem_flatMap] at hm
    obtain ⟨a, ha, hm⟩ := hm
    have hs := (c.course_takes o.request (listening context link)).serves
    obtain ⟨link', hx⟩ := hs.exchange_of_mem (hj ▸ ha)
    rw [hx] at hm
    exact Client.exchange_get (hget a ha) m hm

theorem carryOut_changes {o : Operation} (ho : o.mutating) (hc : c.config.maxRetries = 1)
    (env : Environment) (context : Context) (link : Link) :
    (carryOut env c context o link).world.journal.attempts.length ≤ 6 := by
  rw [carryOut_attempts]
  dsimp only
  rw [if_pos ho, List.length_append]
  have hconfig := Client.length_read_le (c := c) (r := Client.read .config)
    (w := listening context link) rfl
  have hchange := Client.length_course_le (c := c) (r := o.request)
    (w := prime c (listening context link))
  omega

theorem run_reads (env : Environment) (options : ∀ x ∈ given, Options.isOption x.1)
    (reads : command ∈ Operation.readingCommands) (args : List String) (link : Link) :
    let j := (run env (Options.words given ++ command :: args) link).world.journal
    j.attempts.length ≤ 2 ∧ (∀ a ∈ j.attempts, a.dispatch.method = .get) ∧
      ∀ m ∈ j.sent, m.method = .get := by
  intro j
  rcases run_line env options (Operation.not_isOption_of_reads reads) args with
    h | ⟨c, context, o, built, ho, hr⟩
  · rw [show j = {} from (h.unmoved link).journal]
    exact ⟨by decide, List.forall_mem_nil _, List.forall_mem_nil _⟩
  · have hm : o.mutating = false := by
      rw [Operation.ofCommand_mutating ho]
      exact decide_eq_false (Operation.not_changes_of_reads reads)
    rw [show j = _ from congrArg (·.world.journal) (hr link)]
    exact carryOut_reads hm (build_maxRetries built) env context link

theorem run_changes (env : Environment) (options : ∀ x ∈ given, Options.isOption x.1)
    (changes : command ∈ Operation.changingCommands) (args : List String) (link : Link) :
    (run env (Options.words given ++ command :: args) link).world.journal.attempts.length ≤ 6 := by
  rcases run_line env options (Operation.not_isOption_of_changes changes) args with
    h | ⟨c, context, o, built, ho, hr⟩
  · rw [(h.unmoved link).journal]
    exact Nat.zero_le 6
  · have hm : o.mutating = true := by
      rw [Operation.ofCommand_mutating ho]
      exact decide_eq_true changes
    rw [hr]
    exact carryOut_changes hm (build_maxRetries built) env context link

theorem idle_or_carryOut (env : Environment) (args : List String) :
    Idle env args ∨ ∃ c context o, ∀ link, run env args link = carryOut env c context o link := by
  obtain ⟨given, rest, rfl, options, ⟨command, more, rfl, plain⟩ | rfl | ⟨name, rfl, option⟩⟩ :=
    Options.exists_words args
  · exact (run_line env options plain more).imp_right fun ⟨c, context, o, _, _, hr⟩ =>
      ⟨c, context, o, hr⟩
  · rw [List.append_nil]
    exact Or.inl (.noCommand options)
  · exact Or.inl (.lacksValue options option)

/-- A run exits with 0 and an output, or with 1 and none. It makes no attempt just when an option
lacks its value, there is no command, the command tells about the console or is unknown, the client
cannot be built, or the arguments are missing or wrong for the command; then nothing is sent. A
command that reads makes at most two attempts and only reads; one that changes something makes at
most six. -/
theorem run_all_or_nothing (env : Environment) (args : List String) (link : Link) :
    let out := run env args link
    let j := out.world.journal
    (out.exit = 0 ∨ out.exit = 1) ∧ (out.stdout ≠ "" ↔ out.exit = 0) ∧
    (Idle env args ↔ j.attempts = []) ∧ (Idle env args → j.sent = [] ∧ out.world.link = link) ∧
    j.sent = j.attempts.flatMap (·.exchange.sent) ∧
    ∀ given command rest, args = Options.words given ++ command :: rest →
      (∀ x ∈ given, Options.isOption x.1) →
      (command ∈ Operation.readingCommands →
        j.attempts.length ≤ 2 ∧ (∀ a ∈ j.attempts, a.dispatch.method = .get) ∧
        ∀ m ∈ j.sent, m.method = .get) ∧
      (command ∈ Operation.changingCommands → j.attempts.length ≤ 6) := by
  intro out j
  have moves : Idle env args ∨ ∃ c context o, out = carryOut env c context o link :=
    (idle_or_carryOut env args).imp_right fun ⟨c, context, o, hr⟩ => ⟨c, context, o, hr link⟩
  have still (h : Idle env args) : j = {} := (h.unmoved link).journal
  have decided : out.Decided := by
    rcases moves with h | ⟨c, context, o, hr⟩
    · exact (h.unmoved link).decided
    · rw [hr]
      exact conclude_decided ..
  have accounts : j.Accounts := by
    rcases moves with h | ⟨c, context, o, hr⟩
    · rw [still h]
      rfl
    · rw [show j = out.world.journal from rfl, hr]
      exact carryOut_accounts ..
  have idle : Idle env args ↔ j.attempts = [] := by
    refine ⟨fun h => by rw [still h], fun h => ?_⟩
    rcases moves with hi | ⟨c, context, o, hr⟩
    · exact hi
    · rw [show j = out.world.journal from rfl, hr] at h
      exact absurd h (carryOut_attempts_ne_nil env c context o link)
  refine ⟨decided.imp (·.1) (·.1), ?_, idle, fun h => ⟨by rw [still h], (h.unmoved link).link⟩,
    accounts, ?_⟩
  · rcases decided with ⟨he, hs⟩ | ⟨he, hs⟩
    · exact ⟨fun _ => he, fun _ => hs⟩
    · exact ⟨fun h => absurd hs h, fun h => absurd (he.symm.trans h) nofun⟩
  · rintro given command rest rfl options
    exact ⟨fun reads => run_reads env options reads rest link,
      fun changes => run_changes env options changes rest link⟩

/-- A daemon that is busy before every answer, and forbids the first request to change something. -/
def reluctant : Link :=
  ⟨.direct, [{ status := 503 }, { body := Text.bytes "\x7b\x7d" }, { status := 503 },
    { status := 403 }, { body := Text.bytes "\x7b\"csrf_token\":\"abc\"\x7d" },
    { body := Text.bytes
        "\x7b\"success\":true,\"operation\":\"reboot\",\"message\":\"now\"\x7d" }]⟩

theorem run_all_or_nothing_reluctant :
    let args := ["--user", "bob", "--password", "--url", "reboot"]
    let given := [("--user", "bob"), ("--password", "--url")]
    args = Options.words given ++ "reboot" :: [] ∧ (∀ x ∈ given, Options.isOption x.1) ∧
      "reboot" ∈ Operation.changingCommands ∧ ¬ Idle [] args ∧
      (run [] args reluctant).world.journal.attempts.length = 6 ∧
      (run [] args reluctant).exit = 0 ∧ (run [] args reluctant).stdout ≠ "" ∧
      Idle [] ["set", "1", "brightness"] ∧
      (run [] ["set", "1", "brightness"] reluctant).world.journal.sent = [] := by
  intro args given
  obtain ⟨_, output, idle, _, _, bounds⟩ := run_all_or_nothing [] args reluctant
  obtain ⟨_, _, idle', unsent, _, _⟩ := run_all_or_nothing [] ["set", "1", "brightness"] reluctant
  have outcome : ((run [] args reluctant).world.journal.attempts.length,
      (run [] args reluctant).exit) = (6, 0) := by decide +kernel
  obtain ⟨six, exits⟩ := Prod.mk.inj outcome
  have none : (run [] ["set", "1", "brightness"] reluctant).world.journal.attempts.length = 0 := by
    decide +kernel
  have idles := idle'.mpr (List.eq_nil_of_length_eq_zero none)
  have options : ∀ x ∈ given, Options.isOption x.1 := by decide
  have le := (bounds given "reboot" [] rfl options).2 (by decide)
  refine ⟨rfl, options, by decide, fun h => ?_, Nat.le_antisymm le six.ge, exits, output.mpr exits,
    idles, (unsent idles).1⟩
  rw [idle.mp h] at six
  cases six

end Console

end CameraConsole
