import CameraConsole.Proofs.AuditLog
import CameraConsole.Proofs.ConsoleRuns
import CameraConsole.Proofs.Delivery
import CameraConsole.Proofs.LogFilter

/-!
# Warnings about auth events

A run of the console listens while it works, and reports at its end what its calls announced. They
announce at most two events, which the channel can hold. So no event is missed, and every one is
warned about, whatever becomes of the run.
-/

namespace CameraConsole

/-! ## Notices one by one -/

namespace Channel

/-- A subscriber receives the next notice. When events that it has not passed are gone, it is told
how many, and moves on to the oldest that is left. -/
def receive? (c : Channel) (id : Nat) : Option (Notice × Channel) := do
  let s ← c.subscribers.find? (·.id = id)
  let behind := c.published - s.passed
  if capacity < behind then
    some (.lagged (behind - capacity), c.moveTo id (c.published - capacity))
  else
    let e ← c.recent[c.recent.length - behind]?
    some (.event e, c.moveTo id (s.passed + 1))

/-- A subscriber receives notice after notice, until there is none. -/
inductive Receives (id : Nat) : Channel → List Notice → Channel → Prop where
  | done {c : Channel} (empty : c.receive? id = none) : Receives id c [] c
  | next {c c' c'' : Channel} {n : Notice} {ns : List Notice}
      (received : c.receive? id = some (n, c')) (rest : Receives id c' ns c'') :
      Receives id c (n :: ns) c''

/-- There is one way to receive all notices. -/
theorem Receives.unique {id : Nat} {c d d' : Channel} {ns ns' : List Notice}
    (h : Receives id c ns d) (h' : Receives id c ns' d') : ns' = ns ∧ d' = d := by
  induction h generalizing ns' d' with
  | done empty =>
      cases h' with
      | done _ => exact ⟨rfl, rfl⟩
      | next received _ => cases empty.symm.trans received
  | next received _ ih =>
      cases h' with
      | done empty => cases empty.symm.trans received
      | next received' rest' =>
          cases received.symm.trans received'
          obtain ⟨rfl, rfl⟩ := ih rest'
          exact ⟨rfl, rfl⟩

theorem moveTo_moveTo (c : Channel) (id m n : Nat) :
    (c.moveTo id m).moveTo id n = c.moveTo id n := by
  simp only [moveTo, List.map_map]
  congr 2
  funext t
  by_cases h : t.id = id <;> simp [h]

namespace Keeps

variable {c : Channel} {kept : List AuthEvent} {s : Subscriber}

theorem moveTo_self (h : c.Keeps kept) (hs : s ∈ c.subscribers) : c.moveTo s.id s.passed = c := by
  have hmap : (c.subscribers.map fun t => if t.id = s.id then { t with passed := s.passed } else t) =
      c.subscribers := by
    refine (List.map_congr_left fun t ht => ?_).trans (List.map_id _)
    by_cases hid : t.id = s.id
    · rw [h.distinct t ht s hs hid]
      simp
    · simp [hid]
  rw [Channel.moveTo, hmap]

theorem mem_moveTo (hs : s ∈ c.subscribers) (n : Nat) :
    { s with passed := n } ∈ (c.moveTo s.id n).subscribers :=
  List.mem_map.mpr ⟨s, hs, by simp⟩

/-- A subscriber that is not too far behind receives the first event that it has not passed. -/
theorem receive?_near (h : c.Keeps kept) (hs : s ∈ c.subscribers)
    (near : kept.length - s.passed ≤ capacity) :
    c.receive? s.id =
      kept[s.passed]?.map fun e => (.event e, c.moveTo s.id (s.passed + 1)) := by
  have hle := h.passed s hs
  have hindex : c.recent[c.recent.length - (c.published - s.passed)]? = kept[s.passed]? := by
    simp only [h.recent, h.published, latest, List.length_drop, List.getElem?_drop]
    congr 1
    simp only [capacity] at near ⊢
    omega
  have hnear : ¬ capacity < c.published - s.passed := by rw [h.published]; omega
  simp only [receive?, h.find hs, Option.bind_eq_bind, Option.bind_some, hnear, ↓reduceIte, hindex]
  cases kept[s.passed]? <;> rfl

/-- One that is too far behind is told how many events are gone. -/
theorem receive?_far (h : c.Keeps kept) (hs : s ∈ c.subscribers)
    (far : capacity < kept.length - s.passed) :
    c.receive? s.id = some (.lagged (kept.length - s.passed - capacity),
      c.moveTo s.id (kept.length - capacity)) := by
  simp only [receive?, h.find hs, Option.bind_eq_bind, Option.bind_some, h.published, far,
    ↓reduceIte]

theorem receives_near (h : c.Keeps kept) (hs : s ∈ c.subscribers)
    (near : kept.length - s.passed ≤ capacity) :
    Receives s.id c ((kept.drop s.passed).map .event) (c.moveTo s.id c.published) := by
  have hle := h.passed s hs
  generalize hd : kept.length - s.passed = d
  induction d generalizing c s with
  | zero =>
      have hall : s.passed = kept.length := by omega
      have hempty : c.receive? s.id = none := by
        rw [h.receive?_near hs near, hall, List.getElem?_eq_none (Nat.le_refl _)]
        rfl
      rw [hall, List.drop_length, h.published, ← hall, h.moveTo_self hs]
      exact .done hempty
  | succ d ih =>
      have hlt : s.passed < kept.length := by omega
      have hnext : c.receive? s.id =
          some (.event kept[s.passed], c.moveTo s.id (s.passed + 1)) := by
        rw [h.receive?_near hs near, List.getElem?_eq_getElem hlt]
        rfl
      rw [List.drop_eq_getElem_cons hlt, List.map_cons]
      refine .next hnext ?_
      -- One event less is ahead of the subscriber.
      have hrest := ih (h.moveTo s.id hlt) (mem_moveTo hs (s.passed + 1)) (by dsimp only; omega) hlt
        (by dsimp only; omega)
      rw [moveTo_moveTo] at hrest
      exact hrest

/-- To drain the channel is to receive notice after notice until there is none. -/
theorem receives_drain (h : c.Keeps kept) (id : Nat) :
    Receives id c (c.drain id).1 (c.drain id).2 := by
  cases hf : c.subscribers.find? (·.id = id) with
  | none =>
      rw [drain_of_not_mem (by simpa using hf)]
      refine .done ?_
      simp only [receive?, hf, Option.bind_eq_bind, Option.bind_none]
  | some s =>
      obtain rfl : s.id = id := by simpa using List.find?_some hf
      have hs := List.mem_of_find?_eq_some hf
      rw [drain_of_find hf, h.waiting (h.passed s hs), delivery]
      by_cases far : capacity < kept.length - s.passed
      · -- The report of what is gone comes first, then the events that are left.
        have hle : kept.length - capacity ≤ kept.length := Nat.sub_le _ _
        have hrest := (h.moveTo s.id hle).receives_near (mem_moveTo hs _)
          (by dsimp only; simp only [capacity] at far ⊢; omega)
        rw [moveTo_moveTo] at hrest
        have hdrop : (kept.drop s.passed).drop (kept.length - s.passed - 16) =
            kept.drop (kept.length - capacity) := by
          rw [List.drop_drop]
          congr 1
          simp only [capacity] at far ⊢
          omega
        have hfar : 16 < kept.length - s.passed := far
        rw [List.length_drop, if_pos hfar, hdrop]
        exact .next (h.receive?_far hs far) hrest
      · have hnear : ¬ 16 < kept.length - s.passed := far
        rw [List.length_drop, if_neg hnear, Nat.sub_eq_zero_of_le (Nat.not_lt.mp hnear),
          List.drop_zero]
        exact h.receives_near hs (Nat.not_lt.mp far)

end Keeps

/-- Who has drained the channel finds nothing when it does so again. -/
theorem Keeps.drain_drain {c : Channel} {kept : List AuthEvent} (h : c.Keeps kept) (id : Nat) :
    (c.drain id).2.drain id = ([], (c.drain id).2) := by
  cases hf : c.subscribers.find? (·.id = id) with
  | none =>
      have hn : ∀ s ∈ c.subscribers, s.id ≠ id := by simpa using hf
      rw [drain_of_not_mem hn]
      exact drain_of_not_mem hn
  | some s =>
      obtain rfl : s.id = id := by simpa using List.find?_some hf
      have hs := mem_moveTo (List.mem_of_find?_eq_some hf) c.published
      have hnone : (c.moveTo s.id c.published).waiting c.published = [] := by
        rw [(h.moveToEnd s.id).waiting (Nat.le_of_eq h.published), h.published, List.drop_length]
        rfl
      rw [drain_of_find hf, drain_of_find ((h.moveToEnd s.id).find hs), hnone, moveTo_moveTo]
      rfl

end Channel

/-! ## What calls announce -/

/-- One of the two warnings of the console about auth events. -/
def LogEvent.AboutEvents (e : LogEvent) : Prop :=
  e.message = "daemon requires authentication; pass --user/--password" ∨
    e.message = "auth events dropped"

theorem LogEvent.Within.not_aboutEvents {e : LogEvent} {call : Nat} (h : e.Within call) :
    ¬ e.AboutEvents := by
  unfold AboutEvents
  rcases h with h | ⟨h, _⟩
  · cases e with
    | unheard | loggedIn | noToken | credentialsNeeded | eventsMissed => cases h
    | _ => simp only [message]; decide
  · rw [h]
    decide

/-- From one world to the other these events were announced and published, and the log does not yet
warn about them. -/
structure World.Announces (w w' : World) (es : List AuthEvent) : Prop where
  announced : w'.journal.announced = w.journal.announced ++ es
  channel : w'.context.channel = es.foldl Channel.publish w.context.channel
  log : ∃ log, w'.journal.log = w.journal.log ++ log ∧ ∀ e ∈ log, ¬ e.AboutEvents

namespace World.Announces

variable {w w' w'' : World} {es es' : List AuthEvent}

theorem trans (h : w.Announces w' es) (h' : w'.Announces w'' es') :
    w.Announces w'' (es ++ es') := by
  obtain ⟨log, hlog, hquiet⟩ := h.log
  obtain ⟨log', hlog', hquiet'⟩ := h'.log
  refine ⟨?_, ?_, log ++ log', ?_, ?_⟩
  · rw [h'.announced, h.announced, List.append_assoc]
  · rw [h'.channel, h.channel, List.foldl_append]
  · rw [hlog', hlog, List.append_assoc]
  · exact fun e he => (List.mem_append.mp he).elim (hquiet e) (hquiet' e)

theorem keep (h : w.Announces w' es) (t : Option String) : w.Announces (w'.keep t) es :=
  ⟨by rw [keep_journal, h.announced], by rw [keep_channel, h.channel],
    by rw [keep_journal]; exact h.log⟩

theorem note (h : w.Announces w' es) {e : LogEvent} (he : ¬ e.AboutEvents) :
    w.Announces (w'.note e) es := by
  obtain ⟨log, hlog, hquiet⟩ := h.log
  refine ⟨h.announced, h.channel, log ++ [e], ?_, ?_⟩
  · rw [← List.append_assoc, ← hlog]
    rfl
  · exact fun e' he' => (List.mem_append.mp he').elim (hquiet e') fun hm =>
      List.mem_singleton.mp hm ▸ he

end World.Announces

theorem Client.run_announces (c : Client) (r : Request) (w : World) :
    w.Announces (c.run r w).2 (c.course r w).events where
  announced := c.run_announced r w
  channel := by
    rw [c.run_context]
    rfl
  log := ⟨_, c.run_log r w,
    fun e he => ((c.course_takes r w).audit w.nextCall w.context.channel.heard).within e he
      |>.not_aboutEvents⟩

theorem Client.length_events_le (c : Client) (r : Request) (w : World) :
    (c.course r w).events.length ≤ 1 :=
  (c.course_takes r w).length_events_le

namespace Console

theorem prime_announces (c : Client) (w : World) :
    w.Announces (prime c w) (c.course (Client.read .config) w).events := by
  have h : w.Announces (c.daemonConfig w).2 (c.course (Client.read .config) w).events := by
    rw [c.daemonConfig_world]
    exact (c.run_announces _ w).keep _
  unfold prime
  rcases hd : c.daemonConfig w with ⟨f | _, w'⟩
  · rw [hd] at h
    exact h.note (by simp only [LogEvent.AboutEvents, LogEvent.message]; decide)
  · rw [hd] at h
    exact h

/-- An operation announces at most one event, and its priming one more. -/
theorem operate_announces (o : Operation) (c : Client) (w : World) :
    ∃ es, es.length ≤ 2 ∧ w.Announces (operate o c w).2 es := by
  have performs (w : World) : w.Announces (o.perform c w).2 (c.course o.request w).events := by
    rw [o.perform_world]
    exact (c.run_announces _ w).keep _
  unfold operate
  split
  · refine ⟨_, ?_, (prime_announces c w).trans (performs (prime c w))⟩
    have hprime := c.length_events_le (Client.read .config) w
    have hperform := c.length_events_le o.request (prime c w)
    rw [List.length_append]
    omega
  · exact ⟨_, Nat.le_succ_of_le (c.length_events_le o.request w), performs w⟩

/-! ## Reports -/

/-- The world before a report: whatever was announced waits for the subscriber, and the log does not
yet warn about it. -/
structure Unreported (id : Nat) (w : World) : Prop where
  few : w.journal.announced.length ≤ 2
  waits : (w.context.channel.drain id).1 = w.journal.announced.map .event
  keeps : ∃ kept, w.context.channel.Keeps kept
  quiet : ∀ e ∈ w.journal.log, ¬ e.AboutEvents

theorem unreported_ofLink (link : Link) (id : Nat) : Unreported id (.ofLink link) where
  few := Nat.zero_le 2
  waits := rfl
  keeps := ⟨[], .empty⟩
  quiet := List.forall_mem_nil _

theorem unreported_of_announces {context : Context} (h : context.channel = .empty) {link : Link}
    {w : World} {es : List AuthEvent} (announces : (listening context link).Announces w es)
    (few : es.length ≤ 2) :
    Unreported context.channel.nextId w := by
  obtain ⟨log, hlog, hquiet⟩ := announces.log
  have hes : w.journal.announced = es := announces.announced
  have hw : w.journal.log = log := hlog
  have fresh : context.channel.Keeps [] := by
    rw [h]
    exact .empty
  have listens : (listening context link).context.channel.Awaits context.channel.nextId [] :=
    Channel.awaits_subscribe fresh
  have awaits : w.context.channel.Awaits context.channel.nextId es := by
    rw [announces.channel]
    exact listens.publishAll es
  refine ⟨hes ▸ few, ?_, ?_, fun e he => hquiet e (hw ▸ he)⟩
  · -- Two events fit into the channel.
    have hfit : es.length - 16 = 0 := by omega
    have hall : ¬ 16 < es.length := by omega
    rw [awaits.drain.1, hes, Channel.delivery, if_neg hall, hfit]
    rfl
  · obtain ⟨kept, hk, _⟩ := awaits
    exact ⟨kept, hk⟩

/-- The lines that warn about these events, or nothing when the filter hides such warnings. It does
not look at the status. -/
def warningLines (env : Environment) (es : List AuthEvent) : String :=
  if (LogFilter.ofEnvironment env).shows (.credentialsNeeded 401) then
    String.join <| es.map fun e =>
      "WARN motion_console: daemon requires authentication; pass --user/--password status=" ++
        toString e.status ++ "\n"
  else ""

theorem logText_append (env : Environment) (log log' : List LogEvent) :
    logText env (log ++ log') = logText env log ++ logText env log' := by
  unfold logText
  rw [List.filter_append, List.map_append, String.join_append]

theorem logText_credentialsNeeded (env : Environment) (es : List AuthEvent) :
    logText env (es.map fun e => .credentialsNeeded e.status) = warningLines env es := by
  have same (e : AuthEvent) : (LogFilter.ofEnvironment env).shows (.credentialsNeeded e.status) =
      (LogFilter.ofEnvironment env).shows (.credentialsNeeded 401) :=
    LogFilter.shows_congr _ rfl rfl rfl
  have line (e : AuthEvent) : (LogEvent.credentialsNeeded e.status).line =
      "WARN motion_console: daemon requires authentication; pass --user/--password status=" ++
        toString e.status ++ "\n" := congrArg (· ++ "\n") String.append_empty
  unfold logText warningLines
  split
  · rename_i hshown
    have hall : (es.map fun e => LogEvent.credentialsNeeded e.status).filter
        (LogFilter.ofEnvironment env).shows = es.map fun e => .credentialsNeeded e.status :=
      List.filter_eq_self.mpr (List.forall_mem_map.mpr fun e _ => (same e).trans hshown)
    rw [hall, List.map_map]
    exact congrArg String.join (List.map_congr_left fun e _ => line e)
  · rename_i hhidden
    have hnone : (es.map fun e => LogEvent.credentialsNeeded e.status).filter
        (LogFilter.ofEnvironment env).shows = [] :=
      List.filter_eq_nil_iff.mpr (List.forall_mem_map.mpr fun e _ => same e ▸ hhidden)
    rw [hnone]
    rfl

namespace Unreported

variable {id : Nat} {w : World}

theorem report_announced : (report id w).journal.announced = w.journal.announced := by
  rw [report_eq]

theorem report_log (h : Unreported id w) :
    (report id w).journal.log =
      w.journal.log ++ w.journal.announced.map fun e => .credentialsNeeded e.status := by
  rw [report_eq]
  dsimp only
  rw [h.waits, List.map_map]
  rfl

theorem report_receives (h : Unreported id w) (ns : List Notice) (c : Channel) :
    Channel.Receives id w.context.channel ns c ↔
      ns = w.journal.announced.map .event ∧ c = (report id w).context.channel := by
  obtain ⟨kept, hk⟩ := h.keeps
  have receives := hk.receives_drain id
  rw [h.waits] at receives
  have hc : (report id w).context.channel = (w.context.channel.drain id).2 := by rw [report_eq]
  rw [hc]
  refine ⟨fun h' => receives.unique h', ?_⟩
  rintro ⟨rfl, rfl⟩
  exact receives

theorem report_report (h : Unreported id w) : report id (report id w) = report id w := by
  obtain ⟨kept, hk⟩ := h.keeps
  rw [report_eq id (report id w)]
  have hc : (report id w).context.channel = (w.context.channel.drain id).2 := by rw [report_eq]
  rw [hc, hk.drain_drain id, List.map_nil, List.append_nil, ← hc]

end Unreported

/-! ## Runs -/

theorem runCommand_reports (env : Environment) (o : Options) (command : String)
    (args : List String) (link : Link) :
    ∃ id w, Unreported id w ∧ (runCommand env o command args link).2 = report id w := by
  cases built : (builder env o).build .empty with
  | error f =>
      refine ⟨0, .ofLink link, unreported_ofLink link 0, ?_⟩
      rw [runCommand_unbuilt built]
      rfl
  | ok x =>
      obtain ⟨c, context⟩ := x
      have hempty := (Builder.build_eq_ok built).2.2
      refine ⟨context.channel.nextId, _, ?_, by rw [runCommand_built built]⟩
      unfold dispatch
      cases Operation.ofCommand command args with
      | error fault =>
          have still : (listening context link).Announces (listening context link) [] :=
            ⟨rfl, rfl, [], rfl, List.forall_mem_nil _⟩
          exact unreported_of_announces hempty still (Nat.zero_le 2)
      | ok o =>
          obtain ⟨es, few, announces⟩ := operate_announces o c (listening context link)
          exact unreported_of_announces hempty announces few

theorem run_reports (env : Environment) (args : List String) (link : Link) :
    ∃ id w rest, Unreported id w ∧ (run env args link).world = report id w ∧
      (run env args link).stderr = logText env (report id w).journal.log ++ rest := by
  have stays (text : String) : ∃ id w rest, Unreported id w ∧ World.ofLink link = report id w ∧
      text = logText env (report id w).journal.log ++ rest := by
    refine ⟨0, .ofLink link, text, unreported_ofLink link 0, rfl, ?_⟩
    exact String.empty_append.symm
  unfold run
  dsimp only
  split
  · exact stays _
  · exact stays _
  · split
    · exact stays _
    split
    · exact stays _
    · rename_i o command rest _ _ _
      obtain ⟨id, w, unreported, hw⟩ := runCommand_reports env o command rest link
      rcases hr : runCommand env o command rest link with ⟨trouble | answer, w'⟩
      · rw [hr] at hw
        exact ⟨id, w, trouble.text, unreported, hw, hw ▸ rfl⟩
      · rw [hr] at hw
        exact ⟨id, w, "", unreported, hw, by rw [← hw, String.append_empty]⟩

/-- The calls of a run announce at most two events. At its end the run receives just these, one by
one and none missed, until no more is left; the log and the error output then warn about each, in
their order and with their statuses, and about no others. To report again would change nothing. -/
theorem run_warns_of_events (env : Environment) (args : List String) (link : Link) :
    let out := run env args link
    let j := out.world.journal
    j.announced.length ≤ 2 ∧
    ∃ id w rest, out.world = report id w ∧ w.journal.announced = j.announced ∧
      (∀ ns c, Channel.Receives id w.context.channel ns c ↔
        ns = j.announced.map .event ∧ c = out.world.context.channel) ∧
      (∀ e ∈ w.journal.log, ¬ e.AboutEvents) ∧
      j.log = w.journal.log ++ (j.announced.map fun e => .credentialsNeeded e.status) ∧
      out.stderr = logText env w.journal.log ++ warningLines env j.announced ++ rest ∧
      report id out.world = out.world := by
  intro out j
  obtain ⟨id, w, rest, h, hw, ht⟩ := run_reports env args link
  have hworld : out.world = report id w := hw
  have ha : j.announced = w.journal.announced :=
    (congrArg (·.journal.announced) hworld).trans Unreported.report_announced
  have hlog : j.log = w.journal.log ++ j.announced.map fun e => .credentialsNeeded e.status := by
    rw [ha, ← h.report_log, ← hworld]
  refine ⟨ha ▸ h.few, id, w, rest, hworld, ha.symm, ?_, h.quiet, hlog, ?_, ?_⟩
  · rw [ha, hworld]
    exact h.report_receives
  · rw [← logText_credentialsNeeded, ← logText_append, ← hlog]
    exact ht.trans (by rw [← hworld])
  · rw [hworld]
    exact h.report_report

example :
    let out := run [] ["reboot"] ⟨.direct, [{ status := 401 }, { status := 401 }]⟩
    out.world.journal.announced = [⟨401⟩, ⟨401⟩] := by decide +kernel

end Console

end CameraConsole
