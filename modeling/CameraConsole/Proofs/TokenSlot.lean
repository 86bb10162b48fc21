import CameraConsole.Proofs.ForbiddenCall
import CameraConsole.Proofs.Members
import CameraConsole.Proofs.TokenHistory

/-!
# The slot of the token

In every session the slot is empty or holds a token that was stored since it was last cleared. A call
that was forbidden leaves the token of its own fetch in it, and nothing else that calls do changes
it. So a token that is sent after a rejection was stored in between.
-/

namespace CameraConsole

/-! ## Actions -/

/-- An action keeps no token of its own, unless it fetches the configuration. -/
theorem Action.kept?_eq_none {a : Action} (ha : ∀ c, a ≠ .operate c .config) (w : World) :
    a.kept? w = none := by
  unfold kept?
  cases a with
  | operate c o =>
      have ho : o ≠ .config := fun h => ha c (h ▸ rfl)
      have hn := Operation.perform_token? c w ho
      simp only [run, map]
      cases hx : (o.perform c w).1 with
      | error f => rfl
      | ok x => simpa [hx, Except.map, Except.toOption, Result.token?] using hn
  | call c r =>
      simp only [run, map]
      cases (c.run r w).1 <;> rfl
  | callAs c kind r =>
      simp only [run, map]
      cases (c.runAs kind.codec r w).1 <;> rfl
  | dispatch c d =>
      simp only [run, map]
      cases (w.transmit c d 0).1 <;> rfl
  | login c k =>
      simp only [run, map]
      cases (c.login k w).1 <;> rfl
  | _ => rfl

/-! ## Builders -/

namespace Builder

variable {b : Builder} {c : Client} {context : Context}

theorem assemble_result (b : Builder) (context : Context) :
    (b.assemble context).1 = Client.ofConfig b.config := by
  unfold assemble
  cases Client.ofConfig b.config with
  | error failure => rfl
  | ok client => cases b.credentials <;> rfl

theorem assemble_context_ok (h : (b.assemble context).1 = .ok c) :
    (b.assemble context).2 =
      { context with credentials := b.credentials.or context.credentials } := by
  rw [assemble_result] at h
  unfold assemble
  rw [h]
  cases b.credentials <;> rfl

theorem assemble_context_error {f : Failure} (h : (b.assemble context).1 = .error f) :
    (b.assemble context).2 = context := by
  rw [assemble_result] at h
  unfold assemble
  rw [h]

theorem build_eq_assemble (b : Builder) (context : Context) :
    b.build context = (b.assemble context).1.map fun c => (c, (b.assemble context).2) := by
  unfold build
  generalize b.assemble context = result
  obtain ⟨client | failure, context⟩ := result <;> rfl

theorem build_eq_ok {context' : Context} (h : b.build context = .ok (c, context')) :
    Client.ofConfig b.config = .ok c ∧ context'.token = context.token ∧
      context'.channel = context.channel := by
  rw [build_eq_assemble] at h
  obtain ⟨client, hc, hpair⟩ := map_eq_ok_iff.mp h
  obtain ⟨rfl, rfl⟩ := Prod.mk.inj hpair
  rw [assemble_context_ok hc]
  exact ⟨(assemble_result b context).symm.trans hc, rfl, rfl⟩

end Builder

/-! ## Sessions -/

theorem Builder.build_token {b : Builder} {context context' : Context} {c : Client}
    (h : b.build context = .ok (c, context')) : context'.token = context.token :=
  (build_eq_ok h).2.1

namespace Session

theorem build_token {builders : List Builder} {context context' : Context} {clients : List Client}
    (h : build builders context = .ok (clients, context')) : context'.token = context.token := by
  induction builders generalizing context context' clients with
  | nil => cases h; rfl
  | cons b builders ih =>
      simp only [build, bind, Except.bind] at h
      cases hb : b.build context with
      | error f => simp [hb] at h
      | ok first =>
          simp only [hb] at h
          cases hr : build builders first.2 with
          | error f => simp [hr] at h
          | ok rest =>
              simp only [hr, Except.ok.injEq, Prod.mk.injEq] at h
              rw [← h.2, ih hr]
              exact Builder.build_token hb

def history : List Action → World → List TokenEvent
  | [], _ => []
  | a :: actions, w => a.tokenEvents w.freshJournal ++ history actions (step a w).2

/-- The slot goes through the history of a session. -/
theorem run_slotPath (actions : List Action) (w : World) :
    SlotPath w.context.token (history actions w) (run actions w).2.context.token := by
  induction actions generalizing w with
  | nil => exact .nil
  | cons a actions ih => exact (a.slotPath w.freshJournal).append (ih (step a w).2)

/-- The history of a session tells all the tokens that its calls sent. -/
theorem sent_history {actions : List Action} (h : ∀ a ∈ actions, ∀ c d, a ≠ .dispatch c d)
    (w : World) :
    ((run actions w).1.flatMap fun s => tokensOf s.journal.sent) =
      (history actions w).filterMap TokenEvent.sent? := by
  induction actions generalizing w with
  | nil => rfl
  | cons a actions ih =>
      have hs := Action.sent_tokenEvents (h a List.mem_cons_self) w.freshJournal
      simp only [run, history, List.flatMap_cons, List.filterMap_append]
      rw [ih (fun b hb => h b (List.mem_cons_of_mem a hb))]
      exact congrArg (· ++ _) hs

/-! ## The slot after a step -/

theorem step_token {a : Action} {c : Client} {r : Request} (h : a.call? = some (c, r))
    (ha : ∀ c, a ≠ .operate c .config) (w : World) :
    (step a w).1.context.token = (c.course r w).token w.context.token := by
  have hk := Action.kept?_eq_none ha w.freshJournal
  unfold Action.kept? at hk
  simp only [step, Action.run_world h, hk, World.keep, c.run_context]
  rfl

/-- After a call that was forbidden the slot holds what its fetch brought, and else what it held
before. -/
theorem step_token_cases {a : Action} {c : Client} {r : Request} (h : a.call? = some (c, r))
    (ha : ∀ c, a ≠ .operate c .config) (w : World) :
    (¬ (c.course r w).main.Forbidden → (step a w).1.context.token = w.context.token) ∧
      ((c.course r w).main.Forbidden → ∃ v, (c.course r w).recovery = some v ∧
        ∀ token, (step a w).1.context.token = some token ↔ v.fetch.Grants token) := by
  rw [step_token h ha, Course.token]
  rcases (c.course_takes r w).recovery_cases with ⟨hf, v, hv, _⟩ | ⟨hf, hn⟩
  · refine ⟨absurd hf, fun _ => ⟨v, hv, fun token => ?_⟩⟩
    rw [hv]
    exact Attempt.granted?_eq_some_iff_grants
  · exact ⟨fun _ => by rw [hn], fun hf' => absurd hf' hf⟩

/-- In every session that starts with clients in a fresh context: a token in the slot is not empty and
was stored after the slot was last cleared. The next call leaves the slot as it is, unless its main
attempt is forbidden: then the slot holds what its own fetch brings. The history tells every token
that calls send, and one that is sent after a forbidden main attempt was stored in between. -/
theorem token_lifecycle (builders : List Builder) (clients : List Client) (context : Context)
    (hb : build builders .empty = .ok (clients, context)) (link : Link) (actions : List Action) :
    let start : World := { context, link }
    let w := (run actions start).2
    (∀ token, w.context.token = some token → token ≠ "" ∧
      ∃ before source after, history actions start = before ++ .stored source token :: after ∧
        ∀ e ∈ after, ¬ e.Writes) ∧
    (∀ a c r, a.call? = some (c, r) → (∀ c, a ≠ .operate c .config) →
      (step a w).1.journal.attempts = (c.course r w).attempts ∧
      (¬ (c.course r w).main.Forbidden → (step a w).1.context.token = w.context.token) ∧
      ((c.course r w).main.Forbidden → ∃ v, (c.course r w).recovery = some v ∧
        ∀ token, (step a w).1.context.token = some token ↔ v.fetch.Grants token)) ∧
    (∀ c k, (step (.login c k) w).1.context.token = w.context.token) ∧
    ((∀ a ∈ actions, ∀ c d, a ≠ .dispatch c d) →
      ((run actions start).1.flatMap fun s => tokensOf s.journal.sent) =
        (history actions start).filterMap TokenEvent.sent?) ∧
    (∀ before held between token after,
      history actions start =
          before ++ .rejected held :: (between ++ .sent token :: after) →
        ∃ source, .stored source token ∈ between) := by
  intro start w
  have path := run_slotPath actions start
  have empty : start.context.token = none := build_token hb
  refine ⟨fun token ht => ?_, fun a c r h ha => ⟨step_attempts h w, step_token_cases h ha w⟩,
    fun c k => c.login_token k w.freshJournal, fun h => sent_history h start, ?_⟩
  · rw [empty, ht] at path
    obtain ⟨before, source, after, he, hne, hw⟩ := path.origin_of_none
    exact ⟨hne, before, source, after, he, hw⟩
  · intro before held between token after he
    rw [he] at path
    exact path.stored_of_sent

theorem token_lifecycle_replaced :
    let start : World := { context := .empty, link := ⟨.direct, [{ status := 403 },
      { body := Text.bytes "\x7b\"csrf_token\":\"abc\"\x7d" }, {}]⟩ }
    let actions := [.setToken "old", .call Client.onLocalhost (Client.remove (.picture 1 7))]
    build [.default] .empty = .ok ([Client.onLocalhost], .empty) ∧
      history actions start = [.stored .setting "old", .sent "old", .rejected (some "old"),
        .stored .recovery "abc", .sent "abc"] ∧
      (run actions start).2.context.token = some "abc" ∧
      ∃ source, .stored source "abc" ∈ [TokenEvent.stored .recovery "abc"] := by
  intro start actions
  have hb : build [.default] .empty = .ok ([Client.onLocalhost], .empty) := by decide +kernel
  have hh : history actions start = [.stored .setting "old", .sent "old", .rejected (some "old"),
      .stored .recovery "abc", .sent "abc"] := by decide +kernel
  obtain ⟨_, _, _, _, renewed⟩ := token_lifecycle _ _ _ hb start.link actions
  exact ⟨hb, hh, by decide +kernel, renewed [_, _] _ [_] "abc" [] hh⟩

/-- A replay that is refused does not clear the slot: its token is sent again by the next call, and
nothing stored it since. -/
theorem refused_replay_keeps_token :
    let start : World := { context := .empty, link := ⟨.direct, [{ status := 403 },
      { body := Text.bytes "\x7b\"csrf_token\":\"abc\"\x7d" }, { status := 403 }, {}]⟩ }
    let delete : Action := .call Client.onLocalhost (Client.remove (.picture 1 7))
    ((run [delete, delete] start).1.map fun s =>
        s.journal.attempts.map fun a => (a.dispatch.method, a.dispatch.token, a.status?)) =
      [[(.delete, none, some 403), (.get, none, some 200), (.delete, some "abc", some 403)],
        [(.delete, some "abc", some 200)]] ∧
      history [delete, delete] start =
        [.rejected none, .stored .recovery "abc", .sent "abc", .sent "abc"] := by
  decide +kernel

end Session

end CameraConsole
