import CameraConsole.Proofs.Actions
import CameraConsole.Proofs.Endings

/-!
# Auth events of actions

An action announces at most one auth event: when its call ends with a demand for authentication, when
the fetch of a fresh token meets one, or when a replay is refused with 401 or 403.
-/

namespace CameraConsole

/-! ## Courses -/

/-- The daemon demands authentication with this status, at one of the three places of a course where
that counts. -/
inductive Course.Demands (course : Course) : Nat → Prop where
  | main (status : course.main.status? = some 401) : Demands course 401
  | fetch {v : Recovery} (recovery : course.recovery = some v)
      (status : v.fetch.status? = some 401) : Demands course 401
  | replay {v : Recovery} {a : Attempt} {s : Nat} (recovery : course.recovery = some v)
      (replay : v.replay = some a) (status : a.status? = some s) (refused : s = 401 ∨ s = 403) :
      Demands course s

namespace Client.Takes

variable {c : Client} {context : Context} {left : Nat} {r : Request} {link : Link} {course : Course}

theorem recovery_eq_none (h : c.Takes context left r link course)
    (hs : course.main.status? ≠ some 403) : course.recovery = none := by
  rcases h.recovery_cases with ⟨hf, _⟩ | ⟨_, hn⟩
  · exact absurd hf.1 hs
  · exact hn

theorem replay_eq_none (h : c.Takes context left r link course) {v : Recovery}
    (hv : course.recovery = some v) (hs : v.fetch.status? = some 401) : v.replay = none := by
  rcases h.recovery_cases with ⟨_, v', hv', hr⟩ | ⟨_, hn⟩
  · cases hv.symm.trans hv'
    -- A fetch whose answer demands authentication brings no token.
    refine hr.replay_eq_none (Option.eq_none_iff_forall_ne_some.mpr fun token ht => ?_)
    have := Attempt.events_of_granted ht
    rw [Attempt.events_single hs (by simp)] at this
    cases this
  · rw [hv] at hn
    cases hn

theorem fetch_events_of_replay (h : c.Takes context left r link course) {v : Recovery} {a : Attempt}
    (hv : course.recovery = some v) (ha : v.replay = some a) : v.fetch.events [401] = [] := by
  refine Attempt.events_nil fun s hs hm => ?_
  cases List.mem_singleton.mp hm
  rw [h.replay_eq_none hv hs] at ha
  cases ha

theorem events_of_demands (h : c.Takes context left r link course) {s : Nat}
    (hd : course.Demands s) : course.events = [⟨s⟩] := by
  cases hd with
  | main hs =>
      rw [Course.events, h.recovery_eq_none (by simp [hs])]
      exact Attempt.events_single hs (by simp)
  | fetch hv hs =>
      simp only [Course.events, hv, Recovery.events, h.replay_eq_none hv hs, Option.map_none,
        Option.getD_none, List.append_nil]
      exact Attempt.events_single hs (by simp)
  | replay hv ha hs hr =>
      simp only [Course.events, hv, Recovery.events, h.fetch_events_of_replay hv ha, ha,
        Option.map_some, Option.getD_some, List.nil_append]
      exact Attempt.events_single hs (by simpa using hr)

end Client.Takes

theorem Course.events_of_not_demands {course : Course} (h : ∀ s, ¬ course.Demands s) :
    course.events = [] := by
  unfold events
  split
  · exact Attempt.events_nil fun s hs hm => h _ (.main (List.mem_singleton.mp hm ▸ hs))
  · rename_i v hv
    have hf : v.fetch.events [401] = [] :=
      Attempt.events_nil fun s hs hm => h _ (.fetch hv (List.mem_singleton.mp hm ▸ hs))
    rw [Recovery.events, hf, List.nil_append]
    cases ha : v.replay with
    | none => rfl
    | some a => exact Attempt.events_nil fun s hs hm => h _ (.replay hv ha hs (by simpa using hm))

theorem Client.Takes.length_events_le {c : Client} {context : Context} {left : Nat} {r : Request}
    {link : Link} {course : Course} (h : c.Takes context left r link course) :
    course.events.length ≤ 1 := by
  by_cases hd : ∃ s, course.Demands s
  · obtain ⟨s, hd⟩ := hd
    simp [h.events_of_demands hd]
  · rw [Course.events_of_not_demands fun s hs => hd ⟨s, hs⟩]
    exact Nat.zero_le 1

/-! ## Results -/

theorem Failure.InBody.not_denied {f : Failure} (h : f.InBody) : ¬ f.Denied := by
  rcases h with ⟨_, rfl⟩ | ⟨_, rfl⟩ <;> rintro (⟨_, _, h⟩ | h) <;> cases h

namespace Course.Ends

variable {course : Course} {result : Except Failure Json} {events : List AuthEvent}

/-- Events come with a failure that says so. -/
theorem denied_of_events (h : course.Ends result events) (he : events ≠ []) :
    ∃ f, result = .error f ∧ f.Denied := by
  cases h with
  | demanded _ _ => exact ⟨_, rfl, Or.inl ⟨_, _, rfl⟩⟩
  | tokenless _ _ _ => exact ⟨_, rfl, Or.inr rfl⟩
  | replayRefused _ _ _ _ _ => exact ⟨_, rfl, Or.inr rfl⟩
  | _ => exact absurd rfl he

theorem events_of_authentication (h : course.Ends result events) {status : Nat} {message : String}
    (hr : result = .error (.authentication status message)) : events = [⟨401⟩] := by
  have hd : Failure.Denied (.authentication status message) := Or.inl ⟨_, _, rfl⟩
  cases h with
  | demanded _ _ => rfl
  | unanswered _ _ ht | replayUnanswered _ _ _ _ ht => cases hr; exact absurd hd ht.not_denied
  | answered _ _ _ | replayAnswered _ _ _ _ _ => exact absurd hd (readBody_not_denied hr)
  | failed _ _ _ _ | tokenless _ _ _ | replayRefused _ _ _ _ _ => cases hr

end Course.Ends

/-- What an operation finds in a body does not concern the login, so the failures that do are those of
the call. -/
theorem Follows.eq_of_denied {α : Type} {x : Except Failure Json} {y : Except Failure α} {f : Failure}
    (h : Follows x y) (hf : f.Denied) : y = .error f ↔ x = .error f := by
  cases h with
  | failed g => simp
  | refused body hb =>
      constructor
      · intro he
        cases he
        exact absurd hf hb.not_denied
      · intro he
        cases he
  | done body x => simp

/-! ## Actions -/

theorem Channel.keeps_drain (c : Channel) (id : Nat) :
    (c.drain id).2.published = c.published ∧ (c.drain id).2.recent = c.recent := by
  unfold drain
  split
  · exact ⟨rfl, rfl⟩
  · exact ⟨rfl, rfl⟩

theorem Action.run_announces_nothing {a : Action} (h : a.call? = none) (w : World) :
    (a.run w).2.journal.announced = w.journal.announced ∧
      (a.run w).2.context.channel.published = w.context.channel.published ∧
      (a.run w).2.context.channel.recent = w.context.channel.recent := by
  cases a with
  | call _ _ | callAs _ _ _ | operate _ _ => cases h
  | drain id => exact ⟨rfl, w.context.channel.keeps_drain id⟩
  | login c k => simp only [run, map, c.login_announced, c.login_channel, and_self]
  | _ => exact ⟨rfl, rfl, rfl⟩

namespace Session

variable {a : Action} {c : Client} {r : Request}

theorem step_announced (h : a.call? = some (c, r)) (w : World) :
    (step a w).1.journal.announced = (c.course r w).events := by
  simp only [step, Action.run_world h, World.keep_journal, c.run_announced]
  rfl

theorem step_channel (h : a.call? = some (c, r)) (w : World) :
    (step a w).1.context.channel = (c.course r w).events.foldl Channel.publish w.context.channel := by
  simp only [step, Action.run_world h, World.keep_channel, c.run_context]
  rfl

/-- An action without a call announces nothing. One with a call announces exactly one event, with the
status that the daemon demanded authentication with, or none when it did not. Then a success comes
without an event, and so does a failure for another reason; a demand for authentication comes with
one. -/
theorem step_auth_events (a : Action) (w : World) :
    let s := (step a w).1
    (a.call? = none →
      s.journal.announced = [] ∧
      s.context.channel.published = w.context.channel.published ∧
      s.context.channel.recent = w.context.channel.recent) ∧
    ∀ c r, a.call? = some (c, r) →
      s.journal.attempts = (c.course r w).attempts ∧
      s.context.channel = s.journal.announced.foldl Channel.publish w.context.channel ∧
      (∀ status, (c.course r w).Demands status → s.journal.announced = [⟨status⟩]) ∧
      ((¬ ∃ status, (c.course r w).Demands status) → s.journal.announced = []) ∧
      s.journal.announced.length ≤ 1 ∧
      (∀ x, s.result = .ok x → s.journal.announced = []) ∧
      (∀ f, s.result = .error f → ¬ f.Denied → s.journal.announced = []) ∧
      (∀ status message, s.result = .error (.authentication status message) →
        s.journal.announced = [⟨401⟩]) := by
  intro s
  refine ⟨fun h => Action.run_announces_nothing h w.freshJournal, fun c r h => ?_⟩
  have ht := c.course_takes r w
  have hf : Follows (c.course r w).result s.result := step_follows h w
  have denied (he : (c.course r w).events ≠ []) : ∃ f, s.result = .error f ∧ f.Denied := by
    obtain ⟨f, hr, hd⟩ := ht.ends.denied_of_events he
    exact ⟨f, (hf.eq_of_denied hd).mpr hr, hd⟩
  rw [show s.journal.announced = (c.course r w).events from step_announced h w]
  refine ⟨step_attempts h w, step_channel h w, fun _ => ht.events_of_demands, fun hn => ?_,
    ht.length_events_le, fun x hx => ?_, fun f hx hd => ?_, fun status message hx => ?_⟩
  · exact Course.events_of_not_demands fun status hd => hn ⟨status, hd⟩
  · refine Classical.byContradiction fun he => ?_
    obtain ⟨f, hr, _⟩ := denied he
    rw [hx] at hr
    cases hr
  · refine Classical.byContradiction fun he => ?_
    obtain ⟨g, hr, hg⟩ := denied he
    cases hx.symm.trans hr
    exact hd hg
  · exact ht.ends.events_of_authentication ((hf.eq_of_denied (Or.inl ⟨_, _, rfl⟩)).mp hx)

end Session

end CameraConsole
