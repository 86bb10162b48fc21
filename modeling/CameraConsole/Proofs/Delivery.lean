import CameraConsole.Proofs.AuthEvents
import Mathlib.Algebra.GroupWithZero.Nat

/-!
# Delivery of auth events

A subscriber that drains the channel receives the events since it last did so, or since it
subscribed: the latest sixteen of them, after a report of how many older ones are gone. Whatever other
subscribers do makes no difference to it.
-/

namespace CameraConsole

/-- How many events a notice stands for. -/
def Notice.count : Notice → Nat
  | event _ => 1
  | lagged missed => missed

namespace Channel

/-- What a subscriber receives for whom these events wait. -/
def delivery (es : List AuthEvent) : List Notice :=
  (if 16 < es.length then [.lagged (es.length - 16)] else []) ++
    (es.drop (es.length - 16)).map .event

/-- Every event is delivered or reported as missed. -/
theorem sum_count_delivery (es : List AuthEvent) :
    ((delivery es).map Notice.count).sum = es.length := by
  have hone (xs : List AuthEvent) : ((xs.map Notice.event).map Notice.count).sum = xs.length := by
    induction xs with
    | nil => rfl
    | cons x xs ih => simpa [Notice.count, Nat.add_comm] using ih
  unfold delivery
  split
  · simp only [List.map_append, List.map_cons, List.map_nil, List.sum_append, List.sum_cons,
      List.sum_nil, hone, List.length_drop, Notice.count]
    omega
  · simp only [List.nil_append, hone, List.length_drop]
    omega

example :
    (delivery (List.replicate 16 ⟨401⟩)).map Notice.count = List.replicate 16 1 ∧
      (delivery (List.replicate 19 ⟨401⟩)).map Notice.count = 3 :: List.replicate 16 1 := by decide

/-! ## Channels and the events that they kept -/

/-- The channel kept these events, all that were published while someone listened. -/
structure Keeps (c : Channel) (kept : List AuthEvent) : Prop where
  published : c.published = kept.length
  recent : c.recent = latest capacity kept
  distinct : ∀ s ∈ c.subscribers, ∀ t ∈ c.subscribers, s.id = t.id → s = t
  numbered : ∀ s ∈ c.subscribers, s.id < c.nextId
  passed : ∀ s ∈ c.subscribers, s.passed ≤ kept.length

/-- Events that nobody listens to are not kept. -/
theorem publishAll_unheard {c : Channel} (h : c.subscribers = []) (es : List AuthEvent) :
    es.foldl publish c = c := by
  induction es with
  | nil => rfl
  | cons e es ih => simpa only [List.foldl_cons, publish, h, ↓reduceIte] using ih

theorem latest_append_latest {α : Type} (n : Nat) (xs : List α) (x : α) :
    latest n (latest n xs ++ [x]) = latest n (xs ++ [x]) := by
  unfold latest
  rw [← List.drop_append_of_le_length (Nat.sub_le _ _), List.drop_drop]
  congr 1
  simp only [List.length_drop, List.length_append, List.length_cons, List.length_nil]
  omega

namespace Keeps

variable {c : Channel} {kept : List AuthEvent}

theorem empty : Channel.empty.Keeps [] := by
  constructor <;> simp [Channel.empty, latest]

theorem waiting (h : c.Keeps kept) {p : Nat} (hp : p ≤ kept.length) :
    c.waiting p = delivery (kept.drop p) := by
  have hl : latest (kept.length - p) (latest 16 kept) = latest 16 (kept.drop p) := by
    simp only [latest, List.drop_drop, List.length_drop]
    congr 1
    omega
  simp only [Channel.waiting, delivery, capacity, h.published, h.recent, hl, List.length_drop]
  simp only [latest, List.length_drop]

theorem publish (h : c.Keeps kept) (hs : c.subscribers ≠ []) (e : AuthEvent) :
    (c.publish e).Keeps (kept ++ [e]) := by
  simp only [Channel.publish, hs, ↓reduceIte]
  refine ⟨?_, ?_, h.distinct, h.numbered, fun s hm => ?_⟩
  · simp [h.published]
  · simp only [h.recent, latest_append_latest]
  · have := h.passed s hm
    simp only [List.length_append]
    omega

theorem publish_cases (h : c.Keeps kept) (e : AuthEvent) : ∃ kept', (c.publish e).Keeps kept' := by
  by_cases hs : c.subscribers = []
  · exact ⟨kept, by simpa only [Channel.publish, hs, ↓reduceIte] using h⟩
  · exact ⟨_, h.publish hs e⟩

theorem subscribe (h : c.Keeps kept) : c.subscribe.2.Keeps kept := by
  have hnew {s : Subscriber} (hs : s ∈ c.subscribers) : s.id ≠ c.nextId :=
    Nat.ne_of_lt (h.numbered s hs)
  refine ⟨h.published, h.recent, ?_, ?_, ?_⟩
  · intro s hs t ht heq
    simp only [Channel.subscribe, List.mem_append, List.mem_singleton] at hs ht
    rcases hs with hs | rfl
    · rcases ht with ht | rfl
      · exact h.distinct s hs t ht heq
      · exact absurd heq (hnew hs)
    · rcases ht with ht | rfl
      · exact absurd heq.symm (hnew ht)
      · rfl
  · intro s hs
    simp only [Channel.subscribe, List.mem_append, List.mem_singleton] at hs ⊢
    rcases hs with hs | rfl
    · exact Nat.lt_succ_of_lt (h.numbered s hs)
    · exact Nat.lt_succ_self _
  · intro s hs
    simp only [Channel.subscribe, List.mem_append, List.mem_singleton] at hs
    rcases hs with hs | rfl
    · exact h.passed s hs
    · exact Nat.le_of_eq h.published

theorem unsubscribe (h : c.Keeps kept) (id : Nat) : (c.unsubscribe id).Keeps kept := by
  have hsub {s : Subscriber} (hs : s ∈ (c.unsubscribe id).subscribers) : s ∈ c.subscribers :=
    (List.mem_filter.mp hs).1
  exact ⟨h.published, h.recent, fun s hs t ht => h.distinct s (hsub hs) t (hsub ht),
    fun s hs => h.numbered s (hsub hs), fun s hs => h.passed s (hsub hs)⟩

end Keeps

theorem drain_of_find {c : Channel} {s : Subscriber} {id : Nat}
    (h : c.subscribers.find? (·.id = id) = some s) :
    c.drain id = (c.waiting s.passed, c.moveTo id c.published) := by
  simp only [drain, h]

theorem drain_of_not_mem {c : Channel} {id : Nat} (h : ∀ s ∈ c.subscribers, s.id ≠ id) :
    c.drain id = ([], c) := by
  have hn : c.subscribers.find? (·.id = id) = none := by simpa using h
  simp only [drain, hn]

namespace Keeps

variable {c : Channel} {kept : List AuthEvent}

theorem find (h : c.Keeps kept) {s : Subscriber} (hs : s ∈ c.subscribers) :
    c.subscribers.find? (·.id = s.id) = some s := by
  cases hf : c.subscribers.find? (·.id = s.id) with
  | none => exact absurd (decide_eq_true rfl) (List.find?_eq_none.mp hf s hs)
  | some t =>
      have ht : t.id = s.id := by simpa using List.find?_some hf
      rw [h.distinct t (List.mem_of_find?_eq_some hf) s hs ht]

theorem moveTo (h : c.Keeps kept) (id : Nat) {n : Nat} (hn : n ≤ kept.length) :
    (c.moveTo id n).Keeps kept := by
  have hid (t : Subscriber) : (if t.id = id then { t with passed := n } else t).id = t.id := by
    split <;> rfl
  refine ⟨h.published, h.recent, ?_, ?_, ?_⟩
  · intro t ht u hu heq
    obtain ⟨t', ht', rfl⟩ := List.mem_map.mp ht
    obtain ⟨u', hu', rfl⟩ := List.mem_map.mp hu
    rw [hid, hid] at heq
    rw [h.distinct t' ht' u' hu' heq]
  · intro t ht
    obtain ⟨t', ht', rfl⟩ := List.mem_map.mp ht
    rw [hid]
    exact h.numbered t' ht'
  · intro t ht
    obtain ⟨t', ht', rfl⟩ := List.mem_map.mp ht
    split
    · exact hn
    · exact h.passed t' ht'

theorem moveToEnd (h : c.Keeps kept) (id : Nat) : (c.moveTo id c.published).Keeps kept :=
  h.moveTo id (Nat.le_of_eq h.published)

theorem drain (h : c.Keeps kept) (id : Nat) : (c.drain id).2.Keeps kept := by
  cases hf : c.subscribers.find? (·.id = id) with
  | none =>
      rw [drain_of_not_mem (by simpa using hf)]
      exact h
  | some s =>
      rw [drain_of_find hf]
      exact h.moveToEnd id

end Keeps

/-! ## What waits for a subscriber -/

/-- The subscriber is there, and these events wait for it. -/
def Awaits (c : Channel) (id : Nat) (es : List AuthEvent) : Prop :=
  ∃ kept, c.Keeps kept ∧ ∃ s ∈ c.subscribers, s.id = id ∧ kept.drop s.passed = es

theorem awaits_subscribe {c : Channel} {kept : List AuthEvent} (h : c.Keeps kept) :
    c.subscribe.2.Awaits c.subscribe.1 [] := by
  have hmem : (⟨c.nextId, c.published⟩ : Subscriber) ∈ c.subscribe.2.subscribers :=
    List.mem_append_right _ List.mem_cons_self
  refine ⟨kept, h.subscribe, _, hmem, rfl, ?_⟩
  simp [h.published]

namespace Awaits

variable {c : Channel} {id : Nat} {es : List AuthEvent}

theorem publish (h : c.Awaits id es) (e : AuthEvent) : (c.publish e).Awaits id (es ++ [e]) := by
  obtain ⟨kept, hk, s, hs, rfl, rfl⟩ := h
  have hne : c.subscribers ≠ [] := List.ne_nil_of_mem hs
  refine ⟨kept ++ [e], hk.publish hne e, s, ?_, rfl, ?_⟩
  · simpa only [Channel.publish, hne, ↓reduceIte] using hs
  · rw [List.drop_append_of_le_length (hk.passed s hs)]

theorem publishAll (h : c.Awaits id es) (new : List AuthEvent) :
    (new.foldl Channel.publish c).Awaits id (es ++ new) := by
  induction new generalizing c es with
  | nil => simpa using h
  | cons e new ih => simpa using ih (h.publish e)

theorem subscribe (h : c.Awaits id es) : c.subscribe.2.Awaits id es := by
  obtain ⟨kept, hk, s, hs, hid, he⟩ := h
  exact ⟨kept, hk.subscribe, s, List.mem_append_left _ hs, hid, he⟩

theorem unsubscribe (h : c.Awaits id es) {other : Nat} (hne : id ≠ other) :
    (c.unsubscribe other).Awaits id es := by
  obtain ⟨kept, hk, s, hs, rfl, he⟩ := h
  exact ⟨kept, hk.unsubscribe other, s, List.mem_filter.mpr ⟨hs, by simpa using hne⟩, rfl, he⟩

theorem drain (h : c.Awaits id es) :
    (c.drain id).1 = delivery es ∧ (c.drain id).2.Awaits id [] := by
  obtain ⟨kept, hk, s, hs, rfl, rfl⟩ := h
  rw [drain_of_find (hk.find hs)]
  refine ⟨hk.waiting (hk.passed s hs), kept, hk.moveToEnd s.id, { s with passed := c.published }, ?_,
    rfl, ?_⟩
  · exact List.mem_map.mpr ⟨s, hs, by simp⟩
  · simp [hk.published]

theorem drain_other (h : c.Awaits id es) {other : Nat} (hne : id ≠ other) :
    (c.drain other).2.Awaits id es := by
  obtain ⟨kept, hk, s, hs, rfl, he⟩ := h
  refine ⟨kept, hk.drain other, s, ?_, rfl, he⟩
  cases hf : c.subscribers.find? (·.id = other) with
  | none =>
      rw [drain_of_not_mem (by simpa using hf)]
      exact hs
  | some t =>
      rw [drain_of_find hf]
      exact List.mem_map.mpr ⟨s, hs, by simp [hne]⟩

end Awaits

end Channel

/-! ## Steps -/

def Step.notices (s : Step) : List Notice :=
  match s.result with
  | .ok (.notices notices) => notices
  | _ => []

/-- What an action does to the channel itself. -/
def Action.onChannel : Action → Channel → Channel
  | subscribe, c => c.subscribe.2
  | unsubscribe id, c => c.unsubscribe id
  | drain id, c => (c.drain id).2
  | _, c => c

namespace Session

/-- A step publishes what it announces; beyond that it does to the channel what its action does. -/
theorem step_onChannel (a : Action) (w : World) :
    (step a w).2.context.channel =
      a.onChannel ((step a w).1.journal.announced.foldl Channel.publish w.context.channel) := by
  cases h : a.call? with
  | some call =>
      have hc : (step a w).2.context.channel = _ := step_channel h w
      rw [hc, step_announced h w]
      cases a with
      | call _ _ | callAs _ _ _ | operate _ _ => rfl
      | _ => cases h
  | none =>
      have hn : (step a w).1.journal.announced = [] :=
        (Action.run_announces_nothing h w.freshJournal).1
      rw [hn]
      cases a with
      | call _ _ | callAs _ _ _ | operate _ _ => cases h
      | login c k => exact c.login_channel k w.freshJournal
      | _ => rfl

theorem step_keeps (a : Action) {w : World} {kept : List AuthEvent}
    (h : w.context.channel.Keeps kept) : ∃ kept', (step a w).2.context.channel.Keeps kept' := by
  have hp (es : List AuthEvent) (c : Channel) (hc : ∃ kept, c.Keeps kept) :
      ∃ kept', (es.foldl Channel.publish c).Keeps kept' := by
    induction es generalizing c with
    | nil => exact hc
    | cons e es ih =>
        obtain ⟨kept, hk⟩ := hc
        exact ih _ (hk.publish_cases e)
  obtain ⟨kept', hk⟩ := hp (step a w).1.journal.announced _ ⟨kept, h⟩
  rw [step_onChannel]
  cases a with
  | subscribe => exact ⟨kept', hk.subscribe⟩
  | unsubscribe id => exact ⟨kept', hk.unsubscribe id⟩
  | drain id => exact ⟨kept', hk.drain id⟩
  | _ => exact ⟨kept', hk⟩

/-- The events that wait for a subscriber after a step, when these waited before. -/
def awaitedAfter (id : Nat) (es : List AuthEvent) (a : Action) (s : Step) : List AuthEvent :=
  if a = .drain id then [] else es ++ s.journal.announced

theorem step_awaits {a : Action} {w : World} {id : Nat} {es : List AuthEvent}
    (ha : a ≠ .unsubscribe id) (h : w.context.channel.Awaits id es) :
    (step a w).2.context.channel.Awaits id (awaitedAfter id es a (step a w).1) := by
  have hp := h.publishAll (step a w).1.journal.announced
  rw [step_onChannel, awaitedAfter]
  cases a with
  | subscribe => exact hp.subscribe
  | unsubscribe other => exact hp.unsubscribe fun he => ha (he ▸ rfl)
  | drain other =>
      by_cases hid : id = other
      · subst hid
        simp only [↓reduceIte]
        exact hp.drain.2
      · have hne : Action.drain other ≠ .drain id := fun he => hid (Action.drain.inj he).symm
        rw [if_neg hne]
        exact hp.drain_other hid
  | _ => simpa [Action.onChannel] using hp

/-- What a step delivers to a subscriber. -/
def deliveredIn (id : Nat) (a : Action) (s : Step) : List Notice :=
  if a = .drain id then s.notices else []

theorem step_drain {w : World} {id : Nat} {es : List AuthEvent}
    (h : w.context.channel.Awaits id es) :
    (step (.drain id) w).1.result = .ok (.notices (Channel.delivery es)) := by
  rw [← h.drain.1]
  rfl

/-- An event that is announced waits, until it is delivered or reported as missed. -/
theorem step_balance {w : World} {id : Nat} {es : List AuthEvent}
    (h : w.context.channel.Awaits id es) (a : Action) :
    ((deliveredIn id a (step a w).1).map Notice.count).sum +
        (awaitedAfter id es a (step a w).1).length =
      es.length + (step a w).1.journal.announced.length := by
  by_cases ha : a = .drain id
  · subst ha
    have hn : (step (.drain id) w).1.notices = Channel.delivery es := by
      simp only [Step.notices, step_drain h]
    simp only [deliveredIn, awaitedAfter, ↓reduceIte, hn, Channel.sum_count_delivery]
    rfl
  · simp only [deliveredIn, awaitedAfter, ha, ↓reduceIte, List.length_append]
    exact Nat.zero_add _

/-! ## Runs -/

/-- The actions of a session with their steps. -/
def trace (actions : List Action) (w : World) : List (Action × Step) :=
  actions.zip (run actions w).1

/-- The events that were announced in a part of a session. -/
def announced (part : List (Action × Step)) : List AuthEvent :=
  part.flatMap (·.2.journal.announced)

/-- The events that wait for a subscriber after a part of a session, when these waited before: all
that were announced since it last drained the channel. -/
def awaited (id : Nat) (es : List AuthEvent) (part : List (Action × Step)) : List AuthEvent :=
  part.foldl (fun es x => awaitedAfter id es x.1 x.2) es

/-- What a subscriber received in a part of a session. -/
def received (id : Nat) (part : List (Action × Step)) : List Notice :=
  part.flatMap fun x => deliveredIn id x.1 x.2

theorem trace_append (actions more : List Action) (w : World) :
    trace (actions ++ more) w = trace actions w ++ trace more (run actions w).2 := by
  induction actions generalizing w with
  | nil => rfl
  | cons a actions ih => exact congrArg ((a, (step a w).1) :: ·) (ih (step a w).2)

theorem run_keeps (actions : List Action) {w : World} {kept : List AuthEvent}
    (h : w.context.channel.Keeps kept) :
    ∃ kept', (run actions w).2.context.channel.Keeps kept' := by
  induction actions generalizing w kept with
  | nil => exact ⟨kept, h⟩
  | cons a actions ih =>
      obtain ⟨kept', hk⟩ := step_keeps a h
      exact ih hk

/-- What waits for a subscriber after a run, and what it received: both together are what waited
before and what was announced since. -/
theorem run_awaits {id : Nat} {actions : List Action} (ha : .unsubscribe id ∉ actions) {w : World}
    {es : List AuthEvent} (h : w.context.channel.Awaits id es) :
    (run actions w).2.context.channel.Awaits id (awaited id es (trace actions w)) ∧
      ((received id (trace actions w)).map Notice.count).sum +
          (awaited id es (trace actions w)).length =
        es.length + (announced (trace actions w)).length := by
  induction actions generalizing w es with
  | nil => exact ⟨h, Nat.zero_add _⟩
  | cons a actions ih =>
      have hne : a ≠ .unsubscribe id := fun he => ha (he ▸ List.mem_cons_self)
      obtain ⟨hw, hsum⟩ := ih (fun hm => ha (List.mem_cons_of_mem a hm)) (step_awaits hne h)
      have hstep := step_balance h a
      have ht : trace (a :: actions) w = (a, (step a w).1) :: trace actions (step a w).2 := rfl
      refine ⟨hw, ?_⟩
      simp only [ht, received, announced, awaited, List.flatMap_cons, List.foldl_cons,
        List.map_append, List.sum_append, List.length_append] at hsum hstep ⊢
      omega

/-! ## Numbers of subscribers -/

theorem step_nextId (a : Action) (w : World) :
    (step a w).2.context.channel.nextId =
      if a = .subscribe then w.context.channel.nextId + 1 else w.context.channel.nextId := by
  have hp (es : List AuthEvent) (c : Channel) : (es.foldl Channel.publish c).nextId = c.nextId := by
    induction es generalizing c with
    | nil => rfl
    | cons e es ih =>
        rw [List.foldl_cons, ih, Channel.publish]
        split <;> rfl
  have hd (c : Channel) (id : Nat) : (c.drain id).2.nextId = c.nextId := by
    unfold Channel.drain
    split <;> rfl
  rw [step_onChannel]
  cases a with
  | subscribe => exact congrArg (· + 1) (hp _ _)
  | drain id => exact (hd _ id).trans (hp _ _)
  | _ => exact hp _ _

theorem step_subscriber {a : Action} {w : World} {id : Nat}
    (h : (step a w).1.result = .ok (.subscriber id)) :
    a = .subscribe ∧ id = w.context.channel.nextId := by
  have hmap {α : Type} {f : α → Result} {x : Except Failure α × World}
      (hx : (Action.map f x).1 = .ok (.subscriber id)) : ∃ y, f y = .subscriber id := by
    rcases x with ⟨_ | y, _⟩
    · cases hx
    · exact ⟨y, Except.ok.inj hx⟩
  cases a with
  | subscribe => cases h; exact ⟨rfl, rfl⟩
  | call _ _ | callAs _ _ _ | dispatch _ _ | operate _ _ | login _ _ =>
      obtain ⟨_, hy⟩ := hmap h
      cases hy
  | _ => cases h

/-- The subscribers of a run have numbers that were not given before and will not be given again. -/
theorem run_subscribers (actions : List Action) (w : World) :
    w.context.channel.nextId ≤ (run actions w).2.context.channel.nextId ∧
      ∀ s ∈ (run actions w).1, ∀ id, s.result = .ok (.subscriber id) →
        w.context.channel.nextId ≤ id ∧ id < (run actions w).2.context.channel.nextId := by
  induction actions generalizing w with
  | nil => exact ⟨Nat.le_refl _, List.forall_mem_nil _⟩
  | cons a actions ih =>
      obtain ⟨hle, hs⟩ := ih (step a w).2
      rw [step_nextId] at hle hs
      have hrun : (run (a :: actions) w).2 = (run actions (step a w).2).2 := rfl
      rw [hrun]
      refine ⟨by split at hle <;> omega, fun s hm id hid => ?_⟩
      rcases List.mem_cons.mp hm with rfl | hm
      · obtain ⟨rfl, rfl⟩ := step_subscriber hid
        simp only [↓reduceIte] at hle
        exact ⟨Nat.le_refl _, hle⟩
      · obtain ⟨h1, h2⟩ := hs s hm id hid
        exact ⟨by split at h1 <;> omega, h2⟩

end Session

/-! ## Listening changes nothing else -/

/-- The contexts differ at most in their channels. -/
structure Context.Akin (x y : Context) : Prop where
  token : x.token = y.token
  credentials : x.credentials = y.credentials

/-- The worlds differ at most in who listens, and in what happened before. -/
structure World.Akin (v w : World) : Prop where
  context : v.context.Akin w.context
  link : v.link = w.link

namespace Client

variable {x y : Context} (c : Client)

theorem trial_akin (h : x.Akin y) (r : Request) (link : Link) :
    c.trial r x link = c.trial r y link := by
  simp only [trial, Request.dispatch, Context.tokenFor, h.token, h.credentials]

theorem recovery_akin (h : x.Akin y) (r : Request) (link : Link) :
    c.recovery r x link = c.recovery r y link := by
  simp only [recovery, trial, Request.dispatch, Context.tokenFor, Context.invalidateToken,
    Context.setToken, h.credentials]

theorem courseWith_akin (h : x.Akin y) (left : Nat) (r : Request) (link : Link) :
    c.courseWith left r x link = c.courseWith left r y link := by
  induction left generalizing r link with
  | zero =>
      unfold courseWith
      simp only [c.trial_akin h, c.recovery_akin h]
  | succ left ih =>
      unfold courseWith
      simp only [c.trial_akin h, c.recovery_akin h, ih]

theorem course_akin {v w : World} (h : v.Akin w) (r : Request) : c.course r v = c.course r w := by
  rw [course, course, c.courseWith_akin h.context, h.link]

theorem run_akin {v w : World} (h : v.Akin w) (r : Request) :
    (c.run r v).1 = (c.run r w).1 ∧ (c.run r v).2.Akin (c.run r w).2 := by
  have hc := c.course_akin h r
  simp only [run_eq, Course.play, hc]
  refine ⟨trivial, ⟨?_, ?_⟩, ?_⟩
  · simp [Course.context, h.context.token]
  · simp [Course.context, h.context.credentials]
  · simp [h.link]

theorem login_akin {v w : World} (h : v.Akin w) (k : Credentials) :
    (c.login k v).2.Akin (c.login k w).2 := by
  unfold login World.transmit
  rw [h.link]
  dsimp only
  generalize c.exchange _ w.link = x
  cases x.outcome with
  | error f => exact ⟨h.context, rfl⟩
  | ok response =>
      dsimp only
      cases loginPayload response with
      | error f => exact ⟨h.context, rfl⟩
      | ok status => exact ⟨⟨h.context.token, rfl⟩, rfl⟩

end Client

theorem World.Akin.keep {v w : World} (h : v.Akin w) (t : Option String) :
    (v.keep t).Akin (w.keep t) := by
  cases t with
  | none => exact h
  | some token => exact ⟨⟨rfl, h.context.credentials⟩, h.link⟩

theorem Action.run_akin {v w : World} (h : v.Akin w) (a : Action) : (a.run v).2.Akin (a.run w).2 := by
  cases ha : a.call? with
  | some call =>
      obtain ⟨c, r⟩ := call
      obtain ⟨hr, hw⟩ := c.run_akin h r
      have hk : (a.run v).1 = (a.run w).1 := by
        cases a with
        | call _ _ => cases ha; simp only [run, map, hr]
        | callAs _ _ _ => cases ha; simp only [run, map, c.runAs_result, hr]
        | operate _ o => cases ha; simp only [run, map, o.perform_result, hr]
        | _ => cases ha
      rw [run_world ha, run_world ha, hk]
      exact hw.keep _
  | none =>
      cases a with
      | call _ _ | callAs _ _ _ | operate _ _ => cases ha
      | login c k => exact c.login_akin h k
      | dispatch c d => exact ⟨h.context, by simp only [run, map, World.transmit, h.link]⟩
      | logout | clearCredentials => exact ⟨⟨h.context.token, rfl⟩, h.link⟩
      | setToken _ | invalidateToken => exact ⟨⟨rfl, h.context.credentials⟩, h.link⟩
      | setCredentials _ => exact ⟨⟨h.context.token, rfl⟩, h.link⟩
      | subscribe | unsubscribe _ | drain _ =>
          exact ⟨⟨h.context.token, h.context.credentials⟩, h.link⟩
      | describeClient _ | describeContext => exact h

namespace Session

theorem step_akin {v w : World} (h : v.Akin w) (a : Action) :
    (step a v).2.Akin (step a w).2 ∧
      (step a v).1.journal.announced = (step a w).1.journal.announced := by
  have hf : v.freshJournal.Akin w.freshJournal := ⟨h.context, h.link⟩
  refine ⟨Action.run_akin hf a, ?_⟩
  cases ha : a.call? with
  | some call =>
      obtain ⟨c, r⟩ := call
      rw [step_announced ha, step_announced ha, c.course_akin h]
  | none =>
      have hv := (Action.run_announces_nothing ha v.freshJournal).1
      have hw := (Action.run_announces_nothing ha w.freshJournal).1
      exact hv.trans hw.symm

/-- In worlds that differ at most in who listens, the same events come to wait for a subscriber. -/
theorem awaited_akin {v w : World} (h : v.Akin w) (id : Nat) (es : List AuthEvent)
    (actions : List Action) : awaited id es (trace actions v) = awaited id es (trace actions w) := by
  induction actions generalizing v w es with
  | nil => rfl
  | cons a actions ih =>
      obtain ⟨hs, he⟩ := step_akin h a
      have hafter : awaitedAfter id es a (step a v).1 = awaitedAfter id es a (step a w).1 := by
        rw [awaitedAfter, awaitedAfter, he]
      exact (congrArg (awaited id · _) hafter).trans (ih hs _)

/-- Another subscriber that drains the channel or leaves it changes nothing about what waits. -/
theorem awaited_insert {id other : Nat} (hne : other ≠ id) {a : Action}
    (ha : a = .drain other ∨ a = .unsubscribe other) (es : List AuthEvent)
    (earlier later : List Action) (w : World) :
    awaited id es (trace (earlier ++ a :: later) w) = awaited id es (trace (earlier ++ later) w) := by
  have hakin (v : World) : (step a v).2.Akin v := by
    rcases ha with rfl | rfl
    · exact ⟨⟨rfl, rfl⟩, rfl⟩
    · exact ⟨⟨rfl, rfl⟩, rfl⟩
  have hafter (es : List AuthEvent) (v : World) : awaitedAfter id es a (step a v).1 = es := by
    have hd : a ≠ .drain id := by
      rcases ha with rfl | rfl
      · exact fun he => hne (Action.drain.inj he)
      · exact nofun
    rw [awaitedAfter, if_neg hd]
    rcases ha with rfl | rfl
    · exact List.append_nil es
    · exact List.append_nil es
  have hcons (es : List AuthEvent) (v : World) : awaited id es (trace (a :: later) v) =
      awaited id (awaitedAfter id es a (step a v).1) (trace later (step a v).2) := rfl
  rw [trace_append, trace_append, awaited, awaited, List.foldl_append, List.foldl_append]
  refine (hcons _ _).trans ?_
  rw [hafter]
  exact awaited_akin (hakin _) id _ later

/-! ## Sessions -/

/-- In every session with a fresh channel: a subscriber gets a number of its own. Whatever happens
then, unless it leaves, it drains just what was announced since it last did so or subscribed: the
latest sixteen events in their order, after one report of how many older ones are gone. What it
received and what it was told to have missed is all that was announced since it subscribed, less what
still waits. Another subscriber that drains the channel or leaves makes no difference, at whatever
point; and events that nobody listens to are not kept. -/
theorem drains_deliver (token : Option String) (credentials : Option Credentials) (link : Link)
    (before : List Action) :
    let start : World := { context := { token, credentials, channel := .empty }, link }
    let w := (run before start).2
    (∃ id, (step .subscribe w).1.result = .ok (.subscriber id) ∧
      (∀ s ∈ (run before start).1, s.result ≠ .ok (.subscriber id)) ∧
      ∀ since, .unsubscribe id ∉ since →
        let w' := (step .subscribe w).2
        let now := (run since w').2
        let waiting := awaited id [] (trace since w')
        (∀ s ∈ (run since w').1, s.result ≠ .ok (.subscriber id)) ∧
        (step (.drain id) now).1.result = .ok (.notices (Channel.delivery waiting)) ∧
        ((received id (trace since w')).map Notice.count).sum + waiting.length =
          (announced (trace since w')).length ∧
        ∀ other a earlier later, other ≠ id → (a = .drain other ∨ a = .unsubscribe other) →
          since = earlier ++ later →
          (step (.drain id) (run (earlier ++ a :: later) w').2).1.result =
            (step (.drain id) now).1.result) ∧
    (w.context.channel.subscribers = [] → ∀ a c r, a.call? = some (c, r) →
      (step a w).2.context.channel = w.context.channel) := by
  intro start w
  have hstart : start.context.channel.Keeps [] := .empty
  obtain ⟨kept, hk⟩ := run_keeps before hstart
  refine ⟨⟨w.context.channel.nextId, rfl, fun s hs he => ?_, fun since hs => ?_⟩,
    fun hn a c r ha => ?_⟩
  · obtain ⟨_, hlt⟩ := (run_subscribers before start).2 s hs _ he
    exact Nat.lt_irrefl _ hlt
  · intro w' now waiting
    have h : w'.context.channel.Awaits w.context.channel.nextId [] := Channel.awaits_subscribe hk
    obtain ⟨hw, hsum⟩ := run_awaits hs h
    refine ⟨fun s hs he => ?_, step_drain hw, by simpa using hsum, ?_⟩
    · obtain ⟨hle, _⟩ := (run_subscribers since w').2 s hs _ he
      exact Nat.lt_irrefl _ hle
    · intro other a earlier later hne ha hsplit
      subst hsplit
      have hs' : .unsubscribe w.context.channel.nextId ∉ earlier ++ a :: later := by
        have hna : .unsubscribe w.context.channel.nextId ≠ a := by
          rintro rfl
          rcases ha with ha | ha
          · cases ha
          · exact hne (Action.unsubscribe.inj ha).symm
        simpa [hna] using hs
      rw [step_drain (run_awaits hs' h).1, step_drain hw, awaited_insert hne ha]
  · exact (step_channel ha w).trans (Channel.publishAll_unheard hn _)

end Session

end CameraConsole
