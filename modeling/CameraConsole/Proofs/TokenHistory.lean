import CameraConsole.Proofs.Actions
import CameraConsole.Proofs.Attempts
import CameraConsole.Proofs.Exchange

/-!
# The history of the token

What happens to the slot of the token, in order: tokens are sent with messages, rejected, cleared and
stored. A history leads from what the slot held before to what it holds after; courses and actions
have such histories.
-/

namespace CameraConsole

/-! ## Histories -/

/-- Where a token in the slot comes from. -/
inductive TokenSource where
  /-- It was set on request. -/
  | setting
  /-- It came with the configuration that an operation fetched. -/
  | config
  /-- The recovery of a call fetched it. -/
  | recovery
  deriving DecidableEq

inductive TokenEvent where
  /-- A message with this token was sent. -/
  | sent (token : String)
  /-- A mutating request met a 403 with this in the slot, which is cleared. -/
  | rejected (held : Option String)
  /-- The slot was cleared on request. -/
  | cleared
  | stored (source : TokenSource) (token : String)
  deriving DecidableEq

namespace TokenEvent

def sent? : TokenEvent → Option String
  | sent token => some token
  | _ => none

@[simp] theorem filterMap_sent?_stored (source : TokenSource) (t : Option String) :
    (t.map (stored source)).toList.filterMap sent? = [] := by
  cases t <;> rfl

def after (slot : Option String) : TokenEvent → Option String
  | sent _ => slot
  | rejected _ | cleared => none
  | stored _ token => some token

/-- The event can happen with this in the slot. -/
def Fits (slot : Option String) : TokenEvent → Prop
  | sent token => slot = some token
  | rejected held => slot = held
  | cleared => True
  | stored _ token => token ≠ ""

/-- The event clears or fills the slot. -/
def Writes : TokenEvent → Prop
  | sent _ => False
  | _ => True

end TokenEvent

/-- The events lead from one content of the slot to the other. -/
inductive SlotPath : Option String → List TokenEvent → Option String → Prop where
  | nil {slot : Option String} : SlotPath slot [] slot
  | cons {slot final : Option String} {e : TokenEvent} {es : List TokenEvent} (fits : e.Fits slot)
      (rest : SlotPath (e.after slot) es final) : SlotPath slot (e :: es) final

namespace SlotPath

variable {slot mid final : Option String} {es fs : List TokenEvent} {token : String}

theorem append (h : SlotPath slot es mid) (h' : SlotPath mid fs final) :
    SlotPath slot (es ++ fs) final := by
  induction h with
  | nil => exact h'
  | cons fits _ ih => exact .cons fits (ih h')

theorem of_append (h : SlotPath slot (es ++ fs) final) :
    ∃ mid, SlotPath slot es mid ∧ SlotPath mid fs final := by
  induction es generalizing slot with
  | nil => exact ⟨slot, .nil, h⟩
  | cons e es ih =>
      cases h with
      | cons fits rest =>
          obtain ⟨mid, h1, h2⟩ := ih rest
          exact ⟨mid, .cons fits h1, h2⟩

theorem flatMap {α : Type} {f : α → List TokenEvent} {xs : List α}
    (h : ∀ x ∈ xs, SlotPath slot (f x) slot) : SlotPath slot (xs.flatMap f) slot := by
  induction xs with
  | nil => exact .nil
  | cons x xs ih =>
      have hx := h x List.mem_cons_self
      exact hx.append (ih fun y hy => h y (List.mem_cons_of_mem x hy))

theorem sends {tokens : List String} (h : ∀ token ∈ tokens, slot = some token) :
    SlotPath slot (tokens.map .sent) slot := by
  induction tokens with
  | nil => exact .nil
  | cons token tokens ih =>
      exact .cons (h token List.mem_cons_self) (ih fun t ht => h t (List.mem_cons_of_mem token ht))

/-- A token in the slot was there from the start or was stored, and nothing was written since. -/
theorem origin (h : SlotPath slot es (some token)) :
    (slot = some token ∧ ∀ e ∈ es, ¬ e.Writes) ∨
      ∃ before source after, es = before ++ .stored source token :: after ∧ token ≠ "" ∧
        ∀ e ∈ after, ¬ e.Writes := by
  induction es generalizing slot with
  | nil => cases h; exact Or.inl ⟨rfl, nofun⟩
  | cons e es ih =>
      cases h with
      | cons fits rest =>
          rcases ih rest with ⟨he, hes⟩ | ⟨before, source, after, rfl, ht, ha⟩
          · -- Nothing is written later: the slot was full before this event, or it filled it.
            cases e with
            | sent t => exact Or.inl ⟨he, by simpa [TokenEvent.Writes] using hes⟩
            | stored source t => cases he; exact Or.inr ⟨[], source, es, rfl, fits, hes⟩
            | rejected _ | cleared => cases he
          · exact Or.inr ⟨e :: before, source, after, rfl, ht, ha⟩

theorem origin_of_none (h : SlotPath none es (some token)) :
    ∃ before source after, es = before ++ .stored source token :: after ∧ token ≠ "" ∧
      ∀ e ∈ after, ¬ e.Writes := by
  rcases h.origin with ⟨h, _⟩ | h
  · cases h
  · exact h

/-- A token that is sent after a rejection was stored in between. -/
theorem stored_of_sent {held : Option String} {before between after : List TokenEvent}
    (h : SlotPath slot (before ++ .rejected held :: (between ++ .sent token :: after)) final) :
    ∃ source, .stored source token ∈ between := by
  obtain ⟨_, _, h⟩ := h.of_append
  cases h with
  | cons _ rest =>
      obtain ⟨mid, hb, hs⟩ := rest.of_append
      cases hs with
      | cons fits _ =>
          cases fits
          obtain ⟨_, source, _, rfl, _, _⟩ := origin_of_none hb
          exact ⟨source, List.mem_append_right _ List.mem_cons_self⟩

end SlotPath

/-! ## Courses -/

def tokensOf (sent : List Message) : List String :=
  sent.flatMap (·.headers.csrfToken)

@[simp] theorem tokensOf_append (xs ys : List Message) :
    tokensOf (xs ++ ys) = tokensOf xs ++ tokensOf ys :=
  List.flatMap_append

theorem Client.tokensOf_exchange (c : Client) {d : Dispatch} (h : d.token = none) {link : Link} :
    tokensOf (c.exchange d link).sent = [] := by
  refine List.flatMap_eq_nil_iff.mpr fun m hm => ?_
  rw [exchange_csrfToken hm, h]
  rfl

def Attempt.tokenEvents (a : Attempt) : List TokenEvent :=
  (tokensOf a.exchange.sent).map .sent

/-- The slot held this when the request was forbidden. -/
def Recovery.tokenEvents (held : Option String) (v : Recovery) : List TokenEvent :=
  .rejected held :: (v.fetch.tokenEvents ++ ((v.fetch.granted?.map (.stored .recovery)).toList ++
    v.replay.toList.flatMap Attempt.tokenEvents))

def Course.tokenEvents (course : Course) : List TokenEvent :=
  course.retried.flatMap Attempt.tokenEvents ++ (course.main.tokenEvents ++
    (course.recovery.map (Recovery.tokenEvents course.main.dispatch.token)).getD [])

/-- The history of a course tells all the tokens that were sent in it. -/
theorem Course.sent_tokenEvents (course : Course) :
    course.tokenEvents.filterMap TokenEvent.sent? =
      tokensOf (course.attempts.flatMap (·.exchange.sent)) := by
  have one (a : Attempt) : a.tokenEvents.filterMap TokenEvent.sent? = tokensOf a.exchange.sent := by
    simp [Attempt.tokenEvents, List.filterMap_map, Function.comp_def, TokenEvent.sent?]
  have many (as : List Attempt) : (as.flatMap Attempt.tokenEvents).filterMap TokenEvent.sent? =
      tokensOf (as.flatMap (·.exchange.sent)) := by
    induction as with
    | nil => rfl
    | cons a as ih => simp [one, ih]
  unfold tokenEvents attempts
  cases course.recovery with
  | none => simp [one, many]
  | some v =>
      simp [one, many, Recovery.tokenEvents, Recovery.attempts, List.filterMap_cons,
        TokenEvent.sent?]

namespace SlotPath

variable {c : Client} {r : Request} {context : Context}

/-- An attempt sends the token of its context or none. -/
theorem attempt {a : Attempt} (hx : ∃ link, a.exchange = c.exchange a.dispatch link)
    (hd : a.dispatch = r.dispatch context) :
    SlotPath context.token a.tokenEvents context.token := by
  refine sends fun token ht => ?_
  obtain ⟨m, hm, ht⟩ := List.mem_flatMap.mp ht
  obtain ⟨link, hx⟩ := hx
  rw [Client.exchange_csrfToken (hx ▸ hm), hd] at ht
  simp only [Request.dispatch, Context.tokenFor, Option.mem_toList] at ht
  split at ht
  · exact ht
  · cases ht

/-- A recovery clears the slot and leaves the token that it fetched, whatever becomes of the replay. -/
theorem recovery {v : Recovery} (hv : v.Regular r context)
    (hx : ∀ a ∈ v.attempts, ∃ link, a.exchange = c.exchange a.dispatch link) :
    SlotPath context.token (v.tokenEvents context.token) v.fetch.granted? := by
  have hfetch : SlotPath none v.fetch.tokenEvents none :=
    attempt (hx v.fetch List.mem_cons_self) hv.fetch_dispatch
  refine cons rfl (hfetch.append ?_)
  cases hg : v.fetch.granted? with
  | none => simpa [hv.replay_eq_none hg] using nil
  | some token =>
      obtain ⟨a, ha, hd⟩ := hv.replay_eq_some hg
      have hne := Attempt.granted?_ne_empty hg
      have hreplay := attempt (hx a (by simp [Recovery.attempts, ha])) hd
      simp only [Context.setToken, hne, ↓reduceIte] at hreplay
      simp only [ha, Option.map_some, Option.toList_some, List.flatMap_singleton, List.singleton_append]
      exact cons hne hreplay

end SlotPath

theorem Client.Takes.slotPath {c : Client} {context : Context} {left : Nat} {r : Request}
    {link : Link} {course : Course} (h : c.Takes context left r link course) :
    SlotPath context.token course.tokenEvents (course.token context.token) := by
  have hx {a : Attempt} (ha : a ∈ course.attempts) := h.serves.exchange_of_mem ha
  have hretried : SlotPath context.token (course.retried.flatMap Attempt.tokenEvents) context.token :=
    SlotPath.flatMap fun a ha =>
      .attempt (hx (List.mem_append_left _ ha)) (h.retried_transient a ha).1
  have hmain : SlotPath context.token course.main.tokenEvents context.token :=
    .attempt (hx (by simp [Course.attempts])) h.main_dispatch
  refine hretried.append (hmain.append ?_)
  rcases h.recovery_cases with ⟨hf, v, hv, hr⟩ | ⟨_, hn⟩
  · have hheld : course.main.dispatch.token = context.token := by
      have hm := hf.2
      simp only [h.main_dispatch, Request.dispatch] at hm
      simp only [h.main_dispatch, Request.dispatch, Context.tokenFor, hm, ↓reduceIte]
    simp only [Course.token, hv, Option.map_some, Option.getD_some, hheld]
    exact .recovery hr fun a ha => hx (by simp [Course.attempts, hv, ha])
  · simpa [Course.token, hn] using .nil

/-! ## Actions -/

theorem Result.token?_ne_empty {x : Result} {token : String} (h : x.token? = some token) :
    token ≠ "" := by
  cases x with
  | answer y =>
      cases y with
      | config config =>
          simp only [Result.token?, Answer.token?, DaemonConfig.token?, Option.filter_eq_some_iff,
            decide_eq_true_eq] at h
          exact h.2
      | _ => cases h
  | _ => cases h

def Action.kept? (a : Action) (w : World) : Option String :=
  (a.run w).1.toOption.bind Result.token?

/-- What an action without a call does to the slot. -/
def Action.ownTokenEvents : Action → List TokenEvent
  | setToken token => if token = "" then [.cleared] else [.stored .setting token]
  | invalidateToken => [.cleared]
  | _ => []

def Action.tokenEvents (a : Action) (w : World) : List TokenEvent :=
  match a.call? with
  | some (c, r) => (c.course r w).tokenEvents ++ ((a.kept? w).map (.stored .config)).toList
  | none => a.ownTokenEvents

theorem SlotPath.keep {w : World} {t : Option String} (h : ∀ token ∈ t, token ≠ "") :
    SlotPath w.context.token (t.map (.stored .config)).toList (w.keep t).context.token := by
  cases t with
  | none => exact .nil
  | some token =>
      have hne := h token rfl
      simp only [World.keep, World.adjust, Context.setToken, hne, ↓reduceIte]
      exact .cons hne .nil

theorem Action.slotPath (a : Action) (w : World) :
    SlotPath w.context.token (a.tokenEvents w) (a.run w).2.context.token := by
  unfold tokenEvents
  split
  · rename_i c r h
    rw [run_world h]
    refine (c.course_takes r w).slotPath.append ?_
    have hkept : ∀ token ∈ a.kept? w, token ≠ "" := by
      intro token ht
      obtain ⟨x, _, hx⟩ := Option.bind_eq_some_iff.mp ht
      exact Result.token?_ne_empty hx
    -- What is kept is stored after the call, in the slot that the course leaves.
    have hk := SlotPath.keep (w := (c.run r w).2) hkept
    rwa [c.run_context] at hk
  · rename_i h
    cases a with
    | call _ _ | callAs _ _ _ | operate _ _ => cases h
    | login c k =>
        simp only [run, map, c.login_token, ownTokenEvents]
        exact .nil
    | setToken token =>
        simp only [ownTokenEvents, run, World.adjust, Context.setToken]
        split
        · exact .cons trivial .nil
        · rename_i hne
          exact .cons hne .nil
    | invalidateToken => exact .cons trivial .nil
    | _ => exact .nil

/-- The history of an action tells all the tokens that were sent in it, unless it is an attempt
outside of any call. -/
theorem Action.sent_tokenEvents {a : Action} (ha : ∀ c d, a ≠ .dispatch c d) (w : World) :
    tokensOf (a.run w).2.journal.sent =
      tokensOf w.journal.sent ++ (a.tokenEvents w).filterMap TokenEvent.sent? := by
  unfold tokenEvents
  split
  · rename_i c r h
    simp [run_world h, c.run_sent, Course.sent_tokenEvents]
  · rename_i h
    cases a with
    | call _ _ | callAs _ _ _ | operate _ _ => cases h
    | dispatch c d => exact absurd rfl (ha c d)
    | login c k =>
        simp [run, map, c.login_sent, c.tokensOf_exchange (rfl : k.dispatch.token = none),
          ownTokenEvents]
    | setToken token =>
        simp only [ownTokenEvents]
        split <;> simp [run, World.adjust, TokenEvent.sent?]
    | _ => simp [run, World.adjust, ownTokenEvents, TokenEvent.sent?]

end CameraConsole
