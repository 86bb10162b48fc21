import CameraConsole.Proofs.ConsoleRuns
import CameraConsole.Proofs.ReadBack

/-!
# The changes of a patch

Every item of a patch assigns a value to a parameter; the first equals sign stands between them. Of
the values of one parameter the last counts. What the daemon is sent is read back as these changes.
-/

namespace CameraConsole

/-! ## Assignments -/

/-- The item has this parameter before its first equals sign, and this value behind it. -/
def Assigns (item key value : String) : Prop :=
  item = key ++ "=" ++ value ∧ '=' ∉ key.toList

/-- Of the items that assign something to the parameter, the last assigns this value. -/
def Sets (items : List String) (key value : String) : Prop :=
  ∃ before item after, items = before ++ item :: after ∧ Assigns item key value ∧
    ∀ later ∈ after, ∀ other, ¬ Assigns later key other

namespace Assigns

variable {item key key' value value' : String}

theorem toList_eq (h : Assigns item key value) :
    item.toList = key.toList ++ '=' :: value.toList := by
  rw [h.1]
  simp

theorem readChange_eq (h : Assigns item key value) : readChange item = .ok (key, .text value) := by
  have hkey : ∀ c ∈ key.toList, decide (c ≠ '=') = true := fun c hc =>
    decide_eq_true fun he => h.2 (he ▸ hc)
  have htake : item.toList.takeWhile (· ≠ '=') = key.toList := by
    rw [h.toList_eq, List.takeWhile_append_of_pos hkey, List.takeWhile_cons_of_neg (by decide),
      List.append_nil]
  have hdrop : item.toList.dropWhile (· ≠ '=') = '=' :: value.toList := by
    rw [h.toList_eq, List.dropWhile_append_of_pos hkey, List.dropWhile_cons_of_neg (by decide)]
  unfold readChange
  rw [htake, hdrop]
  dsimp only
  rw [String.ofList_toList, String.ofList_toList]

theorem unique (h : Assigns item key value) (h' : Assigns item key' value') :
    key = key' ∧ value = value' := by
  cases h.readChange_eq.symm.trans h'.readChange_eq
  exact ⟨rfl, rfl⟩

end Assigns

theorem exists_assigns {item : String} (h : '=' ∈ item.toList) :
    ∃ key value, Assigns item key value := by
  obtain ⟨key, value, hi, hkey⟩ := List.eq_append_cons_of_mem h
  refine ⟨String.ofList key, String.ofList value, String.toList_inj.mp ?_, ?_⟩
  · rw [hi]
    simp
  · rwa [String.toList_ofList]

theorem readChange_unassigned {item : String} (h : '=' ∉ item.toList) :
    readChange item = .error (.notAChange item) := by
  have hdrop : item.toList.dropWhile (· ≠ '=') = [] :=
    List.dropWhile_eq_nil_iff.mpr fun c hc => decide_eq_true fun he => h (he ▸ hc)
  unfold readChange
  rw [hdrop]

/-! ## Lists of items -/

/-- The items that assign these values to these parameters. -/
def assignments (pairs : List (String × String)) : List String :=
  pairs.map fun p => p.1 ++ "=" ++ p.2

section

variable {pairs : List (String × String)} {items : List String} {key value : String}

theorem exists_assignments (h : ∀ item ∈ items, '=' ∈ item.toList) :
    ∃ pairs, items = assignments pairs ∧ ∀ p ∈ pairs, '=' ∉ p.1.toList := by
  induction items with
  | nil => exact ⟨[], rfl, List.forall_mem_nil _⟩
  | cons item items ih =>
      obtain ⟨hitem, hitems⟩ := List.forall_mem_cons.mp h
      obtain ⟨key, value, rfl, hkey⟩ := exists_assigns hitem
      obtain ⟨pairs, rfl, hpairs⟩ := ih hitems
      exact ⟨(key, value) :: pairs, rfl, List.forall_mem_cons.mpr ⟨hkey, hpairs⟩⟩

theorem readChangeList_assignments (h : ∀ p ∈ pairs, '=' ∉ p.1.toList) :
    readChangeList (assignments pairs) = .ok (pairs.map fun p => (p.1, .text p.2)) := by
  induction pairs with
  | nil => rfl
  | cons p pairs ih =>
      obtain ⟨hp, hpairs⟩ := List.forall_mem_cons.mp h
      have hfirst : readChange (p.1 ++ "=" ++ p.2) = .ok (p.1, .text p.2) :=
        Assigns.readChange_eq ⟨rfl, hp⟩
      exact bind_eq_ok_iff.mpr ⟨_, hfirst, bind_eq_ok_iff.mpr ⟨_, ih hpairs, rfl⟩⟩

/-- Which value is the last can be seen from the pairs as well as from the items. -/
theorem sets_assignments_iff (h : ∀ p ∈ pairs, '=' ∉ p.1.toList) :
    Sets (assignments pairs) key value ↔ pairs.reverse.lookup key = some value := by
  have assigns {p : String × String} (hp : p ∈ pairs) : Assigns (p.1 ++ "=" ++ p.2) p.1 p.2 :=
    ⟨rfl, h p hp⟩
  rw [lookup_reverse_eq_some_iff]
  constructor
  · rintro ⟨_, _, _, hi, ha, later⟩
    obtain ⟨before, _, rfl, _, hrest⟩ := List.map_eq_append_iff.mp hi
    obtain ⟨p, after, rfl, rfl, rfl⟩ := List.map_eq_cons_iff.mp hrest
    obtain ⟨rfl, rfl⟩ := ha.unique (assigns (List.mem_append_right _ List.mem_cons_self))
    refine ⟨before, after, rfl, fun q hq he => ?_⟩
    have hassigns := assigns (List.mem_append_right before (List.mem_cons_of_mem p hq))
    rw [he] at hassigns
    exact later _ (List.mem_map.mpr ⟨q, hq, by rw [he]⟩) q.2 hassigns
  · rintro ⟨before, after, rfl, later⟩
    refine ⟨assignments before, _, assignments after, List.map_append,
      assigns (List.mem_append_right _ List.mem_cons_self), fun item hi other ha => ?_⟩
    obtain ⟨q, hq, rfl⟩ := List.mem_map.mp hi
    have hassigns := assigns (List.mem_append_right before (List.mem_cons_of_mem _ hq))
    exact later q hq (hassigns.unique ha).1

theorem lookup_texts (key : String) (pairs : List (String × String)) :
    (pairs.map fun p => (p.1, Json.text p.2)).lookup key = (pairs.lookup key).map Json.text := by
  induction pairs with
  | nil => rfl
  | cons p pairs ih =>
      rw [List.map_cons, List.lookup_cons, List.lookup_cons, ih]
      cases key == p.1 <;> rfl

/-- A parameter that is assigned anything is set by the last item that does so. -/
theorem exists_sets {item : String} (h : ∀ item ∈ items, '=' ∈ item.toList) (hi : item ∈ items)
    (ha : Assigns item key value) : ∃ last, Sets items key last := by
  obtain ⟨pairs, rfl, hpairs⟩ := exists_assignments h
  obtain ⟨p, hp, rfl⟩ := List.mem_map.mp hi
  have hkey : p.1 = key := (Assigns.unique ⟨rfl, hpairs p hp⟩ ha).1
  cases hl : pairs.reverse.lookup key with
  | some last => exact ⟨last, (sets_assignments_iff hpairs).mpr hl⟩
  | none =>
      have hne := List.lookup_eq_none_iff.mp hl p (List.mem_reverse.mpr hp)
      exact absurd hkey.symm (bne_iff_ne.mp hne)

end

/-! ## Changes -/

theorem Json.Ascending.mem_iff {members : List (String × Json)} (h : Ascending members)
    {key : String} {v : Json} : (key, v) ∈ members ↔ members.lookup key = some v := by
  induction members with
  | nil => exact ⟨nofun, nofun⟩
  | cons m rest ih =>
      obtain ⟨k, u⟩ := m
      obtain ⟨hfirst, hrest⟩ := List.pairwise_cons.mp h
      rw [List.mem_cons, ih hrest, lookup_cons_if, Prod.mk.injEq]
      by_cases hk : key = k
      · have hnone : rest.lookup key ≠ some v := fun hl => by
          have hlt := hfirst _ ((ih hrest).mpr hl)
          exact String.lt_irrefl k (hk ▸ hlt)
        rw [if_pos hk, Option.some.injEq]
        exact ⟨fun hm => (hm.resolve_right hnone).2.symm, fun hu => Or.inl ⟨hk, hu.symm⟩⟩
      · rw [if_neg hk]
        exact ⟨fun hm => hm.resolve_left fun he => hk he.1, Or.inr⟩

section

variable {items : List String} {changes : List (String × Json)}

theorem readChanges_eq_ok_iff : readChanges items = .ok changes ↔
    items ≠ [] ∧ ∃ members, readChangeList items = .ok members ∧
      Json.orderMembers members = changes := by
  cases items with
  | nil => exact ⟨nofun, fun h => absurd rfl h.1⟩
  | cons item items =>
      have hread : readChanges (item :: items) =
        (readChangeList (item :: items) >>= fun members => .ok (Json.orderMembers members)) := rfl
      rw [hread, bind_eq_ok_iff]
      simp

theorem assigned_of_readChanges (h : readChanges items = .ok changes) :
    ∀ item ∈ items, '=' ∈ item.toList := by
  obtain ⟨_, members, hm, _⟩ := readChanges_eq_ok_iff.mp h
  exact isOk_readChangeList_iff.mp (isOk_iff_exists.mpr ⟨members, hm⟩)

theorem ascending_of_readChanges (h : readChanges items = .ok changes) :
    Json.Ascending changes := by
  obtain ⟨_, members, _, rfl⟩ := readChanges_eq_ok_iff.mp h
  exact Json.ascending_orderMembers members

/-- The changes are the parameters with the values that the items set them to, as texts. -/
theorem mem_changes_iff (h : readChanges items = .ok changes) {key : String} {v : Json} :
    (key, v) ∈ changes ↔ ∃ value, v = .text value ∧ Sets items key value := by
  obtain ⟨_, members, hm, ho⟩ := readChanges_eq_ok_iff.mp h
  obtain ⟨pairs, rfl, hpairs⟩ := exists_assignments (assigned_of_readChanges h)
  rw [readChangeList_assignments hpairs] at hm
  cases hm
  rw [(ascending_of_readChanges h).mem_iff, ← ho, Json.lookup_orderMembers, ← List.map_reverse,
    lookup_texts, Option.map_eq_some_iff]
  simp only [sets_assignments_iff hpairs, and_comm, eq_comm]

theorem changes_texts (h : readChanges items = .ok changes) :
    ∀ m ∈ changes, ∃ value, m.2 = .text value := by
  intro m hm
  obtain ⟨value, hv, _⟩ := (mem_changes_iff h).mp hm
  exact ⟨value, hv⟩

theorem readChangeList_unassigned {before after : List String} {item : String}
    (hb : ∀ x ∈ before, '=' ∈ x.toList) (hi : '=' ∉ item.toList) :
    readChangeList (before ++ item :: after) = .error (.notAChange item) := by
  induction before with
  | nil =>
      rw [List.nil_append, readChangeList, readChange_unassigned hi]
      rfl
  | cons x before ih =>
      obtain ⟨hx, hbefore⟩ := List.forall_mem_cons.mp hb
      obtain ⟨key, value, ha⟩ := exists_assigns hx
      rw [List.cons_append, readChangeList, ha.readChange_eq, ih hbefore]
      rfl

/-- Reading fails for want of items, or at the first item that assigns nothing. -/
theorem readChanges_eq_error_iff {fault : UsageFault} : readChanges items = .error fault ↔
    (items = [] ∧ fault = .noChanges) ∨
      ∃ before item after, items = before ++ item :: after ∧ (∀ x ∈ before, '=' ∈ x.toList) ∧
        '=' ∉ item.toList ∧ fault = .notAChange item := by
  have fails {before after : List String} {item : String} (hb : ∀ x ∈ before, '=' ∈ x.toList)
      (hi : '=' ∉ item.toList) :
      readChanges (before ++ item :: after) = .error (.notAChange item) := by
    unfold readChanges
    split
    · rename_i hnil
      exact absurd hnil (List.append_ne_nil_of_right_ne_nil _ (List.cons_ne_nil _ _))
    · rw [readChangeList_unassigned hb hi]
      rfl
  constructor
  · intro h
    cases hf : items.find? fun item => decide ('=' ∉ item.toList) with
    | none =>
        have hall : ∀ item ∈ items, '=' ∈ item.toList := fun item hi => by
          simpa using List.find?_eq_none.mp hf item hi
        refine Or.inl ?_
        cases items with
        | nil =>
            cases h
            exact ⟨rfl, rfl⟩
        | cons item items =>
            obtain ⟨members, hm⟩ := isOk_iff_exists.mp (isOk_readChangeList_iff.mpr hall)
            have hok := readChanges_eq_ok_iff.mpr ⟨List.cons_ne_nil item items, members, hm, rfl⟩
            cases h.symm.trans hok
    | some item =>
        obtain ⟨hi, before, after, rfl, hbefore⟩ := List.find?_eq_some_iff_append.mp hf
        have hb : ∀ x ∈ before, '=' ∈ x.toList := fun x hx => by simpa using hbefore x hx
        have hn : '=' ∉ item.toList := of_decide_eq_true hi
        cases h.symm.trans (fails hb hn)
        exact Or.inr ⟨before, item, after, rfl, hb, hn, rfl⟩
  · rintro (⟨rfl, rfl⟩ | ⟨before, item, after, rfl, hb, hi, rfl⟩)
    · rfl
    · exact fails hb hi

/-- What is sent for changes is read back as these changes: their texts nest nowhere. -/
theorem ofText_changes (h : readChanges items = .ok changes) :
    Json.ofText (bodyText (.object changes)) = .ok (.object changes) := by
  have plain : ∀ m ∈ changes, m.2.InByteOrder ∧ m.2.Whole ∧ m.2.depth ≤ 0 := by
    intro m hm
    obtain ⟨value, hv⟩ := changes_texts h m hm
    rw [hv]
    exact ⟨.text value, .text value, Nat.le_refl 0⟩
  have inOrder : (Json.object changes).InByteOrder :=
    .object (Json.ascending_iff.mp (ascending_of_readChanges h)) fun m hm => (plain m hm).1
  have whole : (Json.object changes).Whole := .object fun m hm => (plain m hm).2.1
  have flat : Json.depthMembers changes ≤ 0 :=
    Json.depthMembers_le_iff.mpr fun m hm => (plain m hm).2.2
  have shallow : (Json.object changes).depth < Scan.depthLimit := by
    rw [Json.depth]
    exact Nat.lt_of_le_of_lt (Nat.succ_le_succ flat) (by decide)
  unfold bodyText
  rw [inOrder.ordered_eq]
  exact Json.ofText_render (whole.readable inOrder) shallow

end

/-! ## Messages -/

/-- The second message is a read, or it asks for the same with the same body. -/
def Message.Restates (m m' : Message) : Prop :=
  m'.method = .get ∨ (m'.method = m.method ∧ m'.body = m.body)

theorem Message.Restates.trans {m m' m'' : Message} (h : m.Restates m') (h' : m'.Restates m'') :
    m.Restates m'' := by
  rcases h' with h' | ⟨hmethod', hbody'⟩
  · exact Or.inl h'
  · rcases h with h | ⟨hmethod, hbody⟩
    · exact Or.inl (hmethod'.trans h)
    · exact Or.inr ⟨hmethod'.trans hmethod, hbody'.trans hbody⟩

theorem Message.redirected?_restates {m next : Message} {r : Reply}
    (h : m.redirected? r = some next) : m.Restates next := by
  simp only [redirected?, Option.bind_eq_bind, Option.bind_eq_some_iff, Option.some.injEq] at h
  obtain ⟨base, hb, _, _, url, _, rfl⟩ := h
  show base.method = .get ∨ (base.method = m.method ∧ base.body = m.body)
  unfold repeated? at hb
  split at hb
  · cases hb
    exact Or.inl rfl
  split at hb
  · cases hb
    exact Or.inr ⟨rfl, rfl⟩
  · cases hb

theorem Redirects.restates {m : Message} {rest : List Message} (h : Redirects m rest) :
    ∀ m' ∈ rest, m.Restates m' := by
  induction h with
  | nil m => exact List.forall_mem_nil _
  | cons reply hr _ ih =>
      have hn := Message.redirected?_restates hr
      exact List.forall_mem_cons.mpr ⟨hn, fun m' hm => hn.trans (ih m' hm)⟩

/-- Whatever an attempt sends besides reads has its verb and its body. -/
theorem Client.exchange_body {c : Client} {d : Dispatch} {link : Link} {m : Message}
    (h : m ∈ (c.exchange d link).sent) (hm : m.method ≠ .get) :
    m.method = d.method ∧ m.body = (d.body.map bodyText).getD "" := by
  rcases c.exchange_cases d link with ⟨_, hx⟩ | ⟨first, hfirst, hx⟩
  · rw [hx] at h
    cases h
  · obtain ⟨rest, hs, hr⟩ := converse_redirects c.config.timeout maxRedirects 0 first link.replies
    obtain ⟨url, _, _, _, _, rfl⟩ := message_eq_ok_iff.mp hfirst
    rw [hx, hs] at h
    rcases List.mem_cons.mp h with rfl | h
    · exact ⟨rfl, rfl⟩
    · exact (hr.restates m h).resolve_left hm

/-! ## Runs -/

namespace Console

variable {given : List (String × String)} {items : List String} {changes : List (String × Json)}
  {o : Operation}

theorem ofCommand_patch {cam : String} (ho : Operation.ofCommand "patch" (cam :: items) = .ok o)
    (h : readChanges items = .ok changes) : ∃ n, o = .patchConfig n changes := by
  obtain ⟨n, _, hrest⟩ := bind_eq_ok_iff.mp ho
  obtain ⟨changes', hchanges, hdone⟩ := bind_eq_ok_iff.mp hrest
  cases h.symm.trans hchanges
  cases hdone
  exact ⟨n, rfl⟩

/-- Attempts to patch have the changes as their body; the other attempts are reads. -/
theorem carryOut_patches (n : UInt32) (changes : List (String × Json)) (env : Environment)
    (c : Client) (context : Context) (link : Link) :
    let attempts := (carryOut env c context (.patchConfig n changes) link).world.journal.attempts
    (∃ a ∈ attempts, a.dispatch.method = .patch) ∧
      ∀ a ∈ attempts, (∃ link', a.exchange = c.exchange a.dispatch link') ∧
        (a.dispatch.method = .patch → a.dispatch.body = some (.object changes)) := by
  intro attempts
  let w := listening context link
  let r := (Operation.patchConfig n changes).request
  have hconfig := c.course_takes (Client.read .config) w
  have hpatch := c.course_takes r (prime c w)
  have hattempts : attempts = (c.course (Client.read .config) w).attempts ++
      (c.course r (prime c w)).attempts := carryOut_attempts ..
  refine ⟨⟨(c.course r (prime c w)).main, ?_, ?_⟩, fun a ha => ?_⟩
  · rw [hattempts]
    simp [Course.attempts]
  · rw [hpatch.main_dispatch]
    rfl
  · rw [hattempts] at ha
    rcases List.mem_append.mp ha with ha | ha
    · refine ⟨hconfig.serves.exchange_of_mem ha, fun hm => ?_⟩
      rw [Client.dispatch_of_read rfl ha] at hm
      cases hm
    · refine ⟨hpatch.serves.exchange_of_mem ha, fun hm => ?_⟩
      obtain ⟨_, _, hd | hd⟩ := hpatch.dispatch_of_mem ha
      · rw [hd]
        rfl
      · rw [hd] at hm
        cases hm

/-- Whatever a run with these items sends to patch is read back as their changes. -/
theorem run_patches (h : readChanges items = .ok changes) (env : Environment)
    (options : ∀ x ∈ given, Options.isOption x.1) (cam : String) (link : Link) :
    let j := (run env (Options.words given ++ "patch" :: cam :: items) link).world.journal
    (∀ a ∈ j.attempts, a.dispatch.method = .patch → a.dispatch.body = some (.object changes)) ∧
      ∀ m ∈ j.sent, m.method = .patch → Json.ofText m.body = .ok (.object changes) := by
  intro j
  have plain : ¬ Options.isOption "patch" := by decide
  rcases run_line env options plain (cam :: items) with idle | ⟨c, context, o, _, ho, hr⟩
  · rw [show j = {} from (idle.unmoved link).journal]
    exact ⟨List.forall_mem_nil _, List.forall_mem_nil _⟩
  · obtain ⟨n, rfl⟩ := ofCommand_patch ho h
    obtain ⟨_, patches⟩ := carryOut_patches n changes env c context link
    rw [show j = _ from congrArg (·.world.journal) (hr link)]
    refine ⟨fun a ha => (patches a ha).2, fun m hm hmethod => ?_⟩
    rw [carryOut_accounts env c context (.patchConfig n changes) link, List.mem_flatMap] at hm
    obtain ⟨a, ha, hm⟩ := hm
    obtain ⟨⟨link', hx⟩, hbody⟩ := patches a ha
    rw [hx] at hm
    obtain ⟨hverb, hsent⟩ := Client.exchange_body hm (by rw [hmethod]; decide)
    rw [hsent, hbody (hverb.symm.trans hmethod)]
    exact ofText_changes h

/-- With a camera and a client there is something to be sent. -/
theorem run_attempts_patch (h : readChanges items = .ok changes) {env : Environment}
    (options : ∀ x ∈ given, Options.isOption x.1) {cam : String} {n : Nat} (fits : n < UInt32.size)
    (numeral : Text.Numeral cam n) {c : Client} {context : Context}
    (built : (builder env (.ofGiven given)).build .empty = .ok (c, context)) (link : Link) :
    ∃ a ∈ (run env (Options.words given ++ "patch" :: cam :: items) link).world.journal.attempts,
      a.dispatch.method = .patch := by
  have hread : Text.readNumeral Text.max32 cam = .ok n :=
    Text.readNumeral_eq_ok_iff.mpr ⟨numeral, Nat.le_sub_one_of_lt fits⟩
  have hnumber : numeralArgument "cam" "camera" Text.max32 (cam :: items) 0 = .ok n :=
    bind_eq_ok_iff.mpr ⟨cam, rfl, mapError_eq_ok_iff.mpr hread⟩
  have hcam : cameraArgument (cam :: items) 0 = .ok (UInt32.ofNat n) :=
    map_eq_ok_iff.mpr ⟨n, hnumber, rfl⟩
  have ho : Operation.ofCommand "patch" (cam :: items) =
      .ok (.patchConfig (UInt32.ofNat n) changes) :=
    bind_eq_ok_iff.mpr ⟨_, hcam, bind_eq_ok_iff.mpr ⟨_, h, rfl⟩⟩
  rw [run_carryOut options (by decide) (by decide) built ho]
  exact (carryOut_patches _ _ env c context link).1

/-- Items can be read just when there are some and each has an equals sign; else the fault names the
first without one, if there are any. The changes are the parameters before the first equals signs,
each once and with the text behind the first equals sign of the last item that has it. Whatever a run
with these items sends to patch, redirects and replays included, is the text of an object that is
read back as these changes. -/
theorem patch_changes_exactly (items : List String) :
    ((∃ changes, readChanges items = .ok changes) ↔
      items ≠ [] ∧ ∀ item ∈ items, '=' ∈ item.toList) ∧
    (∀ fault, readChanges items = .error fault ↔
      (items = [] ∧ fault = .noChanges) ∨
        ∃ before item after, items = before ++ item :: after ∧ (∀ x ∈ before, '=' ∈ x.toList) ∧
          '=' ∉ item.toList ∧ fault = .notAChange item ∧
          fault.message = "expected <param=value>, got " ++ Text.quote item) ∧
    ∀ changes, readChanges items = .ok changes →
      (changes.Pairwise fun m m' => m.1 < m'.1) ∧
      (∀ key, (∃ v, (key, v) ∈ changes) ↔ ∃ item ∈ items, ∃ value, Assigns item key value) ∧
      (∀ key v, (key, v) ∈ changes ↔ ∃ value, v = .text value ∧ Sets items key value) ∧
      ∀ env given cam link, (∀ x ∈ given, Options.isOption x.1) →
        let j := (run env (Options.words given ++ "patch" :: cam :: items) link).world.journal
        (∀ a ∈ j.attempts, a.dispatch.method = .patch → ∃ body, a.dispatch.body = some body ∧
          Json.ofText (bodyText body) = .ok (.object changes)) ∧
        (∀ m ∈ j.sent, m.method = .patch → Json.ofText m.body = .ok (.object changes)) ∧
        ∀ n < UInt32.size, Text.Numeral cam n →
          ∀ built, (builder env (.ofGiven given)).build .empty = .ok built →
            ∃ a ∈ j.attempts, a.dispatch.method = .patch := by
  refine ⟨⟨?_, ?_⟩, fun fault => readChanges_eq_error_iff.trans (or_congr_right ⟨?_, ?_⟩),
    fun changes h =>
      ⟨ascending_of_readChanges h, fun key => ?_, fun key v => mem_changes_iff h, ?_⟩⟩
  · rintro ⟨changes, h⟩
    exact ⟨(readChanges_eq_ok_iff.mp h).1, assigned_of_readChanges h⟩
  · rintro ⟨hne, hall⟩
    obtain ⟨members, hm⟩ := isOk_iff_exists.mp (isOk_readChangeList_iff.mpr hall)
    exact ⟨_, readChanges_eq_ok_iff.mpr ⟨hne, members, hm, rfl⟩⟩
  · rintro ⟨before, item, after, hi, hb, hn, rfl⟩
    exact ⟨before, item, after, hi, hb, hn, rfl, rfl⟩
  · rintro ⟨before, item, after, hi, hb, hn, hf, _⟩
    exact ⟨before, item, after, hi, hb, hn, hf⟩
  · simp only [mem_changes_iff h]
    constructor
    · rintro ⟨_, value, _, _, item, _, rfl, ha, _⟩
      exact ⟨item, List.mem_append_right _ List.mem_cons_self, value, ha⟩
    · rintro ⟨item, hi, value, ha⟩
      obtain ⟨last, hl⟩ := exists_sets (assigned_of_readChanges h) hi ha
      exact ⟨_, last, rfl, hl⟩
  · intro env given cam link options j
    obtain ⟨attempts, sent⟩ := run_patches h env options cam link
    exact ⟨fun a ha hm => ⟨_, attempts a ha hm, ofText_changes h⟩, sent,
      fun n fits numeral built hb => run_attempts_patch h options fits numeral hb link⟩

theorem patch_changes_exactly_repeated :
    let items := ["threshold=2000", "text_left=a=b", "threshold=", "=\n"]
    let changes := [("", .text "\n"), ("text_left", .text "a=b"), ("threshold", .text "")]
    let j := (run [] ("patch" :: "1" :: items) reluctant).world.journal
    let body := "\x7b\"\":\"\\n\",\"text_left\":\"a=b\",\"threshold\":\"\"\x7d"
    readChanges items = .ok changes ∧ Sets items "threshold" "" ∧
      ((j.sent.filter (·.method = .patch)).map (·.body)) = [body, body, body] ∧
      (∀ m ∈ j.sent, m.method = .patch → Json.ofText m.body = .ok (.object changes)) ∧
      (∃ a ∈ j.attempts, a.dispatch.method = .patch) ∧
      readChanges ["a=1", "b", "c"] = .error (.notAChange "b") ∧
      ∃ before after, ["a=1", "b", "c"] = before ++ "b" :: after ∧
        ∀ x ∈ before, '=' ∈ x.toList := by
  intro items changes j body
  have hread : readChanges items = .ok changes := by decide +kernel
  obtain ⟨_, _, spec⟩ := patch_changes_exactly items
  obtain ⟨_, _, hset, hruns⟩ := spec changes hread
  obtain ⟨value, hv, hsets⟩ := (hset "threshold" (.text "")).mp (by decide)
  cases hv
  obtain ⟨_, hsent, hsome⟩ := hruns [] [] "1" reluctant (List.forall_mem_nil _)
  have hone : Text.Numeral "1" 1 :=
    ⟨['1'], Or.inl rfl, by decide, List.forall_mem_singleton.mpr (by decide), rfl⟩
  have hbuilt : (builder [] (.ofGiven [])).build .empty = .ok (Client.onLocalhost, .empty) := by
    decide +kernel
  have hfails : readChanges ["a=1", "b", "c"] = .error (.notAChange "b") := by decide +kernel
  refine ⟨hread, hsets, by decide +kernel, hsent, hsome 1 (by decide) hone _ hbuilt, hfails, ?_⟩
  rcases ((patch_changes_exactly _).2.1 _).mp hfails with ⟨hnil, _⟩ |
    ⟨before, item, after, hplace, hbefore, _, hfault, _⟩
  · cases hnil
  · cases hfault
    exact ⟨before, after, hplace, hbefore⟩

end Console

end CameraConsole
