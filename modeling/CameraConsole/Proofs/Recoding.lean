import CameraConsole.Payload.Kind
import CameraConsole.Proofs.KeyOrder

/-!
# Payloads decoded and written back

What a codec writes it decodes to the same payload, and the payload of a value in order also from
what is written of it in order. Codecs get this from those they are made of.
-/

namespace CameraConsole

/-! ## Codecs -/

namespace Codec

variable {α β : Type} {c : Codec α}

/-- Payloads survive being written. Where the members of objects are put in order on the way, those
do that were decoded from a value in order. -/
structure Faithful (c : Codec α) : Prop where
  decode_encode (x : α) : c.decode (c.encode x) = .ok x
  decode_ordered {v : Json} {x : α} (inOrder : v.InByteOrder) (h : c.decode v = .ok x) :
    c.decode (c.encode x).ordered = .ok x

/-- What is written without objects is in order. -/
theorem Faithful.of_ordered (h : ∀ x, c.decode (c.encode x) = .ok x)
    (plain : ∀ x, (c.encode x).ordered = c.encode x) : c.Faithful where
  decode_encode := h
  decode_ordered {_ x} _ _ := by rw [plain x, h x]

theorem text_faithful : text.Faithful :=
  .of_ordered (fun _ => rfl) (fun _ => rfl)

theorem bool_faithful : bool.Faithful :=
  .of_ordered (fun _ => rfl) (fun _ => rfl)

theorem real_faithful : real.Faithful :=
  .of_ordered (fun _ => rfl) (fun _ => rfl)

theorem unsigned_faithful {limit : Nat} {expected : String} {ofNat : Nat → α} {toNat : α → Nat}
    (fits : ∀ x, toNat x ≤ limit) (back : ∀ x, ofNat (toNat x) = x) :
    (unsigned limit expected ofNat toNat).Faithful := by
  refine .of_ordered (fun x => ?_) (fun _ => rfl)
  have hrange : (0 : Int) ≤ toNat x ∧ (toNat x : Int) ≤ limit :=
    ⟨Int.natCast_nonneg _, Int.ofNat_le.mpr (fits x)⟩
  have hread : unsignedOf limit expected (.int (toNat x)) = .ok (toNat x) := if_pos hrange
  exact bind_eq_ok_iff.mpr ⟨toNat x, hread, congrArg Except.ok (back x)⟩

theorem uint32_faithful : uint32.Faithful :=
  unsigned_faithful (fun x => Nat.le_of_lt_succ x.toNat_lt) (fun _ => UInt32.ofNat_toNat)

theorem uint64_faithful : uint64.Faithful :=
  unsigned_faithful (fun x => Nat.le_of_lt_succ x.toNat_lt) (fun _ => UInt64.ofNat_toNat)

theorem json_faithful : json.Faithful where
  decode_encode _ := rfl
  decode_ordered inOrder h := by
    cases h
    exact congrArg Except.ok inOrder.ordered_eq

theorem members_faithful : members.Faithful where
  decode_encode _ := rfl
  decode_ordered {v _} inOrder h := by
    cases v with
    | object ms =>
        cases h
        exact congrArg members.decode inOrder.ordered_eq
    | _ => cases h

namespace Faithful

theorem option (h : c.Faithful) (written : ∀ x, c.encode x ≠ .null) : c.option.Faithful := by
  have some_of {v : Json} {x : α} (hv : v ≠ .null) (hx : c.decode v = .ok x) :
      c.option.decode v = .ok (some x) := by
    have hd : c.option.decode v = (do .ok (some (← c.decode v))) := by
      cases v with
      | null => exact absurd rfl hv
      | _ => rfl
    exact hd.trans (bind_eq_ok_iff.mpr ⟨x, hx, rfl⟩)
  refine ⟨fun x => ?_, fun {v x} inOrder hx => ?_⟩
  · cases x with
    | none => rfl
    | some x => exact some_of (written x) (h.decode_encode x)
  · cases x with
    | none => rfl
    | some x =>
        have hv : c.decode v = .ok x := by
          cases v with
          | null => cases hx
          | _ =>
              obtain ⟨y, hy, hyx⟩ := bind_eq_ok_iff.mp hx
              cases hyx
              exact hy
        have hne : (c.encode x).ordered ≠ .null := fun hnull => written x (by
          revert hnull
          cases c.encode x <;> simp [Json.ordered])
        exact some_of hne (h.decode_ordered inOrder hv)

theorem list (h : c.Faithful) : c.list.Faithful where
  decode_encode xs := by
    change decodeItems c.decode (xs.map c.encode) = .ok xs
    induction xs with
    | nil => rfl
    | cons x xs ih =>
        exact bind_eq_ok_iff.mpr ⟨x, h.decode_encode x, bind_eq_ok_iff.mpr ⟨xs, ih, rfl⟩⟩
  decode_ordered {v xs} inOrder hxs := by
    cases v with
    | list items =>
        cases inOrder with
        | list each =>
            change decodeItems c.decode items = .ok xs at hxs
            change c.list.decode (Json.list (xs.map c.encode)).ordered = .ok xs
            rw [Json.ordered_list]
            change decodeItems c.decode ((xs.map c.encode).map Json.ordered) = .ok xs
            induction items generalizing xs with
            | nil =>
                cases hxs
                rfl
            | cons v items ih =>
                obtain ⟨x, hx, hrest⟩ := bind_eq_ok_iff.mp hxs
                obtain ⟨ys, hys, hcons⟩ := bind_eq_ok_iff.mp hrest
                cases hcons
                obtain ⟨hv, hitems⟩ := List.forall_mem_cons.mp each
                exact bind_eq_ok_iff.mpr
                  ⟨x, h.decode_ordered hv hx, bind_eq_ok_iff.mpr ⟨ys, ih hitems hys, rfl⟩⟩
    | _ => cases hxs

end Faithful

/-- A codec of records with these fields: what it writes is an object of exactly these, which it
decodes also among other members, and from the values alone. -/
structure Records (c : Codec α) (fields : List String) : Prop where
  faithful : c.Faithful
  written (x : α) : ∃ members, c.encode x = .object members ∧ members.map Prod.fst = fields ∧
    c.decode (.list (members.map Prod.snd)) = .ok x ∧
    ∀ among, members ⊆ among → (∀ m ∈ among, m.1 ∈ fields → m ∈ members) →
      c.decode (.object among) = .ok x

theorem Records.ne_null {fields : List String} (h : c.Records fields) (x : α) :
    c.encode x ≠ .null := by
  obtain ⟨members, hw, _⟩ := h.written x
  rw [hw]
  exact nofun

theorem Records.option {fields : List String} (h : c.Records fields) : c.option.Faithful :=
  h.faithful.option h.ne_null

theorem Records.map {fields : List String} (h : c.Records fields) {build : α → β} {parts : β → α}
    (built : ∀ y, build (parts y) = y) (parted : ∀ x, parts (build x) = x) :
    (c.map build parts).Records fields := by
  have decode_of {v : Json} {y : β} (hv : c.decode v = .ok (parts y)) :
      (c.map build parts).decode v = .ok y :=
    bind_eq_ok_iff.mpr ⟨parts y, hv, congrArg Except.ok (built y)⟩
  refine ⟨⟨fun y => decode_of (h.faithful.decode_encode _), fun {v y} inOrder hy => ?_⟩,
    fun y => ?_⟩
  · obtain ⟨x, hx, hxy⟩ := bind_eq_ok_iff.mp hy
    cases hxy
    rw [← parted x] at hx
    exact decode_of (h.faithful.decode_ordered inOrder hx)
  · obtain ⟨members, hw, hkeys, hlist, hamong⟩ := h.written (parts y)
    exact ⟨members, hw, hkeys, decode_of hlist, fun among hsub hnamed =>
      decode_of (hamong among hsub hnamed)⟩

end Codec

/-! ## Layouts -/

namespace Layout

/-- Every field has a faithful codec and a fallback that survives. -/
inductive Faithful : {ρ : Type} → Layout ρ → Prop where
  | done : Faithful .done
  | field {α ρ : Type} {name : String} {codec : Codec α} {fallback : Option α} {rest : Layout ρ}
      (faithful : codec.Faithful)
      (falls : ∀ x ∈ fallback, codec.decode (codec.encode x).ordered = .ok x)
      (others : Faithful rest) : Faithful (.field name codec fallback rest)

theorem Faithful.required {α ρ : Type} {name : String} {codec : Codec α} {rest : Layout ρ}
    (faithful : codec.Faithful) (others : rest.Faithful) :
    Faithful (.field name codec none rest) :=
  .field faithful (fun _ h => absurd h (Option.not_mem_none _)) others

theorem Faithful.optional {α ρ : Type} {name : String} {codec : Codec α} {x : α} {rest : Layout ρ}
    (faithful : codec.Faithful) (falls : codec.decode (codec.encode x).ordered = .ok x)
    (others : rest.Faithful) : Faithful (.field name codec (some x) rest) :=
  .field faithful (fun _ h => Option.some.inj h ▸ falls) others

/-- Every field stands among the members, and decodes to its part of the record wherever it
does. -/
def Stands (members : List (String × Json)) : {ρ : Type} → Layout ρ → ρ → Prop
  | _, .done, _ => True
  | _, .field name codec _ rest, (x, r) =>
    name ∈ members.map Prod.fst ∧ (∀ m ∈ members, m.1 = name → codec.decode m.2 = .ok x) ∧
      rest.Stands members r

/-- Every part of the record is read back from what `arrange` makes of its written form. -/
def ReadsBack (arrange : Json → Json) : {ρ : Type} → Layout ρ → ρ → Prop
  | _, .done, _ => True
  | _, .field _ codec _ rest, (x, r) =>
    codec.decode (arrange (codec.encode x)) = .ok x ∧ rest.ReadsBack arrange r

variable {ρ : Type}

theorem keys_encode (l : Layout ρ) (r : ρ) : (l.encode r).map Prod.fst = l.names := by
  induction l with
  | done => rfl
  | field name codec fallback rest ih => exact congrArg (name :: ·) (ih r.2)

theorem Stands.among {l : Layout ρ} {r : ρ} {members among : List (String × Json)}
    (h : l.Stands members r) (sub : members ⊆ among)
    (named : ∀ m ∈ among, m.1 ∈ l.names → m ∈ members) : l.Stands among r := by
  induction l with
  | done => trivial
  | field name codec fallback rest ih =>
      obtain ⟨hkey, hdecode, hrest⟩ := h
      refine ⟨List.map_subset _ sub hkey, fun m hm hname => ?_, ?_⟩
      · exact hdecode m (named m hm (hname ▸ List.mem_cons_self)) hname
      · exact ih hrest fun m hm hname => named m hm (List.mem_cons_of_mem _ hname)

theorem stands_encode {l : Layout ρ} (distinct : l.names.Nodup) {arrange : Json → Json} {r : ρ}
    (h : l.ReadsBack arrange r) :
    l.Stands ((l.encode r).map fun m => (m.1, arrange m.2)) r := by
  induction l with
  | done => trivial
  | field name codec fallback rest ih =>
      obtain ⟨hfresh, hdistinct⟩ := List.nodup_cons.mp distinct
      have hkeys : ∀ m ∈ (rest.encode r.2).map fun m => (m.1, arrange m.2), m.1 ∈ rest.names := by
        intro m hm
        obtain ⟨m', hm', rfl⟩ := List.mem_map.mp hm
        have hmem : m'.1 ∈ (rest.encode r.2).map Prod.fst := List.mem_map_of_mem hm'
        rwa [keys_encode] at hmem
      refine ⟨List.mem_cons_self, fun m hm hname => ?_, ?_⟩
      · rcases List.mem_cons.mp hm with rfl | hm
        · exact h.1
        · exact absurd (hname ▸ hkeys m hm) hfresh
      · refine (ih hdistinct h.2).among (List.subset_cons_self _ _) fun m hm hname => ?_
        rcases List.mem_cons.mp hm with rfl | hm
        · exact absurd hname hfresh
        · exact hm

theorem put_of_not_mem {l : Layout ρ} {key : String} (h : key ∉ l.names) (draft : Draft l)
    (v : Json) : l.put draft key v = .ok draft := by
  induction l with
  | done => rfl
  | field name codec fallback rest ih =>
      obtain ⟨hne, hrest⟩ := not_or.mp (mt List.mem_cons.mpr h)
      unfold put
      rw [if_neg hne, ih hrest]
      rfl

/-- Members of the name of the first field do not touch the others. -/
theorem putAll_field {α : Type} {name : String} {codec : Codec α} {fallback : Option α}
    {rest : Layout ρ} (fresh : name ∉ rest.names) {members : List (String × Json)} {x : α}
    (hx : ∀ m ∈ members, m.1 = name → codec.decode m.2 = .ok x) {first : Option α}
    {draft draft' : Draft rest} (hrest : rest.putAll draft members = .ok draft') :
    putAll (.field name codec fallback rest) (first, draft) members =
      .ok (if name ∈ members.map Prod.fst then some x else first, draft') := by
  induction members generalizing first draft with
  | nil =>
      cases hrest
      rfl
  | cons m members ih =>
      obtain ⟨key, v⟩ := m
      obtain ⟨hv, hmembers⟩ := List.forall_mem_cons.mp hx
      obtain ⟨mid, hput, hall⟩ := bind_eq_ok_iff.mp hrest
      refine bind_eq_ok_iff.mpr ?_
      by_cases hk : key = name
      · subst hk
        cases (put_of_not_mem fresh draft v).symm.trans hput
        refine ⟨(some x, draft), ?_, ?_⟩
        · exact (if_pos rfl).trans (bind_eq_ok_iff.mpr ⟨x, hv rfl, rfl⟩)
        · rw [ih hmembers hall, if_pos (by simp : key ∈ ((key, v) :: members).map Prod.fst), ite_self]
      · have hmem : name ∈ ((key, v) :: members).map Prod.fst ↔ name ∈ members.map Prod.fst := by
          simp [Ne.symm hk]
        refine ⟨(first, mid), ?_, ?_⟩
        · exact (if_neg hk).trans (bind_eq_ok_iff.mpr ⟨mid, hput, rfl⟩)
        · rw [ih hmembers hall]
          simp only [hmem]

theorem putAll_done (members : List (String × Json)) (draft : Draft .done) :
    putAll .done draft members = .ok draft := by
  induction members with
  | nil => rfl
  | cons m members ih => exact ih

theorem Stands.putAll {l : Layout ρ} (distinct : l.names.Nodup) {members : List (String × Json)}
    {r : ρ} (h : l.Stands members r) :
    ∃ draft, l.putAll l.blank members = .ok draft ∧ l.complete draft = .ok r := by
  induction l with
  | done => exact ⟨(), putAll_done members (), rfl⟩
  | field name codec fallback rest ih =>
      obtain ⟨x, r⟩ := r
      obtain ⟨hfresh, hdistinct⟩ := List.nodup_cons.mp distinct
      obtain ⟨hkey, hdecode, hrest⟩ := h
      obtain ⟨draft, hall, hdone⟩ := ih hdistinct hrest
      refine ⟨_, putAll_field hfresh hdecode hall, ?_⟩
      rw [if_pos hkey]
      exact bind_eq_ok_iff.mpr ⟨r, hdone, rfl⟩

theorem Stands.decode {l : Layout ρ} (distinct : l.names.Nodup) {members : List (String × Json)}
    {r : ρ} (h : l.Stands members r) (name : String) : l.decode name (.object members) = .ok r := by
  obtain ⟨draft, hall, hdone⟩ := h.putAll distinct
  exact bind_eq_ok_iff.mpr ⟨draft, hall, hdone⟩

theorem positional_encode {l : Layout ρ} {r : ρ} (h : l.ReadsBack id r) (expected : String)
    (index : Nat) :
    l.positional expected index ((l.encode r).map Prod.snd) = .ok (r, []) := by
  induction l generalizing index with
  | done => rfl
  | field name codec fallback rest ih =>
      obtain ⟨x, r⟩ := r
      exact bind_eq_ok_iff.mpr ⟨x, h.1, bind_eq_ok_iff.mpr ⟨(r, []), ih h.2 (index + 1), rfl⟩⟩

/-! ## Where the parts of a record come from -/

/-- Every part of the record is decoded from a value in order, or is the fallback of its field. -/
def Stems : {ρ : Type} → Layout ρ → ρ → Prop
  | _, .done, _ => True
  | _, .field _ codec fallback rest, (x, r) =>
    ((∃ v : Json, v.InByteOrder ∧ codec.decode v = .ok x) ∨ fallback = some x) ∧ rest.Stems r

/-- The same of the fields found so far. -/
def DraftStems : {ρ : Type} → (l : Layout ρ) → Draft l → Prop
  | _, .done, _ => True
  | _, .field _ codec _ rest, draft =>
    (∀ x, draft.1 = some x → ∃ v : Json, v.InByteOrder ∧ codec.decode v = .ok x) ∧
      rest.DraftStems draft.2

theorem blank_stems (l : Layout ρ) : l.DraftStems l.blank := by
  induction l with
  | done => trivial
  | field name codec fallback rest ih => exact ⟨nofun, ih⟩

theorem DraftStems.put {l : Layout ρ} {draft draft' : Draft l} (h : l.DraftStems draft)
    {key : String} {v : Json} (inOrder : v.InByteOrder) (hput : l.put draft key v = .ok draft') :
    l.DraftStems draft' := by
  induction l with
  | done => trivial
  | field name codec fallback rest ih =>
      unfold Layout.put at hput
      split at hput
      · obtain ⟨x, hx, hd⟩ := bind_eq_ok_iff.mp hput
        cases hd
        refine ⟨fun y hy => ?_, h.2⟩
        cases hy
        exact ⟨v, inOrder, hx⟩
      · obtain ⟨others, hothers, hd⟩ := bind_eq_ok_iff.mp hput
        cases hd
        exact ⟨h.1, ih h.2 hothers⟩

theorem DraftStems.putAll {l : Layout ρ} {draft draft' : Draft l} (h : l.DraftStems draft)
    {members : List (String × Json)} (inOrder : ∀ m ∈ members, m.2.InByteOrder)
    (hall : l.putAll draft members = .ok draft') : l.DraftStems draft' := by
  induction members generalizing draft with
  | nil =>
      cases hall
      exact h
  | cons m members ih =>
      obtain ⟨hm, hmembers⟩ := List.forall_mem_cons.mp inOrder
      obtain ⟨mid, hput, hrest⟩ := bind_eq_ok_iff.mp hall
      exact ih (h.put hm hput) hmembers hrest

theorem DraftStems.complete {l : Layout ρ} {draft : Draft l} (h : l.DraftStems draft) {r : ρ}
    (hdone : l.complete draft = .ok r) : l.Stems r := by
  induction l with
  | done => trivial
  | field name codec fallback rest ih =>
      unfold Layout.complete at hdone
      split at hdone
      · cases hdone
      · rename_i x hx
        obtain ⟨others, hothers, hr⟩ := bind_eq_ok_iff.mp hdone
        cases hr
        refine ⟨?_, ih h.2 hothers⟩
        cases hd : draft.1 with
        | some y =>
            rw [hd] at hx
            cases hx
            exact Or.inl (h.1 x hd)
        | none =>
            rw [hd] at hx
            exact Or.inr hx

theorem stems_of_positional {l : Layout ρ} {items left : List Json} {r : ρ} {expected : String}
    {index : Nat} (inOrder : ∀ v ∈ items, v.InByteOrder)
    (h : l.positional expected index items = .ok (r, left)) : l.Stems r := by
  induction l generalizing items index with
  | done => trivial
  | field name codec fallback rest ih =>
      unfold positional at h
      split at h
      · cases h
      · obtain ⟨⟨others, left'⟩, hothers, hr⟩ := bind_eq_ok_iff.mp h
        cases hr
        exact ⟨Or.inr rfl, ih inOrder hothers⟩
      · obtain ⟨x, hx, hrest⟩ := bind_eq_ok_iff.mp h
        obtain ⟨⟨others, left'⟩, hothers, hr⟩ := bind_eq_ok_iff.mp hrest
        cases hr
        obtain ⟨hv, hitems⟩ := List.forall_mem_cons.mp inOrder
        exact ⟨Or.inl ⟨_, hv, hx⟩, ih hitems hothers⟩

theorem stems_of_decode {l : Layout ρ} {name : String} {v : Json} {r : ρ}
    (inOrder : v.InByteOrder) (h : l.decode name v = .ok r) : l.Stems r := by
  cases inOrder with
  | object _ values =>
      obtain ⟨draft, hall, hdone⟩ := bind_eq_ok_iff.mp h
      exact (l.blank_stems.putAll values hall).complete hdone
  | list each =>
      obtain ⟨⟨r', left⟩, hpos, hleft⟩ := bind_eq_ok_iff.mp h
      dsimp only at hleft
      split at hleft
      · cases hleft
        exact stems_of_positional each hpos
      · cases hleft
  | _ => cases h

theorem Stems.readsBack {l : Layout ρ} (faithful : l.Faithful) {r : ρ} (h : l.Stems r) :
    l.ReadsBack Json.ordered r := by
  induction faithful with
  | done => trivial
  | field hcodec falls _ ih =>
      refine ⟨?_, ih h.2⟩
      rcases h.1 with ⟨v, inOrder, hv⟩ | hfall
      · exact hcodec.decode_ordered inOrder hv
      · exact falls _ hfall

theorem Faithful.readsBack {l : Layout ρ} (h : l.Faithful) (r : ρ) : l.ReadsBack id r := by
  induction h with
  | done => trivial
  | field hcodec _ _ ih => exact ⟨hcodec.decode_encode r.1, ih r.2⟩

theorem Faithful.stands {l : Layout ρ} (h : l.Faithful) (distinct : l.names.Nodup) (r : ρ) :
    l.Stands (l.encode r) r := by
  have hsame : ((l.encode r).map fun m => (m.1, id m.2)) = l.encode r := List.map_id _
  exact hsame ▸ stands_encode distinct (h.readsBack r)

/-- In order, the members are the same ones with values in order. -/
theorem ReadsBack.decode_ordered {l : Layout ρ} (distinct : l.names.Nodup) {r : ρ}
    (h : l.ReadsBack Json.ordered r) (name : String) :
    l.decode name (Json.object (l.encode r)).ordered = .ok r := by
  have hkeys : (((l.encode r).map fun m => (m.1, m.2.ordered)).map Prod.fst).Nodup := by
    rw [List.map_map]
    exact (keys_encode l r).symm ▸ distinct
  have hperm := Json.orderMembers_perm hkeys
  rw [Json.ordered_object]
  exact ((stands_encode distinct h).among hperm.symm.subset fun m hm _ => hperm.subset hm).decode
    distinct name

theorem Faithful.records {l : Layout ρ} (h : l.Faithful) (distinct : l.names.Nodup)
    (name : String) : (l.codec name).Records l.names where
  faithful :=
    { decode_encode r := (h.stands distinct r).decode distinct name
      decode_ordered inOrder hr :=
        ((stems_of_decode inOrder hr).readsBack h).decode_ordered distinct name }
  written r := by
    refine ⟨l.encode r, rfl, keys_encode l r, ?_, fun among sub named => ?_⟩
    · exact bind_eq_ok_iff.mpr ⟨(r, []), positional_encode (h.readsBack r) _ 0, rfl⟩
    · exact ((h.stands distinct r).among sub named).decode distinct name

end Layout

/-! ## The payloads -/

open Codec

/-- The fields of the payloads of a kind, as they are written. -/
def PayloadKind.fields : PayloadKind → List String
  | daemonConfig => ["csrf_token", "version", "cameras", "configuration", "categories"]
  | camera => ["id", "name", "url"]
  | mediaItem => ["id", "filename", "path", "date", "time", "size"]
  | temperature => ["celsius", "fahrenheit"]
  | uptime => ["seconds", "days", "hours"]
  | usage => ["total", "used", "free", "available", "percent"]
  | systemStatus => ["temperature", "uptime", "memory", "disk", "version"]
  | authStatus => ["authenticated", "auth_method"]
  | deletion => ["success", "deleted_id"]
  | powerAction => ["success", "operation", "message"]
  | parameterChange => ["param", "old", "new", "unchanged", "hot_reload", "error"]
  | patchSummary => ["total", "success", "errors"]
  | patchOutcome => ["status", "applied", "summary"]

namespace PayloadKind

theorem text_option : text.option.Faithful :=
  text_faithful.option fun _ => nofun

theorem bool_option : bool.option.Faithful :=
  bool_faithful.option fun _ => nofun

theorem daemonConfig_records : DaemonConfig.codec.Records daemonConfig.fields :=
  ((Layout.Faithful.optional text_option rfl <|
    .optional text_faithful rfl <|
    .optional json_faithful rfl <|
    .optional members_faithful rfl <|
    .optional members_faithful rfl .done).records (by decide) _).map (fun _ => rfl) (fun _ => rfl)

theorem camera_records : Camera.codec.Records camera.fields :=
  ((Layout.Faithful.required uint32_faithful <|
    .required text_faithful <|
    .required text_faithful .done).records (by decide) _).map (fun _ => rfl) (fun _ => rfl)

theorem mediaItem_records : MediaItem.codec.Records mediaItem.fields :=
  ((Layout.Faithful.required uint64_faithful <|
    .required text_faithful <|
    .required text_faithful <|
    .required text_faithful <|
    .optional text_option rfl <|
    .required uint64_faithful .done).records (by decide) _).map (fun _ => rfl) (fun _ => rfl)

theorem temperature_records : Temperature.codec.Records temperature.fields :=
  ((Layout.Faithful.required real_faithful <|
    .required real_faithful .done).records (by decide) _).map (fun _ => rfl) (fun _ => rfl)

theorem uptime_records : Uptime.codec.Records uptime.fields :=
  ((Layout.Faithful.required uint64_faithful <|
    .required uint64_faithful <|
    .required uint64_faithful .done).records (by decide) _).map (fun _ => rfl) (fun _ => rfl)

theorem usage_records : Usage.codec.Records usage.fields :=
  ((Layout.Faithful.required uint64_faithful <|
    .required uint64_faithful <|
    .required uint64_faithful <|
    .required uint64_faithful <|
    .required real_faithful .done).records (by decide) _).map (fun _ => rfl) (fun _ => rfl)

theorem systemStatus_records : SystemStatus.codec.Records systemStatus.fields :=
  ((Layout.Faithful.optional temperature_records.option rfl <|
    .optional uptime_records.option rfl <|
    .optional usage_records.option rfl <|
    .optional usage_records.option rfl <|
    .optional text_faithful rfl .done).records (by decide) _).map (fun _ => rfl) (fun _ => rfl)

theorem authStatus_records : AuthStatus.codec.Records authStatus.fields :=
  ((Layout.Faithful.required bool_faithful <|
    .optional text_option rfl .done).records (by decide) _).map (fun _ => rfl) (fun _ => rfl)

theorem deletion_records : Deletion.codec.Records deletion.fields :=
  ((Layout.Faithful.required bool_faithful <|
    .required uint64_faithful .done).records (by decide) _).map (fun _ => rfl) (fun _ => rfl)

theorem powerAction_records : PowerAction.codec.Records powerAction.fields :=
  ((Layout.Faithful.required bool_faithful <|
    .required text_faithful <|
    .required text_faithful .done).records (by decide) _).map (fun _ => rfl) (fun _ => rfl)

theorem parameterChange_records : ParameterChange.codec.Records parameterChange.fields :=
  ((Layout.Faithful.required text_faithful <|
    .optional text_faithful rfl <|
    .optional text_faithful rfl <|
    .optional bool_faithful rfl <|
    .optional bool_option rfl <|
    .optional text_option rfl .done).records (by decide) _).map (fun _ => rfl) (fun _ => rfl)

theorem patchSummary_records : PatchSummary.codec.Records patchSummary.fields :=
  ((Layout.Faithful.required uint32_faithful <|
    .required uint32_faithful <|
    .required uint32_faithful .done).records (by decide) _).map (fun _ => rfl) (fun _ => rfl)

theorem patchOutcome_records : PatchOutcome.codec.Records patchOutcome.fields :=
  ((Layout.Faithful.required text_faithful <|
    .optional parameterChange_records.faithful.list rfl <|
    .optional patchSummary_records.faithful rfl .done).records (by decide) _).map
      (fun _ => rfl) (fun _ => rfl)

theorem records (k : PayloadKind) : k.codec.Records k.fields := by
  cases k with
  | daemonConfig => exact daemonConfig_records
  | camera => exact camera_records
  | mediaItem => exact mediaItem_records
  | temperature => exact temperature_records
  | uptime => exact uptime_records
  | usage => exact usage_records
  | systemStatus => exact systemStatus_records
  | authStatus => exact authStatus_records
  | deletion => exact deletion_records
  | powerAction => exact powerAction_records
  | parameterChange => exact parameterChange_records
  | patchSummary => exact patchSummary_records
  | patchOutcome => exact patchOutcome_records

/-- Payloads do not drift. Whatever a payload was decoded from, its written form has exactly the
fields of its kind and decodes to the same payload: wherever its members stand among others, as a
list of the values alone, and with everything in order if the source was. Decoding and writing back
once more changes nothing. -/
theorem recode_stable (k : PayloadKind) {v : Json} {x : k.Payload}
    (h : k.codec.decode v = .ok x) :
    ∃ written, k.codec.encode x = .object written ∧ written.map Prod.fst = k.fields ∧
      k.codec.decode (.object written) = .ok x ∧
      (∀ among, written ⊆ among → (∀ m ∈ among, m.1 ∈ k.fields → m ∈ written) →
        k.codec.decode (.object among) = .ok x) ∧
      k.codec.decode (.list (written.map Prod.snd)) = .ok x ∧
      (v.InByteOrder → k.codec.decode (Json.object written).ordered = .ok x) ∧
      k.recode v = .ok (.object written) ∧ k.recode (.object written) = .ok (.object written) := by
  obtain ⟨written, hw, hkeys, hlist, hamong⟩ := k.records.written x
  have hback : k.codec.decode (.object written) = .ok x := hw ▸ k.records.faithful.decode_encode x
  have recode_of {u : Json} (hu : k.codec.decode u = .ok x) : k.recode u = .ok (.object written) :=
    bind_eq_ok_iff.mpr ⟨x, hu, congrArg Except.ok hw⟩
  exact ⟨written, hw, hkeys, hback, hamong, hlist,
    fun inOrder => hw ▸ k.records.faithful.decode_ordered inOrder h, recode_of h, recode_of hback⟩

theorem recode_stable_partial :
    let v : Json := .object
      [("applied", .list [.list [.text "width", .text "640"],
        .object [("comment", .null), ("param", .text "height")]]), ("status", .text "ok")]
    let x : PatchOutcome :=
      ⟨"ok", [⟨"width", "640", "", false, none, none⟩, ⟨"height", "", "", false, none, none⟩],
        ⟨0, 0, 0⟩⟩
    PatchOutcome.codec.decode v = .ok x ∧
      ∃ written, PatchOutcome.codec.encode x = .object written ∧
        written.map Prod.fst = ["status", "applied", "summary"] ∧
        PatchOutcome.codec.decode (.object written) = .ok x ∧
        PatchOutcome.codec.decode (.list (written.map Prod.snd)) = .ok x ∧
        patchOutcome.recode v = .ok (.object written) ∧
        patchOutcome.recode (.object written) = .ok (.object written) := by
  intro v x
  have h : patchOutcome.codec.decode v = .ok x := rfl
  obtain ⟨written, hw, hkeys, hback, _, hlist, _, hv, hagain⟩ := recode_stable patchOutcome h
  exact ⟨h, written, hw, hkeys, hback, hlist, hv, hagain⟩

end PayloadKind

end CameraConsole
