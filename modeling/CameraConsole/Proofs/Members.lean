import CameraConsole.Payload.Layout
import CameraConsole.Proofs.Results

/-!
# Members of objects

Of members with the same key the last one in the text counts, for whoever asks for a member and for
records alike.
-/

namespace CameraConsole

/-! ## The order of keys -/

/-- Looked up from the end, a key has the value of its last pair. -/
theorem lookup_reverse_eq_some_iff {α : Type} {key : String} {v : α} {pairs : List (String × α)} :
    pairs.reverse.lookup key = some v ↔
      ∃ before after, pairs = before ++ (key, v) :: after ∧ ∀ m ∈ after, m.1 ≠ key := by
  rw [List.lookup_eq_some_iff]
  constructor
  · rintro ⟨after, before, h, hafter⟩
    refine ⟨before.reverse, after.reverse, ?_, fun m hm => ?_⟩
    · rw [← pairs.reverse_reverse, h]
      simp
    · exact (bne_iff_ne.mp (hafter m (List.mem_reverse.mp hm))).symm
  · rintro ⟨before, after, rfl, hafter⟩
    refine ⟨after.reverse, before.reverse, by simp, fun m hm => ?_⟩
    exact bne_iff_ne.mpr (hafter m (List.mem_reverse.mp hm)).symm

namespace Json

/-- The last member of this key has this value. -/
def LastIs (key : String) (v : Json) (members : List (String × Json)) : Prop :=
  ∃ before after, members = before ++ (key, v) :: after ∧ ∀ m ∈ after, m.1 ≠ key

theorem lookup_reverse_iff {key : String} {v : Json} {members : List (String × Json)} :
    members.reverse.lookup key = some v ↔ LastIs key v members :=
  lookup_reverse_eq_some_iff

theorem lookup_cons_if (key k : String) (v : Json) (rest : List (String × Json)) :
    ((k, v) :: rest).lookup key = if key = k then some v else rest.lookup key := by
  rw [List.lookup_cons]
  split
  · rename_i h
    rw [if_pos (eq_of_beq h)]
  · rename_i h
    rw [if_neg (ne_of_beq_false h)]

theorem lookup_insertMember (key k : String) (v : Json) (members : List (String × Json)) :
    (insertMember key v members).lookup k = if k = key then some v else members.lookup k := by
  induction members with
  | nil => exact lookup_cons_if k key v []
  | cons m rest ih =>
      obtain ⟨k', v'⟩ := m
      unfold insertMember
      split
      · exact lookup_cons_if k key v _
      split
      · rename_i hk
        subst hk
        rw [lookup_cons_if, lookup_cons_if]
        split <;> rfl
      · rename_i hne
        rw [lookup_cons_if, ih, lookup_cons_if]
        by_cases h : k = key
        · rw [if_pos h, if_neg (h ▸ hne), if_pos h]
        · rw [if_neg h, if_neg h]

theorem orderMembers_eq (members : List (String × Json)) :
    orderMembers members = members.foldl (fun ordered m => insertMember m.1 m.2 ordered) [] :=
  rfl

/-- An object has the value of the last member of every key. -/
theorem lookup_orderMembers (key : String) (members : List (String × Json)) :
    (orderMembers members).lookup key = members.reverse.lookup key := by
  suffices ∀ ordered : List (String × Json),
      (members.foldl (fun ordered m => insertMember m.1 m.2 ordered) ordered).lookup key =
        (members.reverse.lookup key).or (ordered.lookup key) by
    rw [orderMembers_eq, this []]
    exact Option.or_none
  induction members with
  | nil => intro ordered; simp
  | cons m rest ih =>
      intro ordered
      obtain ⟨k, v⟩ := m
      rw [List.foldl_cons, ih, lookup_insertMember, List.reverse_cons, List.lookup_append,
        Option.or_assoc]
      congr 1
      rw [lookup_cons_if]
      split <;> rfl

def Ascending (members : List (String × Json)) : Prop :=
  members.Pairwise fun m m' => m.1 < m'.1

theorem mem_insertMember {key : String} {v : Json} {members : List (String × Json)}
    {m : String × Json} (h : m ∈ insertMember key v members) : m = (key, v) ∨ m ∈ members := by
  induction members with
  | nil => exact Or.inl (List.mem_singleton.mp h)
  | cons m' rest ih =>
      unfold insertMember at h
      split at h
      · exact List.mem_cons.mp h
      split at h
      · exact (List.mem_cons.mp h).imp id (List.mem_cons_of_mem _)
      · rcases List.mem_cons.mp h with rfl | h
        · exact Or.inr List.mem_cons_self
        · exact (ih h).imp id (List.mem_cons_of_mem _)

theorem Ascending.insertMember {members : List (String × Json)} (h : Ascending members)
    (key : String) (v : Json) : Ascending (insertMember key v members) := by
  induction members with
  | nil => exact List.pairwise_singleton _ _
  | cons m rest ih =>
      obtain ⟨k, u⟩ := m
      obtain ⟨hfirst, hrest⟩ := List.pairwise_cons.mp h
      unfold Json.insertMember
      split
      · rename_i hlt
        refine List.pairwise_cons.mpr ⟨fun m hm => ?_, h⟩
        rcases List.mem_cons.mp hm with rfl | hm
        · exact hlt
        · exact String.lt_trans hlt (hfirst m hm)
      split
      · rename_i heq
        subst heq
        exact List.pairwise_cons.mpr ⟨hfirst, hrest⟩
      · rename_i hnlt hne
        have hlt : k < key := Decidable.byContradiction fun hn =>
          hne (String.le_antisymm (String.not_lt.mp hn) (String.not_lt.mp hnlt))
        refine List.pairwise_cons.mpr ⟨fun m hm => ?_, ih hrest⟩
        rcases mem_insertMember hm with rfl | hm
        · exact hlt
        · exact hfirst m hm

theorem ascending_orderMembers (members : List (String × Json)) :
    Ascending (orderMembers members) := by
  suffices ∀ ordered, Ascending ordered →
      Ascending (members.foldl (fun ordered m => insertMember m.1 m.2 ordered) ordered) from
    this [] .nil
  induction members with
  | nil => exact fun ordered h => h
  | cons m rest ih => exact fun ordered h => ih _ (h.insertMember m.1 m.2)

theorem Ascending.lookup_reverse {members : List (String × Json)} (h : Ascending members)
    (key : String) : members.reverse.lookup key = members.lookup key := by
  induction members with
  | nil => rfl
  | cons m rest ih =>
      obtain ⟨k, v⟩ := m
      obtain ⟨hfirst, hrest⟩ := List.pairwise_cons.mp h
      rw [List.reverse_cons, List.lookup_append, ih hrest, lookup_cons_if, lookup_cons_if]
      by_cases hk : key = k
      · have hnone : rest.lookup key = none := List.lookup_eq_none_iff.mpr fun m hm =>
          bne_iff_ne.mpr fun heq => String.lt_irrefl m.1 (by simpa [← hk, heq] using hfirst m hm)
        rw [hnone, if_pos hk, if_pos hk, Option.none_or]
      · rw [if_neg hk, if_neg hk]
        exact Option.or_none

end Json

/-! ## Texts of objects -/

namespace Scan

theorem value_eq_object_iff {fuel room : Nat} {p q : Cursor} {members : List (String × Json)} :
    value (fuel + 1) room p = .ok (.object members, q) ↔
      ∃ rest written, p.skipGap.rest = '\x7b' :: rest ∧ 1 < room ∧
        objectMembers fuel (room - 1) true p.skipGap.eat = .ok (written, q) ∧
        Json.orderMembers written = members := by
  rw [value]
  dsimp only
  split
  case h_1 hp => simp [hp]
  case h_7 rest hp => split <;> simp [hp, bind_eq_ok_iff]
  case h_8 rest hp =>
    split
    · have hr : ¬ 1 < room := by omega
      simp [hr]
    · have hr : 1 < room := by omega
      simp [bind_eq_ok_iff, hp, hr]
  case h_9 c rest _ _ _ _ _ _ hc hp =>
    have hne : ∀ rest', p.skipGap.rest ≠ '\x7b' :: rest' := by
      intro rest' h
      rw [hp] at h
      exact hc (List.cons.inj h).1
    split <;> simp [hne, bind_eq_ok_iff]
  all_goals
    rename_i hp
    simp [hp, bind_eq_ok_iff]

theorem finish_eq_ok_iff {α : Type} {x y : α} {q : Cursor} :
    finish (x, q) = .ok y ↔ q.skipGap.rest = [] ∧ x = y := by
  unfold finish
  dsimp only
  split
  · rename_i hq
    simp [hq]
  · rename_i hq
    exact ⟨nofun, fun h => absurd h.1 hq⟩

end Scan

theorem Cursor.skipGapFrom_rest (p : Cursor) : (skipGapFrom p.rest p).rest <:+ p.rest := by
  obtain ⟨rest, line, column⟩ := p
  induction rest generalizing line column with
  | nil => exact List.suffix_rfl
  | cons c rest ih =>
      unfold skipGapFrom
      split
      · refine List.IsSuffix.trans ?_ (List.suffix_cons c rest)
        unfold after
        split
        · exact ih _ _
        · exact ih _ _
      · exact List.suffix_rfl

namespace Json

/-- The text holds an object, and these are its members in the order of the text. -/
def ObjectText (s : String) (members : List (String × Json)) : Prop :=
  ∃ rest q, (Cursor.ofText s).skipGap.rest = '\x7b' :: rest ∧
    Scan.objectMembers (2 * s.toList.length + 1) (Scan.depthLimit - 1) true
      (Cursor.ofText s).skipGap.eat = .ok (members, q) ∧
    q.skipGap.rest = []

theorem ofText_eq_object_iff {s : String} {members : List (String × Json)} :
    ofText s = .ok (.object members) ↔
      ∃ written, ObjectText s written ∧ orderMembers written = members := by
  unfold ofText ObjectText
  simp only [bind_eq_ok_iff, Prod.exists, Scan.finish_eq_ok_iff]
  constructor
  · rintro ⟨_, q, hv, hq, rfl⟩
    obtain ⟨rest, written, hp, _, hm, ho⟩ := Scan.value_eq_object_iff.mp hv
    exact ⟨written, ⟨rest, q, hp, hm, hq⟩, ho⟩
  · rintro ⟨written, ⟨rest, q, hp, hm, hq⟩, ho⟩
    exact ⟨_, q, Scan.value_eq_object_iff.mpr ⟨rest, written, hp, by decide, hm, ho⟩, hq, rfl⟩

theorem ObjectText.not_blank {s : String} {members : List (String × Json)}
    (h : ObjectText s members) : ¬ Text.blank s := by
  obtain ⟨rest, _, hp, _⟩ := h
  have hsuffix := Cursor.skipGapFrom_rest (Cursor.ofText s)
  have hmem : '\x7b' ∈ s.toList := hsuffix.subset (by
    show _ ∈ (Cursor.ofText s).skipGap.rest
    rw [hp]
    exact List.mem_cons_self)
  intro hb
  exact absurd (List.all_eq_true.mp hb _ hmem) (by decide)

end Json

/-- A body has a member just when it is the text of an object and no later member has its key. -/
theorem readBody_member_iff {body key : String} {v : Json} :
    (∃ members, readBody body = .ok (.object members) ∧ members.lookup key = some v) ↔
      ∃ written, Json.ObjectText body written ∧ Json.LastIs key v written := by
  constructor
  · rintro ⟨members, hb, hm⟩
    rcases readBody_eq_ok_iff.mp hb with ⟨_, hnil⟩ | ⟨_, ht⟩
    · cases hnil
      cases hm
    · obtain ⟨written, hw, rfl⟩ := Json.ofText_eq_object_iff.mp ht
      rw [Json.lookup_orderMembers] at hm
      exact ⟨written, hw, Json.lookup_reverse_iff.mp hm⟩
  · rintro ⟨written, hw, hl⟩
    refine ⟨Json.orderMembers written, ?_, ?_⟩
    · exact readBody_eq_ok_iff.mpr
        (Or.inr ⟨hw.not_blank, Json.ofText_eq_object_iff.mpr ⟨written, hw, rfl⟩⟩)
    · rw [Json.lookup_orderMembers]
      exact Json.lookup_reverse_iff.mpr hl

theorem readBody_ascending {body : String} {members : List (String × Json)}
    (h : readBody body = .ok (.object members)) : Json.Ascending members := by
  rcases readBody_eq_ok_iff.mp h with ⟨_, hnil⟩ | ⟨_, ht⟩
  · cases hnil
    exact .nil
  · obtain ⟨written, _, rfl⟩ := Json.ofText_eq_object_iff.mp ht
    exact Json.ascending_orderMembers written

/-! ## Records -/

/-- What the first field of a record is decoded from: the last member of its name, or the first
item. -/
def Json.first? (name : String) : Json → Option Json
  | .object members => members.reverse.lookup name
  | .list items => items.head?
  | _ => none

namespace Layout

variable {α ρ : Type} {name : String} {codec : Codec α} {fallback : Option α} {rest : Layout ρ}

theorem putAll_first {draft draft' : Draft (.field name codec fallback rest)}
    {members : List (String × Json)} (h : putAll _ draft members = .ok draft') :
    (∃ v x, members.reverse.lookup name = some v ∧ codec.decode v = .ok x ∧ draft'.1 = some x) ∨
      (members.reverse.lookup name = none ∧ draft'.1 = draft.1) := by
  induction members generalizing draft with
  | nil =>
      cases h
      exact Or.inr ⟨rfl, rfl⟩
  | cons m members ih =>
      obtain ⟨key, v⟩ := m
      obtain ⟨mid, hput, hall⟩ := bind_eq_ok_iff.mp h
      rw [List.reverse_cons, List.lookup_append, Json.lookup_cons_if]
      rcases ih hall with ⟨u, x, hl, hx⟩ | ⟨hl, hmid⟩
      · exact Or.inl ⟨u, x, by rw [hl]; rfl, hx⟩
      · rw [hl, hmid]
        unfold put at hput
        split at hput
        · rename_i hk
          obtain ⟨x, hx, hmid⟩ := bind_eq_ok_iff.mp hput
          cases hmid
          exact Or.inl ⟨v, x, by rw [if_pos hk.symm]; rfl, hx, rfl⟩
        · rename_i hk
          obtain ⟨others, _, hmid⟩ := bind_eq_ok_iff.mp hput
          cases hmid
          exact Or.inr ⟨by rw [if_neg (Ne.symm hk)]; rfl, rfl⟩

/-- The first field of a record is decoded from what stands for it, or is the fallback. -/
theorem decode_first {record : String} {v : Json} {x : α} {r : ρ}
    (h : (Layout.field name codec fallback rest).decode record v = .ok (x, r)) :
    (∃ u, v.first? name = some u ∧ codec.decode u = .ok x) ∨
      (v.first? name = none ∧ fallback = some x) := by
  cases v with
  | object members =>
      obtain ⟨draft, hall, hdone⟩ := bind_eq_ok_iff.mp h
      unfold complete at hdone
      split at hdone
      · cases hdone
      · rename_i y hy
        obtain ⟨_, _, hxr⟩ := bind_eq_ok_iff.mp hdone
        cases hxr
        rcases putAll_first hall with ⟨u, z, hl, hz, hd⟩ | ⟨hl, hd⟩
        · rw [hd] at hy
          cases hy
          exact Or.inl ⟨u, hl, hz⟩
        · rw [hd] at hy
          exact Or.inr ⟨hl, hy⟩
  | list items =>
      obtain ⟨⟨y, left⟩, hpos, hleft⟩ := bind_eq_ok_iff.mp h
      obtain rfl : y = (x, r) := by
        dsimp only at hleft
        split at hleft
        · exact Except.ok.inj hleft
        · cases hleft
      cases items with
      | nil =>
          cases fallback with
          | none => cases hpos
          | some z =>
              obtain ⟨_, _, hy⟩ := bind_eq_ok_iff.mp hpos
              cases hy
              exact Or.inr ⟨rfl, rfl⟩
      | cons u items =>
          obtain ⟨z, hz, hrest⟩ := bind_eq_ok_iff.mp hpos
          obtain ⟨_, _, hy⟩ := bind_eq_ok_iff.mp hrest
          cases hy
          exact Or.inl ⟨u, rfl, hz⟩
  | _ => cases h

end Layout

end CameraConsole
