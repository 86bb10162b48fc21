import CameraConsole.Proofs.Encodings
import CameraConsole.Proofs.Members

/-!
# Keys in order

Texts compare as their bytes do. A value has one form in which the keys of every object ascend, and
all values that differ from it only in the order of members have the same.
-/

namespace CameraConsole

/-! ## Bytes -/

namespace Text

section

variable {m n : Nat} {x y : List UInt8}

theorem cons_ofNat_lt_iff (hm : m < 256) (hn : n < 256) :
    UInt8.ofNat m :: x < UInt8.ofNat n :: y ↔ m < n ∨ m = n ∧ x < y := by
  rw [List.cons_lt_cons_iff, UInt8.lt_iff_toNat_lt, ← UInt8.toNat_inj,
    UInt8.toNat_ofNat_of_lt' hm, UInt8.toNat_ofNat_of_lt' hn]

theorem cons_ofNat_lt (h : m < n) (hn : n < 256) : UInt8.ofNat m :: x < UInt8.ofNat n :: y :=
  (cons_ofNat_lt_iff (by omega) hn).mpr (Or.inl h)

end

/-- Characters compare as their bytes do. Of forms of different length the first bytes differ; in
forms of one length the bytes are the digits of the number of the character. -/
theorem encodeChar_lt {c d : Char} (h : c < d) (x y : List UInt8) :
    String.utf8EncodeChar c ++ x < String.utf8EncodeChar d ++ y := by
  have hc : c.toNat < 0xD800 ∨ (0xDFFF < c.toNat ∧ c.toNat < 0x110000) := c.valid
  have hd : d.toNat < 0xD800 ∨ (0xDFFF < d.toNat ∧ d.toNat < 0x110000) := d.valid
  have hlt : c.toNat < d.toNat := h
  unfold String.utf8EncodeChar
  simp only [Char.toNat_val]
  generalize c.toNat = v at hc hlt
  generalize d.toNat = w at hd hlt
  by_cases h4 : w ≤ 65535
  · have v4 : v ≤ 65535 := by omega
    by_cases h3 : w ≤ 2047
    · have v3 : v ≤ 2047 := by omega
      by_cases h2 : w ≤ 127
      · have v2 : v ≤ 127 := by omega
        rw [if_pos v2, if_pos h2]
        exact cons_ofNat_lt hlt (by omega)
      · rw [if_neg h2, if_pos h3, if_pos v3]
        split
        · exact cons_ofNat_lt (by omega) (by omega)
        · simp (disch := omega) only [List.cons_append, cons_ofNat_lt_iff]
          omega
    · have h2 : ¬ w ≤ 127 := by omega
      rw [if_neg h2, if_neg h3, if_pos h4, if_pos v4]
      split
      · exact cons_ofNat_lt (by omega) (by omega)
      split
      · exact cons_ofNat_lt (by omega) (by omega)
      · simp (disch := omega) only [List.cons_append, cons_ofNat_lt_iff]
        omega
  · have h3 : ¬ w ≤ 2047 := by omega
    have h2 : ¬ w ≤ 127 := by omega
    rw [if_neg h2, if_neg h3, if_neg h4]
    repeat' split
    · exact cons_ofNat_lt (by omega) (by omega)
    · exact cons_ofNat_lt (by omega) (by omega)
    · exact cons_ofNat_lt (by omega) (by omega)
    · have digits (n : Nat) (hn : n < 0x110000) :
          n / 262144 % 8 * 262144 + n / 4096 % 64 * 4096 + n / 64 % 64 * 64 + n % 64 = n := by
        omega
      have hv := digits v (by omega)
      have hw := digits w (by omega)
      simp (disch := omega) only [List.cons_append, cons_ofNat_lt_iff]
      omega

theorem bytes_lt_of_lt {s t : String} (h : s < t) : bytes s < bytes t := by
  rw [String.lt_iff] at h
  unfold bytes
  generalize s.toList = cs at h
  generalize t.toList = ds at h
  induction cs generalizing ds with
  | nil =>
      cases ds with
      | nil => exact absurd h (List.lt_irrefl [])
      | cons d ds =>
          rw [List.flatMap_nil, List.flatMap_cons]
          obtain ⟨b, bs, hb⟩ := List.exists_cons_of_ne_nil (String.utf8EncodeChar_ne_nil (c := d))
          rw [hb]
          exact List.nil_lt_cons b _
  | cons c cs ih =>
      cases ds with
      | nil => exact absurd h (List.not_lt_nil _)
      | cons d ds =>
          rw [List.flatMap_cons, List.flatMap_cons]
          rcases List.cons_lt_cons_iff.mp h with hcd | ⟨rfl, hrest⟩
          · exact encodeChar_lt hcd _ _
          · exact List.append_left_lt (ih _ hrest)

theorem bytes_lt_iff {s t : String} : bytes s < bytes t ↔ s < t := by
  refine ⟨fun h => Decidable.byContradiction fun hn => ?_, bytes_lt_of_lt⟩
  by_cases heq : s = t
  · subst heq
    exact List.lt_irrefl _ h
  · have hts : t < s := Decidable.byContradiction fun hn' =>
      heq (String.le_antisymm (String.not_lt.mp hn') (String.not_lt.mp hn))
    exact List.lt_asymm h (bytes_lt_of_lt hts)

end Text

namespace Json

/-! ## Values and what they hold -/

/-- What holds of scalars, of a list when it holds of the items, and of an object when it holds of
the values of the members, holds of every value. -/
@[elab_as_elim]
theorem induction {motive : Json → Prop} (null : motive .null) (bool : ∀ b, motive (.bool b))
    (number : ∀ n, motive (.number n)) (text : ∀ s, motive (.text s))
    (list : ∀ items : List Json, (∀ v ∈ items, motive v) → motive (.list items))
    (object : ∀ members : List (String × Json), (∀ m ∈ members, motive m.2) →
      motive (.object members)) (v : Json) : motive v :=
  @Json.rec motive (fun items => ∀ v ∈ items, motive v) (fun members => ∀ m ∈ members, motive m.2)
    (fun m => motive m.2) null bool number text list object (List.forall_mem_nil _)
    (fun _ _ first rest => List.forall_mem_cons.mpr ⟨first, rest⟩) (List.forall_mem_nil _)
    (fun _ _ first rest => List.forall_mem_cons.mpr ⟨first, rest⟩) (fun _ _ h => h) v

theorem orderedItems_eq (items : List Json) : orderedItems items = items.map ordered := by
  induction items with
  | nil => rfl
  | cons v rest ih => rw [orderedItems, ih, List.map_cons]

theorem orderedValues_eq (members : List (String × Json)) :
    orderedValues members = members.map fun m => (m.1, m.2.ordered) := by
  induction members with
  | nil => rfl
  | cons m rest ih =>
      obtain ⟨k, v⟩ := m
      rw [orderedValues, ih, List.map_cons]

theorem ordered_list (items : List Json) : (list items).ordered = list (items.map ordered) := by
  rw [ordered, orderedItems_eq]

theorem ordered_object (members : List (String × Json)) :
    (object members).ordered =
      object (orderMembers (members.map fun m => (m.1, m.2.ordered))) := by
  rw [ordered, orderedValues_eq]

/-! ## Ascending keys -/

theorem insertMember_of_last {key : String} {members : List (String × Json)}
    (h : ∀ m ∈ members, m.1 < key) (v : Json) :
    insertMember key v members = members ++ [(key, v)] := by
  induction members with
  | nil => rfl
  | cons m rest ih =>
      obtain ⟨hm, hrest⟩ := List.forall_mem_cons.mp h
      unfold insertMember
      have hne : key ≠ m.1 := fun he => String.lt_irrefl key (he ▸ hm)
      rw [if_neg (String.lt_asymm hm), if_neg hne, ih hrest]
      rfl

theorem mem_orderMembers {members : List (String × Json)} {m : String × Json}
    (h : m ∈ orderMembers members) : m ∈ members := by
  suffices ∀ front, m ∈ members.foldl (fun ordered m => insertMember m.1 m.2 ordered) front →
      m ∈ front ∨ m ∈ members from (this [] h).resolve_left List.not_mem_nil
  clear h
  induction members with
  | nil => exact fun front h => Or.inl h
  | cons m' rest ih =>
      intro front h
      rcases ih _ h with hm | hm
      · rcases mem_insertMember hm with rfl | hm
        · exact Or.inr List.mem_cons_self
        · exact Or.inl hm
      · exact Or.inr (List.mem_cons_of_mem _ hm)

/-- Members in order stay as they are. -/
theorem Ascending.orderMembers_eq {members : List (String × Json)} (h : Ascending members) :
    orderMembers members = members := by
  suffices ∀ front, Ascending (front ++ members) →
      members.foldl (fun ordered m => Json.insertMember m.1 m.2 ordered) front =
        front ++ members from this [] h
  clear h
  induction members with
  | nil => exact fun front _ => (List.append_nil front).symm
  | cons m rest ih =>
      intro front h
      have hlast : ∀ m' ∈ front, m'.1 < m.1 := fun m' hm' =>
        (List.pairwise_append.mp h).2.2 m' hm' m List.mem_cons_self
      have hmove : front ++ m :: rest = front ++ [m] ++ rest := by simp
      rw [List.foldl_cons, insertMember_of_last hlast, hmove]
      exact ih _ (hmove ▸ h)

/-- A new key goes in somewhere among the others. -/
theorem insertMember_perm {key : String} {members : List (String × Json)}
    (h : key ∉ members.map Prod.fst) (v : Json) :
    (insertMember key v members).Perm ((key, v) :: members) := by
  induction members with
  | nil => exact List.Perm.refl _
  | cons m rest ih =>
      rw [List.map_cons, List.mem_cons, not_or] at h
      unfold insertMember
      split
      · exact List.Perm.refl _
      · rw [if_neg h.1]
        exact ((ih h.2).cons m).trans (List.Perm.swap ..)

theorem orderMembers_perm {members : List (String × Json)} (h : (members.map Prod.fst).Nodup) :
    (orderMembers members).Perm members := by
  suffices ∀ front, ((front ++ members).map Prod.fst).Nodup →
      (members.foldl (fun ordered m => insertMember m.1 m.2 ordered) front).Perm
        (front ++ members) from this [] h
  clear h
  induction members with
  | nil =>
      intro front _
      rw [List.append_nil]
      exact List.Perm.refl front
  | cons m rest ih =>
      intro front h
      have hkeys := (List.perm_middle.map Prod.fst).nodup_iff.mp h
      have hfront : m.1 ∉ front.map Prod.fst := fun hm => by
        rw [List.map_cons, List.nodup_cons, List.map_append] at hkeys
        exact hkeys.1 (List.mem_append_left _ hm)
      have hperm : (insertMember m.1 m.2 front ++ rest).Perm (m :: (front ++ rest)) :=
        (insertMember_perm hfront m.2).append_right rest
      exact (ih _ ((hperm.map Prod.fst).nodup_iff.mpr hkeys)).trans
        (hperm.trans List.perm_middle.symm)

/-- The order in which members of different keys are listed makes no difference. -/
theorem orderMembers_of_perm {a b : List (String × Json)} (h : a.Perm b)
    (distinct : (a.map Prod.fst).Nodup) : orderMembers a = orderMembers b := by
  have distinct' : (b.map Prod.fst).Nodup := (h.map Prod.fst).nodup_iff.mp distinct
  refine List.Perm.eq_of_pairwise (fun m m' _ _ hlt hgt => absurd hgt (String.lt_asymm hlt))
    (ascending_orderMembers a) (ascending_orderMembers b) ?_
  exact (orderMembers_perm distinct).trans (h.trans (orderMembers_perm distinct').symm)

/-! ## Values in byte order -/

/-- The keys of every object ascend in the order of their bytes, so that each comes once. -/
inductive InByteOrder : Json → Prop where
  | null : InByteOrder .null
  | bool (b : Bool) : InByteOrder (.bool b)
  | number (n : Number) : InByteOrder (.number n)
  | text (s : String) : InByteOrder (.text s)
  | list {items : List Json} (each : ∀ v ∈ items, InByteOrder v) : InByteOrder (.list items)
  | object {members : List (String × Json)}
      (keys : members.Pairwise fun m m' => Text.bytes m.1 < Text.bytes m'.1)
      (values : ∀ m ∈ members, InByteOrder m.2) : InByteOrder (.object members)

theorem ascending_iff {members : List (String × Json)} :
    Ascending members ↔ members.Pairwise fun m m' => Text.bytes m.1 < Text.bytes m'.1 := by
  simp only [Ascending, Text.bytes_lt_iff]

theorem ordered_inByteOrder (v : Json) : v.ordered.InByteOrder := by
  induction v using Json.induction with
  | null => exact .null
  | bool b => exact .bool b
  | number n => exact .number n
  | text s => exact .text s
  | list items ih =>
      rw [ordered_list]
      refine .list fun v hv => ?_
      obtain ⟨u, hu, rfl⟩ := List.mem_map.mp hv
      exact ih u hu
  | object members ih =>
      rw [ordered_object]
      refine .object (ascending_iff.mp (ascending_orderMembers _)) fun m hm => ?_
      obtain ⟨m', hm', rfl⟩ := List.mem_map.mp (mem_orderMembers hm)
      exact ih m' hm'

theorem InByteOrder.ordered_eq {v : Json} (h : v.InByteOrder) : v.ordered = v := by
  induction v using Json.induction with
  | null | bool | number | text => rfl
  | list items ih =>
      cases h with
      | list hitems =>
          have hmap : items.map ordered = items.map id :=
            List.map_congr_left fun v hv => ih v hv (hitems v hv)
          rw [ordered_list, hmap, List.map_id]
  | object members ih =>
      cases h with
      | object keys values =>
          have hmap : (members.map fun m => (m.1, m.2.ordered)) = members.map id :=
            List.map_congr_left fun m hm => congrArg (m.1, ·) (ih m hm (values m hm))
          rw [ordered_object, hmap, List.map_id, (ascending_iff.mpr keys).orderMembers_eq]

/-! ## Values that are alike -/

/-- The one value becomes the other when members of objects change places, at whatever depth. -/
inductive Alike : Json → Json → Prop where
  | refl (v : Json) : Alike v v
  | trans {u v w : Json} (first : Alike u v) (second : Alike v w) : Alike u w
  | members {a b : List (String × Json)} (places : a.Perm b) (distinct : (a.map Prod.fst).Nodup) :
      Alike (.object a) (.object b)
  | item {v w : Json} (before after : List Json) (alike : Alike v w) :
      Alike (.list (before ++ v :: after)) (.list (before ++ w :: after))
  | value {v w : Json} (before after : List (String × Json)) (key : String) (alike : Alike v w) :
      Alike (.object (before ++ (key, v) :: after)) (.object (before ++ (key, w) :: after))

theorem Alike.ordered_eq {v w : Json} (h : v.Alike w) : v.ordered = w.ordered := by
  induction h with
  | refl v => rfl
  | trans _ _ ih ih' => exact ih.trans ih'
  | @members a b places distinct =>
      have hkeys : ((a.map fun m => (m.1, m.2.ordered)).map Prod.fst).Nodup := by
        rw [List.map_map]
        exact distinct
      rw [ordered_object, ordered_object, orderMembers_of_perm (places.map _) hkeys]
  | item before after _ ih => simp only [ordered_list, List.map_append, List.map_cons, ih]
  | value before after key _ ih => simp only [ordered_object, List.map_append, List.map_cons, ih]

end Json

end CameraConsole
