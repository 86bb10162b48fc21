import CameraConsole.Proofs.CommandLine
import CameraConsole.Proofs.KeyOrder
import CameraConsole.Proofs.Opening

/-!
# Bodies read back

The text that is sent for a value is read back as the value. Keys are written in order, so values
that differ only in the order of members have the same text.
-/

namespace CameraConsole

namespace Scan

/-- Reading gives this and leaves `rest`. -/
def Yields {α : Type} (result : Except Fault (α × Cursor)) (x : α) (rest : List Char) : Prop :=
  ∃ q, result = .ok (x, q) ∧ q.rest = rest

/-- What may stand behind a value that was written as a part of another. -/
def Ended (rest : List Char) : Prop :=
  ∀ c ∈ rest.head?, c = ',' ∨ c = ']' ∨ c = '\x7d'

variable {p : Cursor} {rest : List Char}

theorem rest_after (p : Cursor) (c : Char) (rest : List Char) : (p.after c rest).rest = rest := by
  unfold Cursor.after
  split <;> rfl

theorem rest_eat {c : Char} (hp : p.rest = c :: rest) : p.eat.rest = rest := by
  unfold Cursor.eat
  rw [hp]
  exact rest_after p c rest

/-! ## Words -/

theorem word_append {w : List Char} (hp : p.rest = w ++ rest) :
    ∃ q, word w p = .ok q ∧ q.rest = rest := by
  induction w generalizing p with
  | nil => exact ⟨p, rfl, hp⟩
  | cons c w ih =>
      obtain ⟨_, line, column⟩ := p
      cases hp
      obtain ⟨q, hq, hrest⟩ := ih (rest_after ⟨c :: w ++ rest, line, column⟩ c (w ++ rest))
      exact ⟨q, (if_pos rfl).trans hq, hrest⟩

/-! ## Numbers -/

theorem head?_toDigits {n : Nat} (h : 0 < n) : (Nat.toDigits 10 n).head? ≠ some '0' := by
  induction n using Nat.strongRecOn with
  | ind n ih =>
      by_cases hn : n < 10
      · rw [Nat.toDigits_of_lt_base hn]
        have hdigit : ∀ k : Fin 10, 0 < k.val → [Nat.digitChar k].head? ≠ some '0' := by decide
        exact hdigit ⟨n, hn⟩ h
      · have hbelow := ih (n / 10) (by omega) (by omega)
        rw [Nat.toDigits_of_base_le (by decide) (Nat.le_of_not_lt hn)]
        obtain ⟨c, cs, hcs⟩ := List.exists_cons_of_ne_nil (Nat.toDigits_ne_nil (n := n / 10) (b := 10))
        rw [hcs] at hbelow ⊢
        exact hbelow

theorem absorb_digits {limit value : Nat} {cs : List Char}
    (h : Nat.ofDigitChars 10 cs value ≤ limit) :
    absorb limit value cs = (Nat.ofDigitChars 10 cs value, []) := by
  induction cs generalizing value with
  | nil => rfl
  | cons c cs ih =>
      rw [Nat.ofDigitChars_cons] at h ⊢
      have hle := Nat.le_trans (Text.le_ofDigitChars cs _) h
      unfold absorb
      rw [Nat.mul_comm value 10]
      exact (if_pos hle).trans (ih h)

theorem digits_append {n : Nat} (ended : Ended rest) (hp : p.rest = Nat.toDigits 10 n ++ rest) :
    ∃ q, p.digits = (Nat.toDigits 10 n, q) ∧ q.rest = rest := by
  have hdigits : ∀ c ∈ Nat.toDigits 10 n, c.isDigit = true := fun c hc =>
    Nat.isDigit_of_mem_toDigits (by decide) (by decide) hc
  have hstop : rest.takeWhile Char.isDigit = [] ∧ rest.dropWhile Char.isDigit = rest := by
    cases rest with
    | nil => exact ⟨rfl, rfl⟩
    | cons c rest => rcases ended c rfl with rfl | rfl | rfl <;> exact ⟨rfl, rfl⟩
  unfold Cursor.digits
  rw [hp, List.takeWhile_append_of_pos hdigits, List.dropWhile_append_of_pos hdigits, hstop.1,
    hstop.2, List.append_nil]
  exact ⟨_, rfl, rfl⟩

/-- The digits of a number of 64 bits are read as that number. -/
theorem number_digits {n : Nat} (fits : n ≤ Text.max64) (ended : Ended rest)
    (hp : p.rest = Nat.toDigits 10 n ++ rest) (negative : Bool) :
    ∃ q, number negative p = wholeNumber negative n 0 q ∧ q.rest = rest := by
  obtain ⟨c, ds, hds⟩ := List.exists_cons_of_ne_nil (Nat.toDigits_ne_nil (n := n) (b := 10))
  have hdigit : c.isDigit = true :=
    Nat.isDigit_of_mem_toDigits (n := n) (b := 10) (by decide) (by decide) (hds ▸ List.mem_cons_self)
  have hlead : ¬ (c = '0' ∧ 1 < (Nat.toDigits 10 n).length) := by
    rintro ⟨rfl, hlen⟩
    cases n with
    | zero => exact absurd hlen (by decide)
    | succ n => exact head?_toDigits n.succ_pos (by rw [hds]; rfl)
  have hvalue : Nat.ofDigitChars 10 (Nat.toDigits 10 n) 0 = n :=
    Nat.ofDigitChars_toDigits (by decide) (by decide)
  have habsorb : absorb Text.max64 0 (Nat.toDigits 10 n) = (n, []) := by
    rw [absorb_digits (hvalue.symm ▸ fits), hvalue]
  obtain ⟨q, hq, hrest⟩ := digits_append ended hp
  refine ⟨q, ?_, hrest⟩
  unfold number
  rw [hp, hds]
  dsimp only [List.cons_append]
  rw [if_pos hdigit, hq]
  dsimp only
  rw [if_neg hlead, habsorb]
  dsimp only
  rw [hrest]
  cases rest with
  | nil => rfl
  | cons c rest => rcases ended c rfl with rfl | rfl | rfl <;> rfl

/-! ## Quoted texts -/

theorem hexValue?_digitChar {d : Nat} (h : d < 16) : Text.hexValue? (Nat.digitChar d) = some d := by
  have hall : ∀ d : Fin 16, Text.hexValue? (Nat.digitChar d) = some d.val := by decide
  exact hall ⟨d, h⟩

theorem utf8Size_digitChar {d : Nat} (h : d < 16) : (Nat.digitChar d).utf8Size = 1 := by
  have hall : ∀ d : Fin 16, (Nat.digitChar d).utf8Size = 1 := by decide
  exact hall ⟨d, h⟩

theorem quotedFrom_unit {d passed : Nat} (hd : d < 16) (hpassed : passed < 3) (value : Nat)
    (cs : List Char) (p : Cursor) (read : List Char) :
    quotedFrom (.unit none passed (some value)) (Nat.digitChar d :: cs) p read =
      quotedFrom (.unit none (passed + 1) (some (value * 16 + d))) cs (p.after (Nat.digitChar d) cs)
        read := by
  have hmore : passed + 1 < 4 := by omega
  rw [quotedFrom.eq_def]
  simp only [hexValue?_digitChar hd, utf8Size_digitChar hd, if_pos hmore]

/-- The last digit completes a code unit. -/
theorem quotedFrom_unit_last {d value : Nat} (hd : d < 16) (hvalue : value * 16 + d < 0xD800)
    (cs : List Char) (p : Cursor) (read : List Char) :
    quotedFrom (.unit none 3 (some value)) (Nat.digitChar d :: cs) p read =
      quotedFrom .plain cs (p.after (Nat.digitChar d) cs) (Char.ofNat (value * 16 + d) :: read) := by
  have htrailing : isTrailing (value * 16 + d) = false := by
    simp only [isTrailing, Bool.and_eq_false_iff, decide_eq_false_iff_not]
    omega
  have hleading : isLeading (value * 16 + d) = false := by
    simp only [isLeading, Bool.and_eq_false_iff, decide_eq_false_iff_not]
    omega
  rw [quotedFrom.eq_def]
  simp [hexValue?_digitChar hd, utf8Size_digitChar hd, unitMeaning, htrailing, hleading]

/-- Every character of a text is read back from how it is written in quotes. -/
theorem quotedFrom_escapeChar (c : Char) (cs : List Char) (p : Cursor) (read : List Char) :
    ∃ q, quotedFrom .plain (Json.escapeChar c ++ cs) p read =
      quotedFrom .plain cs q (c :: read) := by
  unfold Json.escapeChar
  iterate 7
    split
    · rename_i h
      subst h
      exact ⟨_, rfl⟩
  split
  · -- Four digits of base sixteen, the first two of them zero.
    rename_i hlow
    have hdigits : (0 * 16 + c.toNat / 16) * 16 + c.toNat % 16 = c.toNat := by omega
    obtain ⟨q, hstart⟩ : ∃ q, quotedFrom .plain (['\\', 'u', '0', '0', Nat.digitChar (c.toNat / 16),
          Nat.digitChar (c.toNat % 16)] ++ cs) p read =
        quotedFrom (.unit none 2 (some 0))
          (Nat.digitChar (c.toNat / 16) :: Nat.digitChar (c.toNat % 16) :: cs) q read := ⟨_, rfl⟩
    rw [hstart, quotedFrom_unit (by omega) (by decide), quotedFrom_unit_last (by omega) (by omega),
      hdigits, Char.ofNat_toNat]
    exact ⟨_, rfl⟩
  · rename_i hquote hslash _ _ _ _ _ hlow
    exact ⟨p.after c cs, (if_neg hquote).trans ((if_neg hslash).trans (if_neg hlow))⟩

theorem quotedFrom_escaped (cs : List Char) (rest : List Char) (p : Cursor) (read : List Char) :
    Yields (quotedFrom .plain (cs.flatMap Json.escapeChar ++ '"' :: rest) p read)
      (String.ofList (read.reverse ++ cs)) rest := by
  induction cs generalizing p read with
  | nil =>
      rw [List.append_nil]
      exact ⟨p.after '"' rest, rfl, rest_after p '"' rest⟩
  | cons c cs ih =>
      obtain ⟨q, hq⟩ := quotedFrom_escapeChar c (cs.flatMap Json.escapeChar ++ '"' :: rest) p read
      rw [List.flatMap_cons, List.append_assoc, hq]
      have h := ih q (c :: read)
      rwa [List.reverse_cons, List.append_assoc] at h

theorem quoted_textChars {s : String} (hp : '"' :: p.rest = Json.textChars s ++ rest) :
    Yields (quoted p) s rest := by
  have hrest : p.rest = s.toList.flatMap Json.escapeChar ++ '"' :: rest := by
    simpa [Json.textChars] using hp
  have h := quotedFrom_escaped s.toList rest p []
  rw [← hrest, List.reverse_nil, List.nil_append, String.ofList_toList] at h
  exact h

/-! ## Separators -/

/-- The characters that a written value starts with. -/
def Starts (c : Char) : Prop :=
  c.isDigit ∨ c ∈ ['n', 't', 'f', '"', '-', '[', '\x7b']

theorem Starts.not_gap {c : Char} (h : Starts c) : Cursor.isGap c = false := by
  rcases h with h | h
  · simp only [Cursor.isGap, Bool.or_eq_false_iff, decide_eq_false_iff_not]
    refine ⟨⟨⟨?_, ?_⟩, ?_⟩, ?_⟩
    all_goals
      rintro rfl
      exact absurd h (by decide)
  · simp only [List.mem_cons, List.not_mem_nil, or_false] at h
    rcases h with rfl | rfl | rfl | rfl | rfl | rfl | rfl <;> rfl

theorem Starts.not_blank {c : Char} (h : Starts c) : Text.isBlank c = false := by
  rcases h with h | h
  · simp only [Char.isDigit, Bool.and_eq_true, decide_eq_true_eq] at h
    have hlow : 48 ≤ c.toNat := h.1
    have hhigh : c.toNat ≤ 57 := h.2
    simp only [Text.isBlank, Bool.or_eq_false_iff, Bool.and_eq_false_iff, decide_eq_false_iff_not,
      beq_eq_false_iff_ne]
    omega
  · simp only [List.mem_cons, List.not_mem_nil, or_false] at h
    rcases h with rfl | rfl | rfl | rfl | rfl | rfl | rfl <;> rfl

theorem Starts.ne_bracket {c : Char} (h : Starts c) : c ≠ ']' := by
  rintro rfl
  exact absurd h (by unfold Starts; decide)

theorem skipGap_start {c : Char} (hc : Starts c) (hp : p.rest = c :: rest) : p.skipGap = p := by
  unfold Cursor.skipGap
  rw [hp, Cursor.skipGapFrom, hc.not_gap]
  rfl

theorem nextItem_first {c : Char} (hc : Starts c) (hp : p.rest = c :: rest) :
    nextItem true p = .ok (some p) := by
  unfold nextItem
  rw [skipGap_start hc hp]
  dsimp only
  split
  · rename_i hnil
    cases hp.symm.trans hnil
  · rename_i hend
    exact absurd (List.cons.inj (hp.symm.trans hend)).1 hc.ne_bracket
  · rfl

theorem nextItem_comma {c : Char} (hc : Starts c) (hp : p.rest = ',' :: c :: rest) :
    ∃ q, nextItem false p = .ok (some q) ∧ q.rest = c :: rest := by
  obtain ⟨_, line, column⟩ := p
  cases hp
  have hq : Cursor.rest ⟨c :: rest, line, column + 1⟩ = c :: rest := rfl
  refine ⟨⟨c :: rest, line, column + 1⟩, ?_, rfl⟩
  have hgap : Cursor.skipGap ⟨',' :: c :: rest, line, column⟩ = ⟨',' :: c :: rest, line, column⟩ := rfl
  have heat : Cursor.eat ⟨',' :: c :: rest, line, column⟩ = ⟨c :: rest, line, column + 1⟩ := rfl
  unfold nextItem
  rw [hgap]
  dsimp only
  split
  · rename_i hnil
    cases hnil
  · rename_i hend
    exact absurd (List.cons.inj hend).1 (by decide)
  · rename_i hcomma
    cases hcomma
    rw [if_neg Bool.false_ne_true, if_pos rfl, heat, skipGap_start hc hq]
    dsimp only
    split
    · rename_i hnil
      cases hnil
    · rename_i hend
      exact absurd (List.cons.inj hend).1 hc.ne_bracket
    · rfl

theorem nextItem_end (first : Bool) (hp : p.rest = ']' :: rest) :
    nextItem first p = .ok none ∧ p.skipGap.eat.rest = rest := by
  obtain ⟨_, line, column⟩ := p
  cases hp
  exact ⟨rfl, rfl⟩

theorem nextKey_first (hp : p.rest = '"' :: rest) :
    nextKey true p = .ok (some p) := by
  obtain ⟨_, line, column⟩ := p
  cases hp
  rfl

theorem nextKey_comma (hp : p.rest = ',' :: '"' :: rest) :
    ∃ q, nextKey false p = .ok (some q) ∧ q.rest = '"' :: rest := by
  obtain ⟨_, line, column⟩ := p
  cases hp
  exact ⟨_, rfl, rfl⟩

theorem nextKey_end (first : Bool) (hp : p.rest = '\x7d' :: rest) :
    nextKey first p = .ok none ∧ p.skipGap.eat.rest = rest := by
  obtain ⟨_, line, column⟩ := p
  cases hp
  exact ⟨rfl, rfl⟩

theorem colon_cons (hp : p.rest = ':' :: rest) : ∃ q, colon p = .ok q ∧ q.rest = rest := by
  obtain ⟨_, line, column⟩ := p
  cases hp
  exact ⟨_, rfl, rfl⟩

/-! ## Values -/

/-- The text of a value can be told from the end of a list, and is read as the value wherever it is
followed by what ends it. -/
structure Readable (v : Json) : Prop where
  starts : ∃ c cs, v.chars = c :: cs ∧ Starts c
  reads {fuel room : Nat} {p : Cursor} {rest : List Char} (shallow : v.depth < room)
    (long : 2 * v.chars.length ≤ fuel) (ended : Ended rest) (hp : p.rest = v.chars ++ rest) :
    Yields (value fuel room p) v rest

theorem Readable.length_pos {v : Json} (h : Readable v) : 0 < v.chars.length := by
  obtain ⟨c, cs, hcs, _⟩ := h.starts
  rw [hcs]
  exact Nat.succ_pos _

theorem length_itemChars_pos (items : List Json) : 0 < (Json.itemChars items).length := by
  cases items <;> simp [Json.itemChars]

theorem length_memberChars_pos (members : List (String × Json)) :
    0 < (Json.memberChars members).length := by
  cases members <;> simp [Json.memberChars]

theorem ended_itemChars (items : List Json) (rest : List Char) :
    Ended (Json.itemChars items ++ rest) := by
  cases items <;> simp [Ended, Json.itemChars]

theorem ended_memberChars (members : List (String × Json)) (rest : List Char) :
    Ended (Json.memberChars members ++ rest) := by
  cases members <;> simp [Ended, Json.memberChars]

/-- What comes behind an item is read by `listItems` for the rest of the list. -/
theorem listItems_cons {v : Json} {items : List Json} {first : Bool} {fuel room : Nat}
    {p q q' q'' : Cursor} (hnext : nextItem first p = .ok (some q))
    (hvalue : value fuel room q = .ok (v, q'))
    (hmore : listItems fuel room false q' = .ok (items, q'')) :
    listItems (fuel + 1) room first p = .ok (v :: items, q'') := by
  rw [listItems]
  exact bind_eq_ok_iff.mpr ⟨_, hnext, bind_eq_ok_iff.mpr
    ⟨_, hvalue, bind_eq_ok_iff.mpr ⟨_, hmore, rfl⟩⟩⟩

theorem listItems_nil (first : Bool) (fuel room : Nat) (hp : p.rest = ']' :: rest) :
    Yields (listItems (fuel + 1) room first p) [] rest := by
  obtain ⟨hnone, heat⟩ := nextItem_end first hp
  refine ⟨p.skipGap.eat, ?_, heat⟩
  rw [listItems]
  exact bind_eq_ok_iff.mpr ⟨_, hnone, rfl⟩

theorem listItems_itemChars {items : List Json} (each : ∀ v ∈ items, Readable v) {fuel room : Nat}
    {p : Cursor} (shallow : Json.depthItems items < room)
    (long : 2 * (Json.itemChars items).length ≤ fuel + 1)
    (hp : p.rest = Json.itemChars items ++ rest) :
    Yields (listItems (fuel + 1) room false p) items rest := by
  induction items generalizing fuel p with
  | nil => exact listItems_nil false fuel room hp
  | cons v items ih =>
      obtain ⟨hv, hitems⟩ := List.forall_mem_cons.mp each
      obtain ⟨c, cs, hcs, hc⟩ := hv.starts
      have hpos := length_itemChars_pos items
      rw [Json.depthItems] at shallow
      rw [Json.itemChars, List.length_cons, List.length_append] at long
      obtain ⟨fuel, rfl⟩ : ∃ n, fuel = n + 1 := ⟨fuel - 1, by omega⟩
      obtain ⟨q, hnext, hq⟩ : ∃ q, nextItem false p = .ok (some q) ∧
          q.rest = v.chars ++ (Json.itemChars items ++ rest) := by
        rw [hcs]
        exact nextItem_comma hc (by rw [hp, Json.itemChars, hcs]; simp)
      obtain ⟨q', hvalue, hq'⟩ : Yields (value (fuel + 1) room q) v (Json.itemChars items ++ rest) :=
        hv.reads (by omega) (by omega) (ended_itemChars items rest) hq
      obtain ⟨q'', hmore, hq''⟩ : Yields (listItems (fuel + 1) room false q') items rest :=
        ih hitems (by omega) (by omega) hq'
      exact ⟨q'', listItems_cons hnext hvalue hmore, hq''⟩

theorem objectMembers_cons {key : String} {v : Json} {members : List (String × Json)}
    {first : Bool} {fuel room : Nat} {p p₁ p₂ p₃ p₄ p₅ : Cursor}
    (hnext : nextKey first p = .ok (some p₁)) (hkey : quoted p₁.eat = .ok (key, p₂))
    (hcolon : colon p₂ = .ok p₃) (hvalue : value fuel room p₃ = .ok (v, p₄))
    (hmore : objectMembers fuel room false p₄ = .ok (members, p₅)) :
    objectMembers (fuel + 1) room first p = .ok ((key, v) :: members, p₅) := by
  rw [objectMembers]
  exact bind_eq_ok_iff.mpr ⟨_, hnext, bind_eq_ok_iff.mpr ⟨_, hkey, bind_eq_ok_iff.mpr
    ⟨_, hcolon, bind_eq_ok_iff.mpr ⟨_, hvalue, bind_eq_ok_iff.mpr ⟨_, hmore, rfl⟩⟩⟩⟩⟩

theorem objectMembers_nil (first : Bool) (fuel room : Nat) (hp : p.rest = '\x7d' :: rest) :
    Yields (objectMembers (fuel + 1) room first p) [] rest := by
  obtain ⟨hnone, heat⟩ := nextKey_end first hp
  refine ⟨p.skipGap.eat, ?_, heat⟩
  rw [objectMembers]
  exact bind_eq_ok_iff.mpr ⟨_, hnone, rfl⟩

/-- Key, colon and value of a member, from the place of the opening quote. -/
theorem member_reads {key : String} {v : Json} (hv : Readable v) (fuel room : Nat)
    (shallow : v.depth < room) (long : 2 * v.chars.length ≤ fuel) (ended : Ended rest)
    (hp : p.rest = Json.textChars key ++ ':' :: (v.chars ++ rest)) :
    ∃ p₂ p₃ p₄, quoted p.eat = .ok (key, p₂) ∧ colon p₂ = .ok p₃ ∧
      value fuel room p₃ = .ok (v, p₄) ∧ p₄.rest = rest := by
  have heat : '"' :: p.eat.rest = Json.textChars key ++ ':' :: (v.chars ++ rest) := by
    rw [← hp]
    rw [Json.textChars, List.cons_append] at hp
    rw [rest_eat hp, hp]
  obtain ⟨p₂, hkey, hp₂⟩ := quoted_textChars heat
  obtain ⟨p₃, hcolon, hp₃⟩ := colon_cons hp₂
  obtain ⟨p₄, hvalue, hp₄⟩ := hv.reads shallow long ended hp₃
  exact ⟨p₂, p₃, p₄, hkey, hcolon, hvalue, hp₄⟩

theorem objectMembers_memberChars {members : List (String × Json)}
    (each : ∀ m ∈ members, Readable m.2) {fuel room : Nat} {p : Cursor}
    (shallow : Json.depthMembers members < room)
    (long : 2 * (Json.memberChars members).length ≤ fuel + 1)
    (hp : p.rest = Json.memberChars members ++ rest) :
    Yields (objectMembers (fuel + 1) room false p) members rest := by
  induction members generalizing fuel p with
  | nil => exact objectMembers_nil false fuel room hp
  | cons m members ih =>
      obtain ⟨key, v⟩ := m
      obtain ⟨hv, hmembers⟩ := List.forall_mem_cons.mp each
      have hpos := length_memberChars_pos members
      rw [Json.depthMembers] at shallow
      rw [Json.memberChars, List.length_cons, List.length_append, List.length_cons,
        List.length_append] at long
      obtain ⟨fuel, rfl⟩ : ∃ n, fuel = n + 1 := ⟨fuel - 1, by omega⟩
      obtain ⟨p₁, hnext, hp₁⟩ : ∃ q, nextKey false p = .ok (some q) ∧ q.rest =
          Json.textChars key ++ ':' :: (v.chars ++ (Json.memberChars members ++ rest)) :=
        nextKey_comma (by rw [hp, Json.memberChars, Json.textChars]; simp)
      obtain ⟨p₂, p₃, p₄, hkey, hcolon, hvalue, hp₄⟩ := member_reads hv (fuel + 1) room
        (Nat.lt_of_le_of_lt (Nat.le_max_left _ _) shallow) (by dsimp only; omega)
        (ended_memberChars members rest) hp₁
      obtain ⟨p₅, hmore, hp₅⟩ : Yields (objectMembers (fuel + 1) room false p₄) members rest :=
        ih hmembers (by omega) (by omega) hp₄
      exact ⟨p₅, objectMembers_cons hnext hkey hcolon hvalue hmore, hp₅⟩

theorem readable_of {v : Json} {c : Char} {cs : List Char} (hcs : v.chars = c :: cs)
    (hc : Starts c) (reads : ∀ fuel room line column rest, v.depth < room →
      2 * cs.length + 1 ≤ fuel → Ended rest →
      Yields (value (fuel + 1) room ⟨c :: (cs ++ rest), line, column⟩) v rest) : Readable v where
  starts := ⟨c, cs, hcs, hc⟩
  reads {fuel room p rest} shallow long ended hp := by
    rw [hcs, List.length_cons] at long
    obtain ⟨fuel, rfl⟩ : ∃ n, fuel = n + 1 := ⟨fuel - 1, by omega⟩
    obtain ⟨_, line, column⟩ := p
    rw [hcs] at hp
    cases hp
    exact reads fuel room line column rest shallow (by omega) ended

theorem readable_null : Readable .null := by
  refine readable_of rfl (Or.inr (by decide)) fun fuel room line column rest _ _ _ => ?_
  obtain ⟨q, hq, hrest⟩ := word_append (p := ⟨['u', 'l', 'l'] ++ rest, line, column + 1⟩) rfl
  exact ⟨q, bind_eq_ok_iff.mpr ⟨q, hq, rfl⟩, hrest⟩

theorem readable_bool (b : Bool) : Readable (.bool b) := by
  cases b with
  | true =>
      refine readable_of rfl (Or.inr (by decide)) fun fuel room line column rest _ _ _ => ?_
      obtain ⟨q, hq, hrest⟩ := word_append (p := ⟨['r', 'u', 'e'] ++ rest, line, column + 1⟩) rfl
      exact ⟨q, bind_eq_ok_iff.mpr ⟨q, hq, rfl⟩, hrest⟩
  | false =>
      refine readable_of rfl (Or.inr (by decide)) fun fuel room line column rest _ _ _ => ?_
      obtain ⟨q, hq, hrest⟩ :=
        word_append (p := ⟨['a', 'l', 's', 'e'] ++ rest, line, column + 1⟩) rfl
      exact ⟨q, bind_eq_ok_iff.mpr ⟨q, hq, rfl⟩, hrest⟩

theorem readable_text (s : String) : Readable (.text s) := by
  refine readable_of rfl (Or.inr (by decide)) fun fuel room line column rest _ _ _ => ?_
  obtain ⟨q, hq, hrest⟩ : Yields (quoted
      ⟨s.toList.flatMap Json.escapeChar ++ ['"'] ++ rest, line, column + 1⟩) s rest :=
    quoted_textChars rfl
  exact ⟨q, bind_eq_ok_iff.mpr ⟨_, hq, rfl⟩, hrest⟩

theorem value_digit {c : Char} (hc : c.isDigit) {fuel room : Nat} (hp : p.rest = c :: rest) :
    value (fuel + 1) room p = (do
      let (n, q) ← number false p
      .ok (.number n, q)) := by
  rw [value, skipGap_start (Or.inl hc) hp]
  dsimp only
  split
  case h_1 hnil => cases hp.symm.trans hnil
  case h_9 hother =>
    cases hp.symm.trans hother
    rw [if_pos hc]
  all_goals
    rename_i hother
    cases hp.symm.trans hother
    exact absurd hc (by decide)

/-- An integer that fits into 64 bits, with or without a sign. -/
theorem readable_int {i : Int} (low : Int64.minValue.toInt ≤ i) (high : i < UInt64.size) :
    Readable (.number (.int i)) := by
  have hmin : Int64.minValue.toInt = -9223372036854775808 := by decide
  have hsize : UInt64.size = 18446744073709551616 := rfl
  have hmax : Text.max64 = 18446744073709551615 := by decide
  have hfits : i.natAbs ≤ Text.max64 := by omega
  have hchars : (Json.number (.int i)).chars = intText i := rfl
  unfold intText at hchars
  split at hchars
  · rename_i hneg
    refine readable_of hchars (Or.inr (by decide)) fun fuel room line column rest _ _ ended => ?_
    obtain ⟨q, hq, hrest⟩ := number_digits
      (p := ⟨Nat.toDigits 10 i.natAbs ++ rest, line, column + 1⟩) hfits ended rfl true
    have hwhole : wholeNumber true i.natAbs 0 q = .ok (.int i, q) := by
      have hroom : ¬ (i.natAbs = 0 ∨ UInt64.size / 2 < i.natAbs) := by omega
      have hback : -(i.natAbs : Int) = i := by omega
      rw [wholeNumber, if_pos rfl, if_pos rfl, if_neg hroom, hback]
    exact ⟨q, bind_eq_ok_iff.mpr ⟨_, hq.trans hwhole, rfl⟩, hrest⟩
  · rename_i hpos
    obtain ⟨c, cs, hcs⟩ := List.exists_cons_of_ne_nil (Nat.toDigits_ne_nil (n := i.natAbs) (b := 10))
    have hdigit : c.isDigit = true := Nat.isDigit_of_mem_toDigits (n := i.natAbs) (b := 10)
      (by decide) (by decide) (hcs ▸ List.mem_cons_self)
    refine readable_of (hchars.trans hcs) (Or.inl hdigit)
      fun fuel room line column rest _ _ ended => ?_
    obtain ⟨q, hq, hrest⟩ := number_digits (p := ⟨c :: (cs ++ rest), line, column⟩) hfits ended
      (by rw [hcs]; rfl) false
    have hwhole : wholeNumber false i.natAbs 0 q = .ok (.int i, q) := by
      have hback : (i.natAbs : Int) = i := by omega
      rw [wholeNumber, if_pos rfl, if_neg Bool.false_ne_true, hback]
    refine ⟨q, ?_, hrest⟩
    rw [value_digit hdigit rfl]
    exact bind_eq_ok_iff.mpr ⟨_, hq.trans hwhole, rfl⟩

theorem readable_list {items : List Json} (each : ∀ v ∈ items, Readable v) :
    Readable (.list items) := by
  have reads {cs : List Char} (hcs : (Json.list items).chars = '[' :: cs)
      (hread : ∀ fuel room p rest, Json.depthItems items < room → 2 * cs.length ≤ fuel + 1 →
        p.rest = cs ++ rest → Yields (listItems (fuel + 1) room true p) items rest) :
      Readable (.list items) := by
    refine readable_of hcs (Or.inr (by decide)) fun fuel room line column rest shallow long _ => ?_
    rw [Json.depth] at shallow
    obtain ⟨fuel, rfl⟩ : ∃ n, fuel = n + 1 := ⟨fuel - 1, by omega⟩
    obtain ⟨q, hq, hrest⟩ := hread fuel (room - 1) ⟨cs ++ rest, line, column + 1⟩ rest (by omega)
      (by omega) rfl
    have hroom : ¬ room ≤ 1 := by omega
    exact ⟨q, (if_neg hroom).trans (bind_eq_ok_iff.mpr ⟨_, hq, rfl⟩), hrest⟩
  cases items with
  | nil => exact reads rfl fun fuel room p rest _ _ hp => listItems_nil true fuel room hp
  | cons v items =>
      obtain ⟨hv, hitems⟩ := List.forall_mem_cons.mp each
      obtain ⟨c, cs, hcs, hc⟩ := hv.starts
      have hpos := length_itemChars_pos items
      have hvpos := hv.length_pos
      refine reads rfl fun fuel room p rest shallow long hp => ?_
      rw [Json.depthItems] at shallow
      rw [List.length_append] at long
      rw [List.append_assoc] at hp
      obtain ⟨fuel, rfl⟩ : ∃ n, fuel = n + 1 := ⟨fuel - 1, by omega⟩
      have hnext : nextItem true p = .ok (some p) := by
        rw [hcs] at hp
        exact nextItem_first hc hp
      obtain ⟨q, hvalue, hq⟩ : Yields (value (fuel + 1) room p) v (Json.itemChars items ++ rest) :=
        hv.reads (by omega) (by omega) (ended_itemChars items rest) hp
      obtain ⟨q', hmore, hq'⟩ : Yields (listItems (fuel + 1) room false q) items rest :=
        listItems_itemChars hitems (by omega) (by omega) hq
      exact ⟨q', listItems_cons hnext hvalue hmore, hq'⟩

/-- Objects are read with their members in order. -/
theorem readable_object {members : List (String × Json)} (inOrder : Json.Ascending members)
    (each : ∀ m ∈ members, Readable m.2) : Readable (.object members) := by
  have reads {cs : List Char} (hcs : (Json.object members).chars = '\x7b' :: cs)
      (hread : ∀ fuel room p rest, Json.depthMembers members < room → 2 * cs.length ≤ fuel + 1 →
        p.rest = cs ++ rest → Yields (objectMembers (fuel + 1) room true p) members rest) :
      Readable (.object members) := by
    refine readable_of hcs (Or.inr (by decide)) fun fuel room line column rest shallow long _ => ?_
    rw [Json.depth] at shallow
    obtain ⟨fuel, rfl⟩ : ∃ n, fuel = n + 1 := ⟨fuel - 1, by omega⟩
    obtain ⟨q, hq, hrest⟩ := hread fuel (room - 1) ⟨cs ++ rest, line, column + 1⟩ rest (by omega)
      (by omega) rfl
    refine ⟨q, value_eq_object_iff.mpr ⟨cs ++ rest, members, rfl, by omega, hq, ?_⟩, hrest⟩
    exact inOrder.orderMembers_eq
  cases members with
  | nil => exact reads rfl fun fuel room p rest _ _ hp => objectMembers_nil true fuel room hp
  | cons m members =>
      obtain ⟨key, v⟩ := m
      obtain ⟨hv, hmembers⟩ := List.forall_mem_cons.mp each
      have hpos := length_memberChars_pos members
      refine reads rfl fun fuel room p rest shallow long hp => ?_
      rw [Json.depthMembers] at shallow
      rw [List.length_append, List.length_cons, List.length_append] at long
      rw [List.append_assoc, List.cons_append, List.append_assoc] at hp
      obtain ⟨fuel, rfl⟩ : ∃ n, fuel = n + 1 := ⟨fuel - 1, by omega⟩
      have hnext : nextKey true p = .ok (some p) := nextKey_first hp
      obtain ⟨p₂, p₃, p₄, hkey, hcolon, hvalue, hp₄⟩ := member_reads hv (fuel + 1) room
        (Nat.lt_of_le_of_lt (Nat.le_max_left _ _) shallow) (by dsimp only; omega)
        (ended_memberChars members rest) hp
      obtain ⟨p₅, hmore, hp₅⟩ : Yields (objectMembers (fuel + 1) room false p₄) members rest :=
        objectMembers_memberChars hmembers (by omega) (by omega) hp₄
      exact ⟨p₅, objectMembers_cons hnext hkey hcolon hvalue hmore, hp₅⟩

end Scan

/-! ## Bodies -/

namespace Json

/-- All numbers are integers of 64 bits, with or without a sign. -/
inductive Whole : Json → Prop where
  | null : Whole .null
  | bool (b : Bool) : Whole (.bool b)
  | int {i : Int} (low : Int64.minValue.toInt ≤ i) (high : i < UInt64.size) :
      Whole (.number (.int i))
  | text (s : String) : Whole (.text s)
  | list {items : List Json} (each : ∀ v ∈ items, Whole v) : Whole (.list items)
  | object {members : List (String × Json)} (values : ∀ m ∈ members, Whole m.2) :
      Whole (.object members)

theorem Whole.readable {v : Json} (whole : v.Whole) (inOrder : v.InByteOrder) :
    Scan.Readable v := by
  induction whole with
  | null => exact Scan.readable_null
  | bool b => exact Scan.readable_bool b
  | int low high => exact Scan.readable_int low high
  | text s => exact Scan.readable_text s
  | list _ ih =>
      cases inOrder with
      | list each => exact Scan.readable_list fun v hv => ih v hv (each v hv)
  | object _ ih =>
      cases inOrder with
      | object keys values =>
          exact Scan.readable_object (ascending_iff.mpr keys) fun m hm => ih m hm (values m hm)

theorem Whole.ordered {v : Json} (h : v.Whole) : v.ordered.Whole := by
  induction h with
  | null => exact .null
  | bool b => exact .bool b
  | int low high => exact .int low high
  | text s => exact .text s
  | list _ ih =>
      rw [ordered_list]
      refine .list fun v hv => ?_
      obtain ⟨u, hu, rfl⟩ := List.mem_map.mp hv
      exact ih u hu
  | object _ ih =>
      rw [ordered_object]
      refine .object fun m hm => ?_
      obtain ⟨m', hm', rfl⟩ := List.mem_map.mp (mem_orderMembers hm)
      exact ih m' hm'

theorem depthItems_le_iff {items : List Json} {n : Nat} :
    depthItems items ≤ n ↔ ∀ v ∈ items, v.depth ≤ n := by
  induction items with
  | nil => simp [depthItems]
  | cons v items ih => rw [depthItems, Nat.max_le, ih, List.forall_mem_cons]

theorem depthMembers_le_iff {members : List (String × Json)} {n : Nat} :
    depthMembers members ≤ n ↔ ∀ m ∈ members, m.2.depth ≤ n := by
  induction members with
  | nil => simp [depthMembers]
  | cons m members ih => rw [depthMembers, Nat.max_le, ih, List.forall_mem_cons]

theorem depth_ordered_le (v : Json) : v.ordered.depth ≤ v.depth := by
  induction v using Json.induction with
  | null | bool | number | text => exact Nat.le_refl _
  | list items ih =>
      rw [ordered_list, depth, depth, Nat.add_le_add_iff_right, depthItems_le_iff]
      intro v hv
      obtain ⟨u, hu, rfl⟩ := List.mem_map.mp hv
      exact Nat.le_trans (ih u hu) (depthItems_le_iff.mp (Nat.le_refl _) u hu)
  | object members ih =>
      rw [ordered_object, depth, depth, Nat.add_le_add_iff_right, depthMembers_le_iff]
      intro m hm
      obtain ⟨m', hm', rfl⟩ := List.mem_map.mp (mem_orderMembers hm)
      exact Nat.le_trans (ih m' hm') (depthMembers_le_iff.mp (Nat.le_refl _) m' hm')

theorem ofText_render {v : Json} (h : Scan.Readable v) (shallow : v.depth < Scan.depthLimit) :
    ofText v.render = .ok v := by
  have hp : (Cursor.ofText v.render).rest = v.chars ++ [] := by
    simp [Cursor.ofText, render]
  obtain ⟨q, hq, hrest⟩ : Scan.Yields (Scan.value (Scan.fuelFor (Cursor.ofText v.render))
      Scan.depthLimit (Cursor.ofText v.render)) v [] := by
    refine h.reads shallow ?_ (fun c hc => by cases hc) hp
    rw [Scan.fuelFor, hp, List.append_nil]
    omega
  have hend : q.skipGap.rest = [] := by
    rw [Cursor.skipGap, hrest]
    exact hrest
  exact bind_eq_ok_iff.mpr ⟨_, hq, Scan.finish_eq_ok_iff.mpr ⟨hend, rfl⟩⟩

/-- A text that starts like a value is not blank. -/
theorem not_blank_render {v : Json} (h : Scan.Readable v) : ¬ Text.blank v.render := by
  obtain ⟨c, cs, hcs, hc⟩ := h.starts
  intro hblank
  unfold Text.blank render at hblank
  rw [String.toList_ofList, hcs, List.all_cons, Bool.and_eq_true] at hblank
  exact absurd hblank.1 (by rw [hc.not_blank]; decide)

end Json

/-- What is sent for a body is what a body is read from. Its keys are in the order of their bytes,
whatever order they were listed in. As long as it nests at most 127 deep and its numbers are integers
of 64 bits, it is not blank and is read back as the value in that order. -/
theorem body_reads_back (v : Json) :
    v.ordered.InByteOrder ∧ (v.InByteOrder → v.ordered = v) ∧ bodyText v = v.ordered.render ∧
      (∀ w, v.Alike w → bodyText v = bodyText w) ∧
      (v.depth ≤ 127 → v.Whole →
        ¬ Text.blank (bodyText v) ∧ readBody (bodyText v) = .ok v.ordered) ∧
      ∀ (c : Client) (d : Dispatch) (link : Link) (m : Message), d.body = some v →
        (c.exchange d link).sent.head? = some m → m.body = bodyText v := by
  refine ⟨v.ordered_inByteOrder, Json.InByteOrder.ordered_eq, rfl, fun w alike => ?_,
    fun shallow whole => ?_, fun c d link m hb hm => ?_⟩
  · exact congrArg Json.render alike.ordered_eq
  · have hreadable := whole.ordered.readable v.ordered_inByteOrder
    have hdepth : v.ordered.depth < Scan.depthLimit :=
      Nat.lt_succ_of_le (Nat.le_trans v.depth_ordered_le shallow)
    have hblank := Json.not_blank_render hreadable
    exact ⟨hblank, readBody_eq_ok_iff.mpr (Or.inr ⟨hblank, Json.ofText_render hreadable hdepth⟩)⟩
  · obtain ⟨url, _, _, _, _, rfl⟩ := Client.message_eq_ok_iff.mp (Client.head?_exchange_iff.mp hm).2
    rw [Dispatch.messageTo, hb]
    rfl

theorem body_reads_back_awkward :
    let v : Json := .object [("", .list [.null, .number (.int (-9223372036854775808))]),
      ("\x01\"\n", .number (.int 18446744073709551615)), ("é", .text "\\")]
    let w : Json := .object [("é", .text "\\"), ("\x01\"\n", .number (.int 18446744073709551615)),
      ("", .list [.null, .number (.int (-9223372036854775808))])]
    ¬ Text.blank (bodyText v) ∧ readBody (bodyText v) = .ok v ∧ bodyText w = bodyText v := by
  intro v w
  have inOrder : v.InByteOrder := by
    refine .object (by decide +kernel) ?_
    simp only [List.forall_mem_cons]
    refine ⟨.list ?_, .number _, .text _, List.forall_mem_nil _⟩
    simp only [List.forall_mem_cons]
    exact ⟨.null, .number _, List.forall_mem_nil _⟩
  have whole : v.Whole := by
    refine .object ?_
    simp only [List.forall_mem_cons]
    refine ⟨.list ?_, .int (by decide) (by decide), .text _, List.forall_mem_nil _⟩
    simp only [List.forall_mem_cons]
    exact ⟨.null, .int (by decide) (by decide), List.forall_mem_nil _⟩
  have alike : v.Alike w := .members (List.reverse_perm _).symm (by decide +kernel)
  obtain ⟨_, hsame, _, htext, hread, _⟩ := body_reads_back v
  obtain ⟨hblank, hback⟩ := hread (by decide) whole
  exact ⟨hblank, hsame inOrder ▸ hback, (htext w alike).symm⟩

end CameraConsole
