import CameraConsole.Form
import CameraConsole.Proofs.Encodings

/-!
# Forms that read back

An encoded name or value has letters, digits and few other characters, none of which separates pairs
or names from values. So the query of a pair is read as this one pair again, whatever its texts.
-/

namespace CameraConsole

/-! ## Percent encoding -/

namespace Text

theorem hexValue?_hexDigit {n : Nat} (h : n < 16) : hexValue? (hexDigit n) = some n := by
  have all : ∀ n : Fin 16, hexValue? (hexDigit n) = some n.val := by decide
  exact all ⟨n, h⟩

theorem percentDecode_cons {c : Char} (h : c ≠ '%') (rest : List Char) :
    percentDecode (c :: rest) = String.utf8EncodeChar c ++ percentDecode rest := by
  rw [percentDecode.eq_def]
  split
  · rename_i hc; cases hc
  · rename_i hc; exact absurd (List.cons.inj hc).1 h
  · rename_i hc; cases hc; rfl

theorem percentDecode_percentByte (b : UInt8) (rest : List Char) :
    percentDecode (percentByte b ++ rest) = b :: percentDecode rest := by
  have hb := b.toNat_lt
  have hn : b.toNat / 16 * 16 + b.toNat % 16 = b.toNat := Nat.div_add_mod' b.toNat 16
  simp only [percentByte, List.cons_append, List.nil_append, percentDecode,
    hexValue?_hexDigit (show b.toNat / 16 < 16 by omega),
    hexValue?_hexDigit (show b.toNat % 16 < 16 by omega), hn, UInt8.ofNat_toNat]

theorem percentDecode_percentBytes (bs : List UInt8) (rest : List Char) :
    percentDecode (bs.flatMap percentByte ++ rest) = bs ++ percentDecode rest := by
  induction bs with
  | nil => rfl
  | cons b bs ih =>
      rw [List.flatMap_cons, List.append_assoc, percentDecode_percentByte, ih, List.cons_append]

/-! ## Parts -/

theorem splitAll_plain {sep : Char → Bool} {cs : List Char} (h : ∀ c ∈ cs, sep c = false) :
    splitAll sep cs = [cs] := by
  induction cs with
  | nil => rfl
  | cons c cs ih =>
      have hc := h c List.mem_cons_self
      simp only [splitAll, hc, ih fun d hd => h d (List.mem_cons_of_mem c hd), Bool.false_eq_true,
        ↓reduceIte]

end Text

namespace Form

/-! ## Characters of encoded texts -/

/-- The characters of encoded names and values. -/
def Safe (c : Char) : Prop :=
  kept c ∨ c = '+' ∨ c = '%'

instance decidableSafe (c : Char) : Decidable (Safe c) :=
  inferInstanceAs (Decidable (_ ∨ _))

theorem kept_hexDigit {n : Nat} (h : n < 16) : kept (Text.hexDigit n) := by
  have all : ∀ n : Fin 16, kept (Text.hexDigit n) := by decide
  exact all ⟨n, h⟩

theorem mem_percentByte {b : UInt8} {c : Char} (h : c ∈ Text.percentByte b) : kept c ∨ c = '%' := by
  have hb := b.toNat_lt
  simp only [Text.percentByte, List.mem_cons, List.not_mem_nil, or_false] at h
  rcases h with rfl | rfl | rfl
  · exact Or.inr rfl
  · exact Or.inl (kept_hexDigit (by omega))
  · exact Or.inl (kept_hexDigit (by omega))

/-- A character becomes a plus sign, stays what it is, or becomes bytes. -/
theorem encodeChar_cases (c : Char) :
    (c = ' ' ∧ encodeChar c = ['+']) ∨ (kept c ∧ encodeChar c = [c]) ∨
      encodeChar c = (String.utf8EncodeChar c).flatMap Text.percentByte := by
  unfold encodeChar Text.percentChar
  by_cases hs : c = ' '
  · exact Or.inl ⟨hs, if_pos hs⟩
  · rw [if_neg hs]
    by_cases hk : c.toNat < 0x80 && !(!kept c)
    · have hk' : c.toNat < 0x80 ∧ kept c := by simpa using hk
      exact Or.inr (Or.inl ⟨hk'.2, if_pos hk⟩)
    · exact Or.inr (Or.inr (if_neg hk))

theorem safe_of_mem_encode {s : String} {c : Char} (h : c ∈ (encode s).toList) : Safe c := by
  rw [encode, String.toList_ofList] at h
  obtain ⟨d, _, hc⟩ := List.mem_flatMap.mp h
  rcases encodeChar_cases d with ⟨_, he⟩ | ⟨hk, he⟩ | he
  · rw [he] at hc
    exact Or.inr (Or.inl (List.mem_singleton.mp hc))
  · rw [he] at hc
    exact Or.inl (List.mem_singleton.mp hc ▸ hk)
  · rw [he] at hc
    obtain ⟨b, _, hb⟩ := List.mem_flatMap.mp hc
    exact (mem_percentByte hb).imp_right Or.inr

theorem not_mem_encode {c : Char} (h : ¬ Safe c) (s : String) : c ∉ (encode s).toList :=
  fun hc => h (safe_of_mem_encode hc)

/-! ## Reading back -/

/-- A plus sign stands for a blank. -/
def spaced (cs : List Char) : List Char :=
  cs.map fun c => if c = '+' then ' ' else c

theorem spaced_percentBytes (bs : List UInt8) :
    spaced (bs.flatMap Text.percentByte) = bs.flatMap Text.percentByte := by
  refine (List.map_congr_left fun c hc => ?_).trans (List.map_id' _)
  obtain ⟨b, _, hb⟩ := List.mem_flatMap.mp hc
  have hplus : c ≠ '+' := by
    rintro rfl
    rcases mem_percentByte hb with hk | hk <;> cases hk
  exact if_neg hplus

theorem percentDecode_encodeChar (c : Char) (rest : List Char) :
    Text.percentDecode (spaced (encodeChar c) ++ rest) =
      String.utf8EncodeChar c ++ Text.percentDecode rest := by
  rcases encodeChar_cases c with ⟨rfl, he⟩ | ⟨hk, he⟩ | he
  · rw [he]
    exact Text.percentDecode_cons (by decide) rest
  · have hplus : c ≠ '+' := by rintro rfl; cases hk
    have hpercent : c ≠ '%' := by rintro rfl; cases hk
    rw [he]
    simp only [spaced, List.map_cons, List.map_nil, if_neg hplus, List.cons_append, List.nil_append]
    exact Text.percentDecode_cons hpercent rest
  · rw [he, spaced_percentBytes, Text.percentDecode_percentBytes]

theorem decode_encode (s : String) : decode (encode s).toList = s := by
  have bytes (cs : List Char) : Text.percentDecode (spaced (cs.flatMap encodeChar)) =
      cs.flatMap String.utf8EncodeChar := by
    induction cs with
    | nil => rfl
    | cons c cs ih =>
        rw [List.flatMap_cons, List.flatMap_cons, ← ih]
        exact (congrArg _ List.map_append).trans (percentDecode_encodeChar c _)
  have hd : decode (encode s).toList =
      String.ofList (Text.fromUtf8 none (Text.percentDecode (spaced (encode s).toList))) := rfl
  rw [hd, encode, String.toList_ofList, bytes]
  exact (congrArg String.ofList (Text.fromUtf8_bytes s)).trans String.ofList_toList

/-! ## Pairs -/

/-- The query of a pair is read as this pair and no other. -/
theorem pairs_encode (name value : String) :
    pairs (encode name ++ "=" ++ encode value) = [(name, value)] := by
  have hchars : (encode name ++ "=" ++ encode value).toList =
      (encode name).toList ++ '=' :: (encode value).toList := by simp
  have hamp : ∀ c ∈ (encode name).toList ++ '=' :: (encode value).toList,
      decide (c = '&') = false := by
    have hn := not_mem_encode (c := '&') (by decide)
    refine fun c hc => decide_eq_false ?_
    rintro rfl
    simp [hn name, hn value] at hc
  have hname : ∀ c ∈ (encode name).toList, decide (c ≠ '=') = true := by
    intro c hc
    have hne : c ≠ '=' := by
      rintro rfl
      exact not_mem_encode (by decide) name hc
    exact decide_eq_true hne
  have hpair :
      decodePair ((encode name).toList ++ '=' :: (encode value).toList) = (name, value) := by
    unfold decodePair
    rw [List.takeWhile_append_of_pos hname, List.dropWhile_append_of_pos hname]
    simp [decode_encode]
  simp [pairs, hchars, Text.splitAll_plain hamp, hpair]

end Form

end CameraConsole
