import CameraConsole.Text.Base64
import CameraConsole.Text.Bytes

/-!
# Encodings that read back

Base 64 texts stand for the bytes they were written from, and the bytes of a text are read as this
text again. So a list of bytes is UTF-8 just when it consists of the bytes of some text.
-/

namespace CameraConsole.Text

/-! ## Base 64 -/

/-- The six-bit group of a character. -/
def base64Value? (c : Char) : Option Nat :=
  if 'A' ≤ c ∧ c ≤ 'Z' then some (c.toNat - 65)
  else if 'a' ≤ c ∧ c ≤ 'z' then some (c.toNat - 71)
  else if '0' ≤ c ∧ c ≤ '9' then some (c.toNat + 4)
  else if c = '+' then some 62
  else if c = '/' then some 63
  else none

/-- The bytes that padded base 64 characters stand for. -/
def base64Bytes? : List Char → Option (List UInt8)
  | [] => some []
  | a :: b :: c :: d :: rest =>
    match base64Value? a, base64Value? b, base64Value? c, base64Value? d with
    | some w, some x, some y, some z =>
      let n := ((w * 64 + x) * 64 + y) * 64 + z
      (base64Bytes? rest).map
        ([UInt8.ofNat (n / 65536), UInt8.ofNat (n / 256 % 256), UInt8.ofNat (n % 256)] ++ ·)
    | some w, some x, some y, none =>
      let n := (w * 64 + x) * 64 + y
      if d = '=' ∧ rest = [] then some [UInt8.ofNat (n / 1024), UInt8.ofNat (n / 4 % 256)] else none
    | some w, some x, none, none =>
      if c = '=' ∧ d = '=' ∧ rest = [] then some [UInt8.ofNat ((w * 64 + x) / 16)] else none
    | _, _, _, _ => none
  | _ => none

theorem base64Value?_digit {n : Nat} (h : n < 64) : base64Value? (base64Digit n) = some n := by
  have all : ∀ n : Fin 64, base64Value? (base64Digit n) = some n.val := by decide
  exact all ⟨n, h⟩

theorem ofNat_eq {n : Nat} {b : UInt8} (h : n = b.toNat) : UInt8.ofNat n = b := by
  rw [h, UInt8.ofNat_toNat]

theorem base64Bytes?_base64Chars (bs : List UInt8) : base64Bytes? (base64Chars bs) = some bs := by
  have pad : base64Value? '=' = none := by decide
  fun_induction base64Chars bs with
  | case1 => rfl
  | case2 a n =>
      have ha := a.toNat_lt
      simp only [base64Bytes?, base64Value?_digit (show n / 64 < 64 by omega),
        base64Value?_digit (show n % 64 < 64 by omega), pad, and_self, ↓reduceIte]
      rw [ofNat_eq (b := a) (by omega)]
  | case3 a b n =>
      have ha := a.toNat_lt
      have hb := b.toNat_lt
      simp only [base64Bytes?, base64Value?_digit (show n / 4096 < 64 by omega),
        base64Value?_digit (show n / 64 % 64 < 64 by omega),
        base64Value?_digit (show n % 64 < 64 by omega), pad, and_self, ↓reduceIte]
      rw [ofNat_eq (b := a) (by omega), ofNat_eq (b := b) (by omega)]
  | case4 a b c rest n ih =>
      have ha := a.toNat_lt
      have hb := b.toNat_lt
      have hc := c.toNat_lt
      simp only [base64Bytes?, base64Value?_digit (show n / 262144 < 64 by omega),
        base64Value?_digit (show n / 4096 % 64 < 64 by omega),
        base64Value?_digit (show n / 64 % 64 < 64 by omega),
        base64Value?_digit (show n % 64 < 64 by omega), ih, Option.map_some]
      rw [ofNat_eq (b := a) (by omega), ofNat_eq (b := b) (by omega), ofNat_eq (b := c) (by omega)]
      rfl

/-! ## UTF-8 -/

theorem lead_one {n : Nat} (h : n < 0x80) : lead (UInt8.ofNat n) = .char (Char.ofNat n) := by
  simp only [lead, UInt8.toNat_ofNat_of_lt' (show n < 256 by omega), h, ↓reduceIte]

theorem lead_two {n : Nat} (hl : 0xC2 ≤ n) (hh : n < 0xE0) :
    lead (UInt8.ofNat n) = .pending ⟨1, 0x80, 0xBF, n - 0xC0⟩ := by
  have h1 : ¬ n < 0x80 := by omega
  have h2 : ¬ n < 0xC2 := by omega
  simp only [lead, UInt8.toNat_ofNat_of_lt' (show n < 256 by omega), h1, h2, hh, ↓reduceIte]

theorem lead_three {n : Nat} (hl : 0xE0 ≤ n) (hh : n < 0xF0) :
    lead (UInt8.ofNat n) = .pending ⟨2, if n = 0xE0 then 0xA0 else 0x80,
      if n = 0xED then 0x9F else 0xBF, n - 0xE0⟩ := by
  have h1 : ¬ n < 0x80 := by omega
  have h2 : ¬ n < 0xC2 := by omega
  have h3 : ¬ n < 0xE0 := by omega
  simp only [lead, UInt8.toNat_ofNat_of_lt' (show n < 256 by omega), h1, h2, h3, ↓reduceIte]
  by_cases h4 : n = 0xE0
  · subst h4; rfl
  · by_cases h5 : n = 0xED
    · subst h5; rfl
    · simp only [h4, h5, hh, ↓reduceIte]

theorem lead_four {n : Nat} (hl : 0xF0 ≤ n) (hh : n ≤ 0xF4) :
    lead (UInt8.ofNat n) = .pending ⟨3, if n = 0xF0 then 0x90 else 0x80,
      if n = 0xF4 then 0x8F else 0xBF, n - 0xF0⟩ := by
  obtain rfl | rfl | rfl | rfl | rfl :
      n = 0xF0 ∨ n = 0xF1 ∨ n = 0xF2 ∨ n = 0xF3 ∨ n = 0xF4 := by omega
  all_goals rfl

section

variable {owed low high bits n : Nat} {rest : List UInt8}

theorem fromUtf8_lead {b : UInt8} {p : Pending} (h : lead b = .pending p) :
    fromUtf8 none (b :: rest) = fromUtf8 (some p) rest := by
  simp only [fromUtf8, h]

theorem fromUtf8_last (hl : low ≤ n) (hh : n ≤ high) (hn : n < 256) :
    fromUtf8 (some ⟨1, low, high, bits⟩) (UInt8.ofNat n :: rest) =
      Char.ofNat (bits * 64 + (n - 0x80)) :: fromUtf8 none rest := by
  simp only [fromUtf8, UInt8.toNat_ofNat_of_lt' hn, hl, hh, Nat.le_refl, and_self, ↓reduceIte]

theorem fromUtf8_more (hl : low ≤ n) (hh : n ≤ high) (hn : n < 256) :
    fromUtf8 (some ⟨owed + 2, low, high, bits⟩) (UInt8.ofNat n :: rest) =
      fromUtf8 (some ⟨owed + 1, 0x80, 0xBF, bits * 64 + (n - 0x80)⟩) rest := by
  have ho : ¬ owed + 2 ≤ 1 := by omega
  simp only [fromUtf8, UInt8.toNat_ofNat_of_lt' hn, hl, hh, ho, and_self, ↓reduceIte]
  rfl

end

theorem fromUtf8_encodeChar (c : Char) (rest : List UInt8) :
    fromUtf8 none (String.utf8EncodeChar c ++ rest) = c :: fromUtf8 none rest := by
  have hv : c.toNat < 0xD800 ∨ (0xDFFF < c.toNat ∧ c.toNat < 0x110000) := c.valid
  have hc : Char.ofNat c.toNat = c := c.ofNat_toNat
  unfold String.utf8EncodeChar
  simp only [Char.toNat_val]
  generalize c.toNat = v at hv hc ⊢
  split
  · simp only [List.cons_append, List.nil_append, fromUtf8, lead_one (show v < 0x80 by omega), hc]
  split
  · have hbits : (v / 64 % 32 + 192 - 0xC0) * 64 + (v % 64 + 128 - 0x80) = v := by omega
    simp only [List.cons_append, List.nil_append]
    rw [fromUtf8_lead (lead_two (by omega) (by omega)),
      fromUtf8_last (by omega) (by omega) (by omega), hbits, hc]
  split
  · have hbits : ((v / 4096 % 16 + 224 - 0xE0) * 64 + (v / 64 % 64 + 128 - 0x80)) * 64 +
        (v % 64 + 128 - 0x80) = v := by omega
    simp only [List.cons_append, List.nil_append]
    -- The limits of the second byte keep out short forms and surrogates.
    rw [fromUtf8_lead (lead_three (by omega) (by omega)),
      fromUtf8_more (by split <;> omega) (by split <;> omega) (by omega),
      fromUtf8_last (by omega) (by omega) (by omega), hbits, hc]
  · have hbits : (((v / 262144 % 8 + 240 - 0xF0) * 64 + (v / 4096 % 64 + 128 - 0x80)) * 64 +
        (v / 64 % 64 + 128 - 0x80)) * 64 + (v % 64 + 128 - 0x80) = v := by omega
    simp only [List.cons_append, List.nil_append]
    rw [fromUtf8_lead (lead_four (by omega) (by omega)),
      fromUtf8_more (by split <;> omega) (by split <;> omega) (by omega),
      fromUtf8_more (by omega) (by omega) (by omega),
      fromUtf8_last (by omega) (by omega) (by omega), hbits, hc]

theorem fromUtf8_bytes (s : String) : fromUtf8 none (bytes s) = s.toList := by
  unfold bytes
  induction s.toList with
  | nil => rfl
  | cons c cs ih => rw [List.flatMap_cons, fromUtf8_encodeChar, ih]

theorem fromUtf8?_eq_some_iff {bs : List UInt8} {s : String} :
    fromUtf8? bs = some s ↔ bytes s = bs := by
  unfold fromUtf8?
  constructor
  · intro h
    dsimp only at h
    split at h
    · cases h
      assumption
    · cases h
  · rintro rfl
    rw [fromUtf8_bytes, String.ofList_toList]
    simp only [↓reduceIte]

end CameraConsole.Text
