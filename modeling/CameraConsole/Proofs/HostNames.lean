import CameraConsole.Proofs.Encodings
import CameraConsole.Url.Host

/-!
# Blanks in the names of hosts

A blank stays what it is when a name is decoded, put into plain form and composed. So no host of the
web ends in one.
-/

namespace CameraConsole

namespace Text

/-! ## Bytes -/

theorem forall_blank {p : Char → Prop} (h : ∀ n : Fin 33, p (Char.ofNat n)) {c : Char}
    (hc : c.toNat ≤ 0x20) : p c := by
  have hn := h ⟨c.toNat, Nat.lt_succ_of_le hc⟩
  rwa [Char.ofNat_toNat] at hn

theorem mem_percentDecode {c : Char} (h : c.toNat ≤ 0x20) {cs : List Char} (hc : c ∈ cs) :
    UInt8.ofNat c.toNat ∈ percentDecode cs := by
  have henc : String.utf8EncodeChar c = [UInt8.ofNat c.toNat] := by
    have hone : c.val.toNat ≤ 127 := by
      have hval : c.val.toNat = c.toNat := rfl
      omega
    unfold String.utf8EncodeChar
    rw [if_pos hone]
    rfl
  have hpercent : c ≠ '%' := by
    rintro rfl
    exact absurd h (by decide)
  fun_induction percentDecode cs with
  | case1 => cases hc
  | case2 a b rest x y hx hy ih =>
      have hother {d : Char} {n : Nat} (hd : hexValue? d = some n) : c ≠ d := by
        rintro rfl
        have hnone : hexValue? c = none := forall_blank (p := (hexValue? · = none)) (by decide) h
        cases hnone.symm.trans hd
      have hrest : c ∈ rest := by
        simpa [hpercent, hother hx, hother hy] using hc
      exact List.mem_cons_of_mem _ (ih hrest)
  | case3 a b rest hxy ih =>
      have hrest : c ∈ a :: b :: rest := (List.mem_cons.mp hc).resolve_left hpercent
      exact List.mem_append_right _ (ih hrest)
  | case4 d rest hd ih =>
      rcases List.mem_cons.mp hc with rfl | hc
      · rw [henc]
        exact List.mem_append_left _ List.mem_cons_self
      · exact List.mem_append_right _ (ih hc)

/-- A byte of ASCII stands for its character alone. -/
theorem eq_of_mem_encodeChar {c : Char} {b : UInt8} (hb : b.toNat < 0x80)
    (h : b ∈ String.utf8EncodeChar c) : c = Char.ofNat b.toNat := by
  have hc : Char.ofNat c.toNat = c := c.ofNat_toNat
  unfold String.utf8EncodeChar at h
  simp only [Char.toNat_val] at h
  generalize c.toNat = v at hc h
  have later {n : Nat} (hl : 0x80 ≤ n) (hh : n < 256) : b ≠ UInt8.ofNat n := by
    rintro rfl
    rw [UInt8.toNat_ofNat_of_lt' hh] at hb
    omega
  split at h
  · cases List.mem_singleton.mp h
    rw [UInt8.toNat_ofNat_of_lt' (show v < 256 by omega), hc]
  · exfalso
    split at h
    · simp only [List.mem_cons, List.not_mem_nil, or_false] at h
      rcases h with h | h <;> exact later (by omega) (by omega) h
    split at h
    · simp only [List.mem_cons, List.not_mem_nil, or_false] at h
      rcases h with h | h | h <;> exact later (by omega) (by omega) h
    · simp only [List.mem_cons, List.not_mem_nil, or_false] at h
      rcases h with h | h | h | h <;> exact later (by omega) (by omega) h

/-! ## Composed forms -/

/-- Neither composites nor their parts are blanks. -/
theorem composites_beyond_blanks :
    composites.all (fun (c, a, b) => 0x20 < c && 0x20 < a && 0x20 < b) = true := by decide +kernel

variable {n : Nat}

theorem compositeParts?_blank (hn : n ≤ 0x20) : compositeParts? n = none := by
  have hs : isSyllable n = false := by
    simp only [isSyllable, Bool.and_eq_false_iff, decide_eq_false_iff_not]
    omega
  unfold compositeParts?
  rw [hs, if_neg Bool.false_ne_true, Option.map_eq_none_iff, List.find?_eq_none]
  rintro ⟨c, a, b⟩ hm hc
  have hall := List.all_eq_true.mp composites_beyond_blanks _ hm
  simp only [Bool.and_eq_true, decide_eq_true_eq] at hall hc
  omega

theorem composite?_beyond_blanks {a b c : Nat} (h : composite? a b = some c) :
    0x20 < a ∧ 0x20 < b := by
  unfold composite? at h
  simp only [Option.orElse_eq_orElse, Option.orElse_eq_or, Option.or_eq_some_iff] at h
  rcases h with h | ⟨_, h | ⟨_, h⟩⟩
  · unfold openSyllable? at h
    split at h
    · omega
    · cases h
  · unfold closedSyllable? isSyllable at h
    split at h
    · rename_i hs
      simp only [Bool.and_eq_true, decide_eq_true_eq] at hs
      omega
    · cases h
  · obtain ⟨⟨c', a', b'⟩, hf, _⟩ := Option.map_eq_some_iff.mp h
    have hall := List.all_eq_true.mp composites_beyond_blanks _ (List.mem_of_find?_eq_some hf)
    have hab := List.find?_some hf
    simp only [Bool.and_eq_true, decide_eq_true_eq] at hall hab
    omega

theorem mem_settle {m : Nat} {text : List Nat} : m ∈ settle n text ↔ m = n ∨ m ∈ text := by
  induction text with
  | nil => simp [settle]
  | cons k text ih =>
      unfold settle
      split
      · rw [List.mem_cons, ih, List.mem_cons]
        exact or_left_comm
      · rw [List.mem_cons]

theorem mem_ordered {ns : List Nat} : n ∈ ordered ns ↔ n ∈ ns := by
  have settled (text : List Nat) :
      n ∈ ns.foldl (fun text m => settle m text) text ↔ n ∈ text ∨ n ∈ ns := by
    induction ns generalizing text with
    | nil => simp
    | cons m ns ih =>
        rw [List.foldl_cons, ih, mem_settle, List.mem_cons, or_comm (a := n = m), or_assoc]
  rw [ordered, List.mem_reverse, settled, or_iff_right List.not_mem_nil]

theorem mem_composedFrom {start : Nat} {marks ns : List Nat} (hn : n ≤ 0x20)
    (h : n = start ∨ n ∈ marks ∨ n ∈ ns) : n ∈ composedFrom start marks ns := by
  fun_induction composedFrom start marks ns with
  | case1 start marks => simpa using h
  | case2 start marks m ns apart c hc ih =>
      -- What is composed here is no blank, neither the start nor the mark.
      have hbeyond : 0x20 < start ∧ 0x20 < m := by
        split at hc
        · cases hc
        · exact composite?_beyond_blanks hc
      rcases h with rfl | h | h
      · omega
      · exact ih (Or.inr (Or.inl h))
      · rcases List.mem_cons.mp h with rfl | h
        · omega
        · exact ih (Or.inr (Or.inr h))
  | case3 start marks m ns apart _ _ ih =>
      rcases h with rfl | h | h
      · exact List.mem_cons_self
      · exact List.mem_cons_of_mem _ (List.mem_append_left _ (List.mem_reverse.mpr h))
      · have hrest := ih ((List.mem_cons.mp h).imp_right Or.inr)
        exact List.mem_cons_of_mem _ (List.mem_append_right _ hrest)
  | case4 start marks m ns apart _ _ ih =>
      rcases h with h | h | h
      · exact ih (Or.inl h)
      · exact ih (Or.inr (Or.inl (List.mem_cons_of_mem m h)))
      · rcases List.mem_cons.mp h with rfl | h
        · exact ih (Or.inr (Or.inl List.mem_cons_self))
        · exact ih (Or.inr (Or.inr h))

theorem mem_composed {ns : List Nat} (hn : n ≤ 0x20) (h : n ∈ ns) : n ∈ composed ns := by
  fun_induction composed ns with
  | case1 => cases h
  | case2 m ns _ => exact mem_composedFrom hn ((List.mem_cons.mp h).imp_right Or.inr)
  | case3 m ns _ ih =>
      rcases List.mem_cons.mp h with rfl | h
      · exact List.mem_cons_self
      · exact List.mem_cons_of_mem m (ih h)

theorem mem_composedForm {c : Char} (hc : c.toNat ≤ 0x20) {cs : List Char} (h : c ∈ cs) :
    c ∈ composedForm cs := by
  have hparts : c.toNat ∈ (cs.map Char.toNat).flatMap (decomposed compositeDepth) := by
    refine List.mem_flatMap.mpr ⟨c.toNat, List.mem_map_of_mem h, ?_⟩
    simp only [compositeDepth, decomposed, compositeParts?_blank hc]
    exact List.mem_cons_self
  exact List.mem_map.mpr ⟨c.toNat, mem_composed hc (mem_ordered.mpr hparts), Char.ofNat_toNat c⟩

end Text

/-! ## Hosts -/

namespace Host

/-- A blank in a text is a blank in the name that it stands for. -/
theorem mem_name? {b : Char} (hb : b.toNat ≤ 0x20) {cs name : List Char} (h : b ∈ cs)
    (hname : name? cs = some name) : b ∈ name := by
  have hbyte := Text.mem_percentDecode hb h
  have hnat : (UInt8.ofNat b.toNat).toNat = b.toNat :=
    UInt8.toNat_ofNat_of_lt' (Nat.lt_of_le_of_lt hb (by decide))
  have hlower : b.toLower = b := Text.forall_blank (p := fun c => c.toLower = c) (by decide) hb
  unfold name? at hname
  dsimp only at hname
  split at hname
  · cases hname
    refine List.mem_map.mpr ⟨_, hbyte, ?_⟩
    rw [hnat, Char.ofNat_toNat, hlower]
  · obtain ⟨s, hs, rfl⟩ := Option.map_eq_some_iff.mp hname
    have hchar : b ∈ s.toList := by
      rw [← Text.fromUtf8?_eq_some_iff.mp hs] at hbyte
      obtain ⟨c, hc, hbc⟩ := List.mem_flatMap.mp hbyte
      have hlt : (UInt8.ofNat b.toNat).toNat < 0x80 := by omega
      have heq := Text.eq_of_mem_encodeChar hlt hbc
      rw [hnat, Char.ofNat_toNat] at heq
      exact heq ▸ hc
    have hplain : Url.plainForm b = [b] := by
      have hlt : b.toNat < 0x80 := by omega
      rw [Url.plainForm, if_pos hlt, hlower]
    refine Text.mem_composedForm hb (List.mem_flatMap.mpr ⟨b, hchar, ?_⟩)
    rw [hplain]
    exact List.mem_cons_self

/-- No host of the web ends in a blank. -/
theorem web_blank (cs : List Char) {b : Char} (hb : b.toNat ≤ 0x20) :
    ∃ fault, web (cs ++ [b]) = .error fault := by
  unfold web
  split
  · rename_i rest hcs
    have hend : b ≠ ']' := by
      rintro rfl
      exact absurd hb (by decide)
    cases cs with
    | nil =>
        cases hcs
        exact absurd hb (by decide)
    | cons c cs =>
        obtain rfl : cs ++ [b] = rest := (List.cons.inj hcs).2
        refine ⟨.invalidIpv6, ?_⟩
        unfold bracketed
        rw [List.reverse_append, List.reverse_singleton, List.singleton_append]
        split
        · rename_i hr
          exact absurd (List.cons.inj hr).1 hend
        · rfl
  · refine ⟨.invalidInternationalName, ?_⟩
    cases hname : name? (cs ++ [b]) with
    | none => rfl
    | some name =>
        have hmem := mem_name? hb (List.mem_append_right cs List.mem_cons_self) hname
        have hbad : forbidden b = true :=
          Text.forall_blank (p := (forbidden · = true)) (by decide) hb
        have hany : name.any forbidden = true := List.any_eq_true.mpr ⟨b, hmem, hbad⟩
        dsimp only
        rw [hany]
        rfl

end Host

end CameraConsole
