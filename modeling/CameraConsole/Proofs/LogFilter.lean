import CameraConsole.LogFilter
import CameraConsole.Proofs.CommandLine
import CameraConsole.Proofs.FormEncoding

/-!
# What a filter shows

Directives are ordered by how specific they are, and the last of the most specific ones about an event
decides. It looks at the level, the source and the names of an event, never at its values.
-/

namespace CameraConsole

/-! ## Specific directives -/

namespace Directive

variable {a b c : Directive}

theorem overrides_iff : a.overrides b ↔ b.target.length < a.target.length ∨
    a.target.length = b.target.length ∧ b.scope.field < a.scope.field := by
  simp only [overrides, Bool.or_eq_true, Bool.and_eq_true, decide_eq_true_eq]

theorem overrides_trans (h : a.overrides b) (h' : b.overrides c) : a.overrides c := by
  rw [overrides_iff] at *
  rcases h with h | ⟨h, hf⟩
  · rcases h' with h' | ⟨h', _⟩ <;> exact Or.inl (by omega)
  · rcases h' with h' | ⟨h', hf'⟩
    · exact Or.inl (by omega)
    · exact Or.inr ⟨h.trans h', String.lt_trans hf' hf⟩

/-- What overrides a directive overrides all that do not override it. -/
theorem overrides_of_not_overrides (h : a.overrides c) (hb : ¬ b.overrides c) : a.overrides b := by
  rw [overrides_iff] at *
  rcases h with h | ⟨h, hf⟩
  · exact Or.inl (by omega)
  · rcases Nat.lt_or_ge b.target.length c.target.length with hlt | hge
    · exact Or.inl (by omega)
    · have heq : b.target.length = c.target.length := by omega
      have hle : b.scope.field ≤ c.scope.field := String.not_lt.mp fun hlt => hb (Or.inr ⟨heq, hlt⟩)
      refine Or.inr ⟨h.trans heq.symm, Classical.byContradiction fun hn => ?_⟩
      exact String.not_lt.mpr (String.le_trans (String.not_lt.mp hn) hle) hf

end Directive

namespace LogFilter

variable {f : LogFilter} {e e' : LogEvent} {d : Directive}

/-- A directive of the filter decides about an event: no directive before it that is about the event
is more specific, and none behind it is as specific. -/
def Decides (f : LogFilter) (e : LogEvent) (d : Directive) : Prop :=
  ∃ before after, f = before ++ d :: after ∧ d.concerns e ∧
    (∀ b ∈ before, b.concerns e → ¬ b.overrides d) ∧ ∀ a ∈ after, a.concerns e → d.overrides a

theorem decisive?_mem (h : f.decisive? e = some d) : d ∈ f ∧ d.concerns e := by
  fun_induction decisive? e f with
  | case1 => cases h
  | case2 x f hx _ => cases h; exact ⟨List.mem_cons_self, hx⟩
  | case3 x f hx best _ _ => cases h; exact ⟨List.mem_cons_self, hx⟩
  | case4 x f hx best hbest _ ih =>
      cases h
      exact (ih hbest).imp_left (List.mem_cons_of_mem x)
  | case5 x f hx ih => exact (ih h).imp_left (List.mem_cons_of_mem x)

theorem decisive?_eq_none (h : f.decisive? e = none) : ∀ a ∈ f, ¬ a.concerns e := by
  fun_induction decisive? e f with
  | case1 => exact List.forall_mem_nil _
  | case2 x f hx _ => cases h
  | case3 x f hx best _ _ => cases h
  | case4 x f hx best _ _ _ => cases h
  | case5 x f hx ih => exact List.forall_mem_cons.mpr ⟨hx, ih h⟩

theorem decides_of_decisive? (h : f.decisive? e = some d) : f.Decides e d := by
  fun_induction decisive? e f generalizing d with
  | case1 => cases h
  | case2 x f hx hnone =>
      cases h
      exact ⟨[], f, rfl, hx, List.forall_mem_nil _, fun a ha hc =>
        absurd hc (decisive?_eq_none hnone a ha)⟩
  | case3 x f hx best hbest hover ih =>
      cases h
      obtain ⟨before, after, rfl, _, hbefore, hafter⟩ := ih hbest
      -- The best one of the rest overrides what comes behind it, and what comes before cannot
      -- override it.
      refine ⟨[], _, rfl, hx, List.forall_mem_nil _, fun a ha hc => ?_⟩
      rcases List.mem_append.mp ha with ha | ha
      · exact Directive.overrides_of_not_overrides hover (hbefore a ha hc)
      · rcases List.mem_cons.mp ha with rfl | ha
        · exact hover
        · exact Directive.overrides_trans hover (hafter a ha hc)
  | case4 x f hx best hbest hover ih =>
      cases h
      obtain ⟨before, after, rfl, hd, hbefore, hafter⟩ := ih hbest
      exact ⟨x :: before, after, rfl, hd, List.forall_mem_cons.mpr ⟨fun _ => hover, hbefore⟩, hafter⟩
  | case5 x f hx ih =>
      obtain ⟨before, after, rfl, hd, hbefore, hafter⟩ := ih h
      exact ⟨x :: before, after, rfl, hd, List.forall_mem_cons.mpr ⟨fun hc => absurd hc hx, hbefore⟩,
        hafter⟩

theorem Decides.decisive?_eq (h : f.Decides e d) : f.decisive? e = some d := by
  obtain ⟨before, after, rfl, hd, hbefore, hafter⟩ := h
  induction before with
  | nil =>
      rw [List.nil_append, decisive?, if_pos hd]
      cases hbest : decisive? e after with
      | none => rfl
      | some best =>
          obtain ⟨hm, hc⟩ := decisive?_mem hbest
          exact if_pos (hafter best hm hc)
  | cons b before ih =>
      obtain ⟨hb, hbefore⟩ := List.forall_mem_cons.mp hbefore
      rw [List.cons_append, decisive?, ih hbefore]
      split
      · exact if_neg (hb ‹_›)
      · rfl

/-- An event is shown just when the directive that decides about it is verbose enough. -/
theorem shows_iff : f.shows e ↔ ∃ d, f.Decides e d ∧ d.verbosity.shows e.level := by
  unfold shows
  rw [Option.any_eq_true]
  constructor
  · rintro ⟨d, h, hv⟩
    exact ⟨d, decides_of_decisive? h, hv⟩
  · rintro ⟨d, h, hv⟩
    exact ⟨d, h.decisive?_eq, hv⟩

/-! ## What the filter looks at -/

theorem concerns_congr (hs : e.source = e'.source) (hn : e.names = e'.names) (d : Directive) :
    d.concerns e = d.concerns e' := by
  unfold Directive.concerns
  rw [hs]
  congr 1
  cases d.scope with
  | events => rfl
  | eventsWith field => simp only [Scope.includes, hn]
  | spans => rfl

theorem shows_congr (f : LogFilter) (hl : e.level = e'.level) (hs : e.source = e'.source)
    (hn : e.names = e'.names) : f.shows e = f.shows e' := by
  have hd : f.decisive? e = f.decisive? e' := by
    induction f with
    | nil => rfl
    | cons d f ih => simp only [decisive?, concerns_congr hs hn d, ih]
  unfold shows
  rw [hd, hl]

/-! ## Filters of one level -/

theorem shows_everywhere (v : Verbosity) (e : LogEvent) :
    shows [.everywhere v] e = v.shows e.level := by
  have hd : decisive? e [.everywhere v] = some (.everywhere v) := rfl
  rw [shows, hd]
  rfl

/-- Without a filter in the environment the warnings are shown, and nothing else. -/
theorem shows_of_unset {env : Environment} (h : env.lookup "RUST_LOG" = none) (e : LogEvent) :
    (ofEnvironment env).shows e ↔ e.level = .warn := by
  rw [ofEnvironment, h, Option.bind_none, Option.getD_none, shows_everywhere]
  cases e.level <;> decide

section

variable {cs : List Char} {v : Verbosity}

theorem isAlpha_of_toLower {c : Char} (h : c.toLower.isAlpha) : c.isAlpha := by
  unfold Char.toLower at h
  split at h
  · exact Bool.or_eq_true_iff.mpr (Or.inl (decide_eq_true ‹_›))
  · exact h

theorem not_isDigit_of_isAlpha {c : Char} (h : c.isAlpha) : ¬ c.isDigit := by
  intro hd
  have hle : c.val ≤ '9'.val := of_decide_eq_true (Bool.and_eq_true_iff.mp hd).2
  rcases Bool.or_eq_true_iff.mp h with hu | hl
  · have hge : 'A'.val ≤ c.val := (of_decide_eq_true hu).1
    exact absurd (UInt32.le_trans hge hle) (by decide)
  · have hge : 'a'.val ≤ c.val := of_decide_eq_true (Bool.and_eq_true_iff.mp hl).1
    exact absurd (UInt32.le_trans hge hle) (by decide)

theorem letters_of_name (h : cs.map Char.toLower = v.name.toList) : ∀ c ∈ cs, c.isAlpha := by
  intro c hc
  have hm : c.toLower ∈ v.name.toList := h ▸ List.mem_map_of_mem hc
  have hall : v.name.toList.all Char.isAlpha = true := by cases v <;> rfl
  exact isAlpha_of_toLower (List.all_eq_true.mp hall _ hm)

theorem ne_of_isAlpha {c d : Char} (hc : c.isAlpha) (hd : d.isAlpha = false) : c ≠ d := by
  rintro rfl
  rw [hd] at hc
  cases hc

theorem readNumeral_letters (limit : Nat) (h : ∀ c ∈ cs, c.isAlpha) :
    ∃ fault, Text.readNumeral limit (String.ofList cs) = .error fault := by
  rw [Text.readNumeral, String.toList_ofList]
  cases cs with
  | nil => exact ⟨_, rfl⟩
  | cons c cs =>
      have hc := h c List.mem_cons_self
      have hplus : c ≠ '+' := ne_of_isAlpha hc (by decide)
      have hdigit := Text.digitValue?_other (not_isDigit_of_isAlpha hc)
      refine ⟨.invalidDigit, ?_⟩
      simp [hplus, Text.readDigits, hdigit]

theorem read?_name (h : cs.map Char.toLower = v.name.toList) : Verbosity.read? cs = some v := by
  obtain ⟨fault, hf⟩ := readNumeral_letters 5 (letters_of_name h)
  rw [Verbosity.read?, hf]
  simp only [h]
  cases v <;> decide

theorem directive_read?_name (h : cs.map Char.toLower = v.name.toList) :
    Directive.read? cs = some (.everywhere v) := by
  have letters := letters_of_name h
  have hin : ∀ c ∈ cs, (c ≠ '=' && c ≠ '[') = true := by
    intro c hc
    have h1 : c ≠ '=' := ne_of_isAlpha (letters c hc) (by decide)
    have h2 : c ≠ '[' := ne_of_isAlpha (letters c hc) (by decide)
    simp [h1, h2]
  have hstart : cs.head?.all Directive.startsTarget = true := by
    cases cs with
    | nil => rfl
    | cons c cs =>
        have hc : c.isAlphanum = true :=
          Bool.or_eq_true_iff.mpr (Or.inl (letters c List.mem_cons_self))
        simp [Directive.startsTarget, hc]
  unfold Directive.read?
  simp only [List.takeWhile_eq_self_iff.mpr hin, List.dropWhile_eq_nil_iff.mpr hin, hstart,
    ↓reduceIte, read?_name h, Option.map_some, Option.getD_some]

/-- A level by its name shows the events up to it, in whatever letters it is written. -/
theorem shows_of_name {env : Environment} {text : String} (h : env.lookup "RUST_LOG" = some text)
    (hn : text.toList.map Char.toLower = v.name.toList) (e : LogEvent) :
    (ofEnvironment env).shows e = v.shows e.level := by
  have hsplit : Text.splitAll (· = ',') text.toList = [text.toList] :=
    Text.splitAll_plain fun c hc =>
      decide_eq_false (ne_of_isAlpha (letters_of_name hn c hc) (by decide))
  have hne : text.toList ≠ [] := by
    intro he
    rw [he] at hn
    cases v <;> cases hn
  have hread : read? text = some [.everywhere v] := by
    simp [read?, hsplit, hne, directive_read?_name hn]
  rw [ofEnvironment, h, Option.bind_some, hread, Option.getD_some, shows_everywhere]

end

end LogFilter

end CameraConsole
