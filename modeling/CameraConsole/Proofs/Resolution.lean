import CameraConsole.Proofs.ForbiddenCall

/-!
# Where endpoints lead

An endpoint is resolved as a reference below the base of its client. It stays on the server of the
base unless it names a scheme of its own or begins, after what does not count, with two slashes. Such
an endpoint leads wherever it says, whatever the base.
-/

namespace CameraConsole

namespace Url

def SameOrigin (u v : Url) : Prop :=
  u.scheme = v.scheme ∧ u.host? = v.host? ∧ u.port? = v.port?

instance decidableSameOrigin (u v : Url) : Decidable (u.SameOrigin v) :=
  inferInstanceAs (Decidable (_ ∧ _ ∧ _))

/-- One URL has scheme and authority of the other. -/
def Beside (u v : Url) : Prop :=
  u.scheme = v.scheme ∧ u.authority = v.authority

theorem Beside.sameOrigin {u v : Url} (h : u.Beside v) : u.SameOrigin v := by
  obtain ⟨hs, ha⟩ := h
  exact ⟨hs, by rw [host?, host?, ha], by rw [port?, port?, hs, ha]⟩

/-! ## Paths -/

theorem withPath_beside (u : Url) (k : SchemeKind) (start : List String) (cs : List Char) :
    (u.withPath k start cs).Beside u :=
  ⟨rfl, rfl⟩

theorem withPath_nested (u : Url) (k : SchemeKind) (start : List String) (cs : List Char) :
    ∃ segments, (u.withPath k start cs).path = .nested segments :=
  ⟨_, rfl⟩

theorem withRootedPath_nested (u : Url) (k : SchemeKind) (cs : List Char) :
    ∃ segments, (u.withRootedPath k cs).path = .nested segments := by
  unfold withRootedPath
  split
  · split
    · exact withPath_nested _ _ _ _
    · exact ⟨_, rfl⟩
  · split
    · exact withPath_nested _ _ _ _
    · split
      · exact ⟨_, rfl⟩
      · exact withPath_nested _ _ _ _

/-! ## Absolute references -/

theorem afterSlashes_nested {scheme : String} {cs : List Char} {u : Url}
    (h : afterSlashes scheme cs = .ok u) : ∃ segments, u.path = .nested segments := by
  simp only [afterSlashes, bind, Except.bind] at h
  split at h
  · cases h
  · cases h
    exact withRootedPath_nested _ _ _

theorem fileUrl_fileOn {raw : List Char} {u : Url} (h : fileUrl raw = .ok u) :
    ∃ host path, u = fileOn host path := by
  simp only [fileUrl, bind, Except.bind] at h
  split at h
  · cases h; exact ⟨_, _, rfl⟩
  · cases h; exact ⟨_, _, rfl⟩
  · split at h
    · cases h; exact ⟨_, _, rfl⟩
    · split at h
      · cases h
      · split at h
        · cases h; exact ⟨_, _, rfl⟩
        · split at h <;> cases h <;> exact ⟨_, _, rfl⟩

theorem fileUrl_nested {raw : List Char} {u : Url} (h : fileUrl raw = .ok u) :
    ∃ segments, u.path = .nested segments := by
  obtain ⟨host, path, rfl⟩ := fileUrl_fileOn h
  exact withPath_nested _ _ _ _

/-- Only URLs of other schemes than those of the web and of files can be flat. -/
theorem absolute_nested {scheme : String} {raw : List Char} {u : Url}
    (h : absolute scheme raw = .ok u) (hk : schemeKind u.scheme ≠ .other) :
    ∃ segments, u.path = .nested segments := by
  unfold absolute at h
  split at h
  · exact fileUrl_nested h
  · exact afterSlashes_nested h
  · rename_i ho
    unfold otherUrl at h
    dsimp only at h
    split at h
    · exact afterSlashes_nested h
    · cases h; exact withPath_nested _ _ _ _
    · cases h; exact absurd ho hk

theorem ofText_nested {s : String} {u : Url} (h : ofText s = .ok u)
    (hk : schemeKind u.scheme ≠ .other) : ∃ segments, u.path = .nested segments := by
  unfold ofText at h
  split at h
  · exact absolute_nested h hk
  · cases h

/-! ## Relative references -/

/-- The slashes that a text begins with; backslashes count. -/
def slashes (cs : List Char) : Nat :=
  (cs.takeWhile (isSlash .web)).length

theorem slashes_cons_cons (c d : Char) (below : List Char) :
    slashes (c :: d :: below) < 2 ↔ ¬ (isSlash .web c ∧ isSlash .web d) := by
  by_cases hc : isSlash .web c <;> by_cases hd : isSlash .web d <;>
    simp [slashes, hc, hd]

theorem slashes_single (c : Char) : slashes [c] < 2 := by
  by_cases hc : isSlash .web c <;> simp [slashes, hc]

theorem relative_beside {base : Url} {cs : List Char} (hk : schemeKind base.scheme = .web)
    (h : slashes cs < 2) : ∃ url, relative base cs = .ok url ∧ url.Beside base := by
  unfold relative
  simp only [hk]
  split
  · exact ⟨_, rfl, rfl, rfl⟩
  · exact ⟨_, rfl, rfl, rfl⟩
  · exact ⟨_, rfl, rfl, rfl⟩
  · split
    · rename_i hc
      split
      · -- One slash, so the character after it is none.
        rename_i d below
        rw [slashes_cons_cons] at h
        have hd : isSlash .web d = false := by simpa [hc] using h
        have hd' : d ≠ '/' := by rintro rfl; cases hd
        simp only [hd, hd', decide_false, Bool.and_false, Bool.false_eq_true, ↓reduceIte]
        exact ⟨_, rfl, withPath_beside _ _ _ _⟩
      · exact ⟨_, rfl, withPath_beside _ _ _ _⟩
    · exact ⟨_, rfl, withPath_beside _ _ _ _⟩

/-- After two slashes nothing of the base counts but its scheme. -/
theorem relative_away {base base' : Url} {cs : List Char} (hk : schemeKind base.scheme = .web)
    (hs : base'.scheme = base.scheme) (h : ¬ slashes cs < 2) :
    relative base' cs = relative base cs := by
  match cs with
  | [] => exact absurd (by decide) h
  | [c] => exact absurd (slashes_single c) h
  | c :: d :: below =>
      rw [slashes_cons_cons, Classical.not_not] at h
      obtain ⟨hc, hd⟩ := h
      have hq : c ≠ '?' := by rintro rfl; cases hc
      have hf : c ≠ '#' := by rintro rfl; cases hc
      unfold relative
      simp only [hs, hk, hc, hd, ↓reduceIte]

/-! ## References -/

/-- A reference that stays on the server of a base with this scheme: it names no other scheme, and
does not begin with two slashes. -/
def staysOn (scheme reference : String) : Bool :=
  match splitScheme (trimmed reference) with
  | some (named, rest) => named = scheme && slashes (unbroken rest) < 2
  | none => slashes (unbroken (trimmed reference)) < 2

variable {base base' : Url} {reference : String}

theorem join_beside (hk : schemeKind base.scheme = .web)
    (hp : ∃ segments, base.path = .nested segments) (h : staysOn base.scheme reference) :
    ∃ url, base.join reference = .ok url ∧ url.Beside base := by
  obtain ⟨segments, hp⟩ := hp
  unfold staysOn at h
  unfold join
  cases hs : splitScheme (trimmed reference) with
  | some named =>
      obtain ⟨scheme, rest⟩ := named
      simp only [hs, Bool.and_eq_true, decide_eq_true_eq] at h
      obtain ⟨rfl, hl⟩ := h
      have hl' : ((unbroken rest).takeWhile (isSlash .web)).length < 2 := hl
      simp only [hk, hl', and_self, ↓reduceIte]
      exact relative_beside hk hl
  | none =>
      simp only [hs, decide_eq_true_eq] at h
      simp only [hp]
      exact relative_beside hk h

/-- A reference that does not stay leads to one place from all bases of a scheme. -/
theorem join_away (hk : schemeKind base.scheme = .web) (hs : base'.scheme = base.scheme)
    (hp : ∃ segments, base.path = .nested segments) (hp' : ∃ segments, base'.path = .nested segments)
    (h : ¬ staysOn base.scheme reference) : base'.join reference = base.join reference := by
  obtain ⟨segments, hp⟩ := hp
  obtain ⟨segments', hp'⟩ := hp'
  unfold staysOn at h
  unfold join
  cases hr : splitScheme (trimmed reference) with
  | some named =>
      obtain ⟨scheme, rest⟩ := named
      simp only [hr, Bool.and_eq_true, decide_eq_true_eq] at h
      have hn : ¬ (scheme = base.scheme ∧ schemeKind scheme = .web ∧
          ((unbroken rest).takeWhile (isSlash .web)).length < 2) := fun hn => h ⟨hn.1, hn.2.2⟩
      simp only [hs, hn, ↓reduceIte]
  | none =>
      simp only [hr, decide_eq_true_eq] at h
      simp only [hp, hp']
      exact relative_away hk hs h

/-! ## References that begin with a digit -/

theorem not_blank_of_isDigit {d : Char} (h : d.isDigit) : decide (d.toNat ≤ 0x20) = false := by
  simp only [Char.isDigit, Bool.and_eq_true, decide_eq_true_eq] at h
  have h48 : 48 ≤ d.toNat := h.1
  simp only [decide_eq_false_iff_not]
  omega

theorem trimBoth_cons {p : Char → Bool} {d : Char} (h : p d = false) (rest : List Char) :
    ∃ rest', Text.trimBoth p (d :: rest) = d :: rest' := by
  unfold Text.trimBoth
  simp only [List.dropWhile_cons, h, Bool.false_eq_true, ↓reduceIte, List.reverse_cons,
    List.dropWhile_append]
  split
  · exact ⟨[], rfl⟩
  · exact ⟨(rest.reverse.dropWhile p).reverse, by simp⟩

theorem trimmed_digit {d : Char} (h : d.isDigit) (rest : List Char) :
    ∃ rest', trimmed (String.ofList (d :: rest)) = d :: rest' := by
  unfold trimmed
  rw [String.toList_ofList]
  exact trimBoth_cons (not_blank_of_isDigit h) rest

theorem isBreak_digit {d : Char} (h : d.isDigit) : isBreak d = false := by
  by_cases hb : isBreak d
  · simp only [isBreak, Bool.or_eq_true, decide_eq_true_eq] at hb
    rcases hb with (rfl | rfl) | rfl <;> cases h
  · simpa using hb

theorem isAlpha_digit {d : Char} (h : d.isDigit) : d.isAlpha = false := by
  simp only [Char.isDigit, Bool.and_eq_true, decide_eq_true_eq, UInt32.le_iff_toNat_le] at h
  unfold Char.isAlpha Char.isUpper Char.isLower
  simp only [Bool.or_eq_false_iff, Bool.and_eq_false_iff, decide_eq_false_iff_not, ge_iff_le,
    UInt32.le_iff_toNat_le]
  have h57 : d.val.toNat ≤ 57 := h.2
  have hA : 'A'.val.toNat = 65 := rfl
  have ha : 'a'.val.toNat = 97 := rfl
  omega

/-- What begins with a digit has no scheme. -/
theorem splitScheme_digit {d : Char} (h : d.isDigit) (rest : List Char) :
    splitScheme (d :: rest) = none := by
  have hs : isSchemeChar d = true := by simp [isSchemeChar, Char.isAlphanum, h]
  have hb := isBreak_digit h
  unfold splitScheme
  simp only [List.takeWhile_cons, hs, Bool.true_or, ↓reduceIte]
  split
  · rename_i c cs _ heq _
    simp only [unbroken, List.filter_cons, hb, Bool.not_false, ↓reduceIte, List.cons.injEq] at heq
    rw [← heq.1, isAlpha_digit h]
    rfl
  · rfl

theorem join_digit {base url : Url} {d : Char} {rest : List Char} (hd : d.isDigit)
    (h : base.join (String.ofList (d :: rest)) = .ok url) : url.Beside base := by
  obtain ⟨rest', ht⟩ := trimmed_digit hd rest
  have hu : unbroken (d :: rest') = d :: unbroken rest' := by simp [unbroken, isBreak_digit hd]
  have hsharp : d ≠ '#' := by rintro rfl; cases hd
  have hquery : d ≠ '?' := by rintro rfl; cases hd
  have hslash : isSlash (schemeKind base.scheme) d = false := by
    by_cases hc : isSlash (schemeKind base.scheme) d
    · simp only [isSlash, Bool.or_eq_true, Bool.and_eq_true, decide_eq_true_eq] at hc
      rcases hc with rfl | ⟨_, rfl⟩ <;> cases hd
    · simpa using hc
  simp only [join, ht, splitScheme_digit hd, hu] at h
  split at h
  · rename_i hc; cases hc; exact absurd rfl hsharp
  · cases h
  · unfold relative at h
    simp only [hslash, Bool.false_eq_true, ↓reduceIte] at h
    cases h
    exact withPath_beside _ _ _ _

end Url

/-! ## Clients -/

namespace Client

/-- A base that endpoints can be resolved against: one of the web, with a path of segments. -/
structure Grounded (c : Client) : Prop where
  web : schemeKind c.base.scheme = .web
  nested : ∃ segments, c.base.path = .nested segments

theorem baseUrl_scheme {raw : String} {url : Url} (h : baseUrl raw = .ok url) :
    url.scheme = "http" ∨ url.scheme = "https" := by
  unfold baseUrl at h
  split at h
  · cases h
  · split at h
    · rename_i hs; cases h; exact hs
    · cases h

theorem baseUrl_nested {raw : String} {url : Url} (h : baseUrl raw = .ok url) :
    ∃ segments, url.path = .nested segments := by
  have hk : schemeKind url.scheme ≠ .other := by
    rcases baseUrl_scheme h with hs | hs <;> rw [hs] <;> decide
  unfold baseUrl at h
  split at h
  · cases h
  · rename_i u ht
    split at h
    · cases h; exact Url.ofText_nested ht hk
    · cases h

theorem ofConfig_base {config : ClientConfig} {c : Client} (h : ofConfig config = .ok c) :
    baseUrl config.baseUrl = .ok c.base := by
  simp only [ofConfig, bind, Except.bind] at h
  split at h
  · cases h
  · rename_i base hb
    rw [hb]
    split at h
    · cases h; rfl
    · split at h
      · cases h; rfl
      · cases h

theorem grounded_of_baseUrl {raw : String} {c : Client} (h : baseUrl raw = .ok c.base) :
    c.Grounded := by
  refine ⟨?_, baseUrl_nested h⟩
  rcases baseUrl_scheme h with hs | hs <;> rw [hs] <;> decide

theorem grounded_of_config {config : ClientConfig} {c : Client} (h : ofConfig config = .ok c) :
    c.Grounded :=
  grounded_of_baseUrl (ofConfig_base h)

/-- What is resolved of an endpoint that starts with a slash. -/
def reference (path : String) : String :=
  String.ofList (path.toList.dropWhile (· = '/'))

theorem toList_slash (path : String) : ("/" ++ path).toList = '/' :: path.toList := by
  simp

variable {c c' : Client} {path : String}

theorem resolve_slash_ok {url : Url} (h : c.base.join (reference path) = .ok url) :
    c.resolve ("/" ++ path) = .ok url := by
  simp only [resolve, toList_slash, List.dropWhile_cons, decide_true, ↓reduceIte]
  rw [reference] at h
  rw [h]

theorem resolve_slash_congr (h : c'.base.join (reference path) = c.base.join (reference path)) :
    c'.resolve ("/" ++ path) = c.resolve ("/" ++ path) := by
  simp only [resolve, toList_slash, List.dropWhile_cons, decide_true, ↓reduceIte]
  rw [reference] at h
  rw [h]

theorem Grounded.resolve_beside (hc : c.Grounded)
    (h : Url.staysOn c.base.scheme (reference path)) :
    ∃ url, c.resolve ("/" ++ path) = .ok url ∧ url.SameOrigin c.base := by
  obtain ⟨url, hj, hb⟩ := Url.join_beside hc.web hc.nested h
  exact ⟨url, resolve_slash_ok hj, hb.sameOrigin⟩

theorem Grounded.resolve_away (hc : c.Grounded) (hc' : c'.Grounded)
    (hs : c'.base.scheme = c.base.scheme) (h : ¬ Url.staysOn c.base.scheme (reference path)) :
    c'.resolve ("/" ++ path) = c.resolve ("/" ++ path) :=
  resolve_slash_congr (Url.join_away hc.web hs hc.nested hc'.nested h)

/-! ## Resources -/

end Client

theorem toList_toString_digit (n : Nat) :
    ∃ d rest, (toString n).toList = d :: rest ∧ d.isDigit := by
  rw [Nat.toString_eq_ofList_toDigits, String.toList_ofList]
  cases hn : Nat.toDigits 10 n with
  | nil => exact absurd hn Nat.toDigits_ne_nil
  | cons d rest =>
      have hd : d ∈ Nat.toDigits 10 n := hn ▸ List.mem_cons_self
      exact ⟨d, rest, rfl, Nat.isDigit_of_mem_toDigits (by decide) (by decide) hd⟩

/-- The path of every resource begins with the number of a camera. -/
theorem Resource.endpoint_digit (x : Resource) :
    ∃ d rest, x.endpoint.toList = '/' :: d :: rest ∧ d.isDigit := by
  have numbered (n : Nat) (s : String) :
      ∃ d rest, ("/" ++ toString n ++ s).toList = '/' :: d :: rest ∧ d.isDigit := by
    obtain ⟨d, rest, hn, hd⟩ := toList_toString_digit n
    refine ⟨d, rest ++ s.toList, ?_, hd⟩
    rw [String.toList_append, String.toList_append, hn]
    rfl
  cases x with
  | pictures cam | movies cam | cameraConfig cam => exact numbered _ _
  | picture cam id | movie cam id =>
      simp only [endpoint, String.append_assoc]
      rw [← String.append_assoc]
      exact numbered _ _
  | setting cam param value =>
      simp only [endpoint, String.append_assoc]
      rw [← String.append_assoc]
      exact numbered _ _
  | _ => exact ⟨'0', _, rfl, rfl⟩

namespace Client

variable {c c' : Client} {path : String}

/-- Resources are served by the server of the base. -/
theorem resolve_resource {x : Resource} {url : Url} (h : c.resolve x.endpoint = .ok url) :
    url.Beside c.base := by
  obtain ⟨d, rest, ht, hd⟩ := x.endpoint_digit
  have hslash : d ≠ '/' := by rintro rfl; cases hd
  simp only [resolve, ht, List.dropWhile_cons, decide_true, ↓reduceIte, hslash, decide_false,
    Bool.false_eq_true] at h
  split at h
  · rename_i u hj
    cases h
    exact Url.join_digit hd hj
  · cases h

/-! ## Confinement -/

/-- A client with the default settings for a host of the web. -/
def atHost (scheme host : String) : Client :=
  { config := { baseUrl := scheme ++ "://" ++ host }
    base :=
      { scheme, authority := some { username := "", password := none, host, port := none }
        path := .nested [""], query := none, fragment := none } }

/-- No server is the only one. -/
theorem exists_other_host {scheme : String} (hs : scheme = "http" ∨ scheme = "https")
    (host : Option String) :
    ∃ c : Client, ofConfig c.config = .ok c ∧ c.base.scheme = scheme ∧ c.base.host? ≠ host := by
  by_cases ha : host = some "a"
  · subst ha
    refine ⟨atHost scheme "b", ?_, rfl, by simp [atHost, Url.host?]⟩
    rcases hs with rfl | rfl <;> decide +kernel
  · refine ⟨atHost scheme "a", ?_, rfl, fun hh => ha ?_⟩
    · rcases hs with rfl | rfl <;> decide +kernel
    · rw [← hh]
      rfl

/-- An endpoint that stays leads to the server of the base. One that does not leads to the same place
from all bases of the scheme, so it is confined to the server of its client, whichever that is, just
when it stays or leads nowhere. -/
theorem resolve_confined_iff {config : ClientConfig} (hc : ofConfig config = .ok c) (path : String) :
    (Url.staysOn c.base.scheme (reference path) →
      ∃ url, c.resolve ("/" ++ path) = .ok url ∧ url.SameOrigin c.base) ∧
    (¬ Url.staysOn c.base.scheme (reference path) →
      ∀ config' c', ofConfig config' = .ok c' → c'.base.scheme = c.base.scheme →
        c'.resolve ("/" ++ path) = c.resolve ("/" ++ path)) ∧
    ((∀ config' c', ofConfig config' = .ok c' → c'.base.scheme = c.base.scheme →
        ∀ url, c'.resolve ("/" ++ path) = .ok url → url.SameOrigin c'.base) ↔
      Url.staysOn c.base.scheme (reference path) ∨ ∀ url, c.resolve ("/" ++ path) ≠ .ok url) := by
  have ground := grounded_of_config hc
  have away (h : ¬ Url.staysOn c.base.scheme (reference path)) {config' c'}
      (hc' : ofConfig config' = .ok c') (hs : c'.base.scheme = c.base.scheme) :
      c'.resolve ("/" ++ path) = c.resolve ("/" ++ path) :=
    ground.resolve_away (grounded_of_config hc') hs h
  refine ⟨ground.resolve_beside, fun h config' c' hc' hs => away h hc' hs, ?_, ?_⟩
  · intro confined
    by_cases h : Url.staysOn c.base.scheme (reference path)
    · exact Or.inl h
    · -- The place would be on the server of every client, and there is more than one.
      refine Or.inr fun url hr => ?_
      obtain ⟨c', hc', hs, hh⟩ := exists_other_host (baseUrl_scheme (ofConfig_base hc)) url.host?
      have same := confined _ c' hc' hs url (by rw [away h hc' hs, hr])
      exact hh same.2.1.symm
  · intro h config' c' hc' hs url hr
    by_cases hst : Url.staysOn c.base.scheme (reference path)
    · obtain ⟨url', hr', same⟩ := (grounded_of_config hc').resolve_beside (hs ▸ hst)
      cases hr.symm.trans hr'
      exact same
    · rw [away hst hc' hs] at hr
      exact absurd hr (h.resolve_left hst url)

/-- An endpoint that starts with a slash and then names a scheme leads to another server. -/
theorem scheme_after_slash_leads_away :
    let url : Url := { (atHost "http" "other.test").base with path := .nested ["x"] }
    ofConfig {} = .ok onLocalhost ∧ onLocalhost.resolve "/http://other.test/x" = .ok url ∧
      ¬ url.SameOrigin onLocalhost.base ∧
      ∀ config' c', ofConfig config' = .ok c' → c'.base.scheme = "http" →
        c'.resolve "/http://other.test/x" = .ok url := by
  intro url
  have hc : ofConfig {} = .ok onLocalhost := by decide +kernel
  have hr : onLocalhost.resolve "/http://other.test/x" = .ok url := by decide +kernel
  obtain ⟨_, away, _⟩ := resolve_confined_iff hc "http://other.test/x"
  refine ⟨hc, hr, by decide +kernel, fun config' c' hc' hs => ?_⟩
  rw [← hr]
  exact away (by decide +kernel) config' c' hc' hs

end Client

end CameraConsole
