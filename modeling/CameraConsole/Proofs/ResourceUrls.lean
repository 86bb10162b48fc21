import CameraConsole.Proofs.FormEncoding
import CameraConsole.Proofs.Opening
import Mathlib.Data.List.TakeWhile

/-!
# Where resources are

The path of a resource has plain parts, and its query stands for itself. So the URL of a resource is
that of the base up to the last slash of its path, followed by the parts and the query. For a setting
the query is read as the parameter and its value.
-/

namespace CameraConsole

/-! ## Characters -/

/-- What can be decided of a character is settled for ASCII by trying all. -/
theorem Text.forall_ascii {p : Char → Prop} (h : ∀ n : Fin 128, p (Char.ofNat n)) {c : Char}
    (hc : c.toNat < 128) : p c := by
  have hn := h ⟨c.toNat, hc⟩
  rwa [Char.ofNat_toNat] at hn

theorem Text.toNat_lt_of_isAlphanum {c : Char} (h : c.isAlphanum) : c.toNat < 128 := by
  unfold Char.isAlphanum Char.isAlpha Char.isUpper Char.isLower Char.isDigit at h
  simp only [Bool.or_eq_true, Bool.and_eq_true, decide_eq_true_eq, ge_iff_le,
    UInt32.le_iff_toNat_le] at h
  have hn : c.toNat = c.val.toNat := rfl
  have hZ : 'Z'.val.toNat = 90 := rfl
  have hz : 'z'.val.toNat = 122 := rfl
  have h9 : '9'.val.toNat = 57 := rfl
  omega

theorem Text.isAlphanum_of_isDigit {c : Char} (h : c.isDigit) : c.isAlphanum := by
  unfold Char.isAlphanum
  rw [h, Bool.or_true]

namespace Url

/-- ASCII above the blank. It is trimmed nowhere, and does not break a text. -/
def Visible (c : Char) : Prop :=
  0x20 < c.toNat ∧ c.toNat < 0x80

/-- The character stands for itself in a path, and ends no part of it. -/
def PlainInPath (c : Char) : Prop :=
  Visible c ∧ inPath c = false ∧ isSlash .web c = false ∧ endsPath c = false ∧ c ≠ '.' ∧ c ≠ '%'

/-- The character stands for itself in a query, and does not end it. -/
def PlainInQuery (c : Char) : Prop :=
  Visible c ∧ inQuery .web c = false ∧ c ≠ '#'

instance decidablePlainInPath (c : Char) : Decidable (PlainInPath c) :=
  inferInstanceAs (Decidable ((_ ∧ _) ∧ _))

instance decidablePlainInQuery (c : Char) : Decidable (PlainInQuery c) :=
  inferInstanceAs (Decidable ((_ ∧ _) ∧ _))

theorem plainInPath_of_isAlphanum {c : Char} (h : c.isAlphanum) : PlainInPath c :=
  Text.forall_ascii (p := fun c => c.isAlphanum → PlainInPath c) (by decide +kernel)
    (Text.toNat_lt_of_isAlphanum h) h

theorem plainInQuery_of_safe {c : Char} (h : Form.Safe c) : PlainInQuery c := by
  have hc : c.toNat < 128 := by
    rcases h with hk | rfl | rfl
    · simp only [Form.kept, Bool.or_eq_true, decide_eq_true_eq] at hk
      rcases hk with (((hk | rfl) | rfl) | rfl) | rfl
      · exact Text.toNat_lt_of_isAlphanum hk
      all_goals decide
    all_goals decide
  exact Text.forall_ascii (p := fun c => Form.Safe c → PlainInQuery c) (by decide +kernel) hc h

theorem isBreak_of_visible {c : Char} (h : Visible c) : isBreak c = false :=
  Text.forall_ascii (p := fun c => 0x20 < c.toNat → isBreak c = false) (by decide +kernel) h.2 h.1

/-! ## Texts that are read as they are -/

section

variable {cs : List Char}

theorem trimmed_of_visible (h : ∀ c ∈ cs, Visible c) : trimmed (String.ofList cs) = cs := by
  have keep {cs : List Char} (h : ∀ c ∈ cs, Visible c) :
      cs.dropWhile (fun c => decide (c.toNat ≤ 0x20)) = cs := by
    cases cs with
    | nil => rfl
    | cons c cs =>
        have hc : ¬ c.toNat ≤ 0x20 := Nat.not_le.mpr (h c List.mem_cons_self).1
        simp only [List.dropWhile_cons, hc, decide_false, Bool.false_eq_true, ↓reduceIte]
  unfold trimmed Text.trimBoth
  rw [String.toList_ofList, keep h, keep fun c hc => h c (List.mem_reverse.mp hc),
    List.reverse_reverse]

theorem unbroken_of_visible (h : ∀ c ∈ cs, Visible c) : unbroken cs = cs := by
  refine List.filter_eq_self.mpr fun c hc => ?_
  rw [isBreak_of_visible (h c hc)]
  rfl

theorem encoded_of_kept {escaped : Char → Bool}
    (h : ∀ c ∈ cs, c.toNat < 0x80 ∧ escaped c = false) : encoded escaped cs = String.ofList cs := by
  unfold encoded Text.percentEncode
  congr 1
  induction cs with
  | nil => rfl
  | cons c cs ih =>
      obtain ⟨ha, he⟩ := h c List.mem_cons_self
      rw [List.flatMap_cons, ih fun d hd => h d (List.mem_cons_of_mem c hd), Text.percentChar]
      simp only [ha, he, decide_true, Bool.not_false, Bool.and_self, ↓reduceIte,
        List.cons_append, List.nil_append]

end

/-! ## Paths -/

/-- Parts with a slash between any two. -/
def joined : List String → List Char
  | [] => []
  | [part] => part.toList
  | part :: rest => part.toList ++ '/' :: joined rest

/-- Letters and digits only. -/
def PlainPart (part : String) : Prop :=
  ∀ c ∈ part.toList, c.isAlphanum

instance decidablePlainPart (part : String) : Decidable (PlainPart part) :=
  List.decidableBAll _ part.toList

theorem mem_joined {parts : List String} (h : ∀ p ∈ parts, PlainPart p) {c : Char}
    (hc : c ∈ joined parts) : c.isAlphanum ∨ c = '/' := by
  fun_induction joined parts with
  | case1 => cases hc
  | case2 part => exact Or.inl (h part List.mem_cons_self c hc)
  | case3 part rest _ ih =>
      rcases List.mem_append.mp hc with hc | hc
      · exact Or.inl (h part List.mem_cons_self c hc)
      · rcases List.mem_cons.mp hc with rfl | hc
        · exact Or.inr rfl
        · exact ih (fun p hm => h p (List.mem_cons_of_mem part hm)) hc

theorem splitAll_append {sep : Char → Bool} {cs rest : List Char} {d : Char}
    (h : ∀ c ∈ cs, sep c = false) (hd : sep d = true) :
    Text.splitAll sep (cs ++ d :: rest) = cs :: Text.splitAll sep rest := by
  induction cs with
  | nil => simp only [List.nil_append, Text.splitAll, hd, ↓reduceIte]
  | cons c cs ih =>
      have hc := h c List.mem_cons_self
      simp only [List.cons_append, Text.splitAll, hc, ih fun e he => h e (List.mem_cons_of_mem c he),
        Bool.false_eq_true, ↓reduceIte]

theorem pathParts_joined {parts : List String} (hn : parts ≠ []) (h : ∀ p ∈ parts, PlainPart p) :
    pathParts .web (joined parts) = parts.map String.toList := by
  unfold pathParts
  fun_induction joined parts with
  | case1 => exact absurd rfl hn
  | case2 part =>
      exact Text.splitAll_plain fun c hc =>
        (plainInPath_of_isAlphanum (h part List.mem_cons_self c hc)).2.2.1
  | case3 part rest hrest ih =>
      have hp : ∀ c ∈ part.toList, isSlash .web c = false := fun c hc =>
        (plainInPath_of_isAlphanum (h part List.mem_cons_self c hc)).2.2.1
      rw [splitAll_append hp rfl, ih hrest fun p hm => h p (List.mem_cons_of_mem part hm),
        List.map_cons]

section

variable {part : String}

theorem PlainPart.unbroken (h : PlainPart part) : unbroken part.toList = part.toList :=
  unbroken_of_visible fun c hc => (plainInPath_of_isAlphanum (h c hc)).1

theorem PlainPart.encoded (h : PlainPart part) : encoded inPath part.toList = part := by
  have hp : ∀ c ∈ part.toList, PlainInPath c := fun c hc => plainInPath_of_isAlphanum (h c hc)
  rw [encoded_of_kept fun c hc => ⟨(hp c hc).1.2, (hp c hc).2.1⟩, String.ofList_toList]

theorem PlainPart.no_dot (h : PlainPart part) : dropDot part.toList = none := by
  unfold PlainPart at h
  cases hs : part.toList with
  | nil => rfl
  | cons c cs =>
      rw [hs] at h
      obtain ⟨_, _, _, _, hdot, hpercent⟩ := plainInPath_of_isAlphanum (h c List.mem_cons_self)
      unfold dropDot
      split
      · rename_i hc; exact absurd (List.cons.inj hc).1 hdot
      · rename_i hc; exact absurd (List.cons.inj hc).1 hpercent
      · rename_i hc; exact absurd (List.cons.inj hc).1 hpercent
      · rfl

theorem step_plain (h : PlainPart part) (segments : List String) :
    step .web segments part.toList = segments ++ [part] := by
  unfold step enter isDoubleDot isSingleDot
  simp only [h.unbroken, h.no_dot, h.encoded, Option.bind_none, reduceCtorEq, decide_false,
    Bool.false_eq_true, false_and, ↓reduceIte]

end

/-- A walk along plain parts steps into each. -/
theorem walk_plain {parts : List String} (h : ∀ p ∈ parts, PlainPart p) (segments : List String) :
    walk .web segments (parts.map String.toList) = segments ++ parts := by
  induction parts generalizing segments with
  | nil => exact (List.append_nil segments).symm
  | cons part rest ih =>
      have hpart := h part List.mem_cons_self
      cases rest with
      | nil =>
          simp only [List.map_cons, List.map_nil, walk, isSingleDot, isDoubleDot, hpart.unbroken,
            hpart.no_dot, Option.bind_none, reduceCtorEq, decide_false, Bool.or_self,
            Bool.false_eq_true, ↓reduceIte]
          exact step_plain hpart segments
      | cons next rest =>
          have hw : walk .web segments ((part :: next :: rest).map String.toList) =
              walk .web (step .web segments part.toList) ((next :: rest).map String.toList) := rfl
          rw [hw, step_plain hpart, ih fun p hm => h p (List.mem_cons_of_mem part hm),
            List.append_assoc]
          rfl

/-! ## References -/

/-- A query with its question mark. -/
def queryChars : Option String → List Char
  | none => []
  | some q => '?' :: q.toList

section

variable {parts : List String} {query : Option String}

theorem tailParts_plain (h : ∀ q ∈ query, ∀ c ∈ q.toList, PlainInQuery c) :
    tailParts .web (unbroken (queryChars query)) = (query, none) := by
  cases query with
  | none => rfl
  | some q =>
      have hq := h q rfl
      have hu : unbroken (queryChars (some q)) = '?' :: q.toList :=
        congrArg ('?' :: ·) (unbroken_of_visible fun c hc => (hq c hc).1)
      have hfragment : ∀ c ∈ q.toList, decide (c ≠ '#') = true :=
        fun c hc => decide_eq_true (hq c hc).2.2
      have he : encoded (inQuery .web) q.toList = q := by
        rw [encoded_of_kept fun c hc => ⟨(hq c hc).1.2, (hq c hc).2.1⟩, String.ofList_toList]
      have htake : q.toList.takeWhile (fun c => decide (c ≠ '#')) = q.toList :=
        List.takeWhile_eq_self_iff.mpr hfragment
      have hdrop : q.toList.dropWhile (fun c => decide (c ≠ '#')) = [] :=
        List.dropWhile_eq_nil_iff.mpr hfragment
      rw [hu, tailParts, htake, hdrop, he]

/-- Plain parts and a plain query are what path and query of the URL then are. -/
theorem withPath_plain (hn : parts ≠ []) (hp : ∀ p ∈ parts, PlainPart p)
    (hq : ∀ q ∈ query, ∀ c ∈ q.toList, PlainInQuery c) (u : Url) (start : List String) :
    u.withPath .web start (joined parts ++ queryChars query) =
      { u with path := .nested (start ++ parts), query, fragment := none } := by
  have hpath : ∀ c ∈ joined parts, (!endsPath c) = true := by
    intro c hc
    rcases mem_joined hp hc with ha | rfl
    · rw [(plainInPath_of_isAlphanum ha).2.2.2.1]
      rfl
    · rfl
  have htake : (joined parts ++ queryChars query).takeWhile (!endsPath ·) = joined parts := by
    rw [List.takeWhile_append_of_pos hpath]
    cases query <;> simp [queryChars, endsPath]
  have hdrop : (joined parts ++ queryChars query).dropWhile (!endsPath ·) = queryChars query := by
    rw [List.dropWhile_append_of_pos hpath]
    cases query <;> simp [queryChars, endsPath]
  have hsegments : segmentsFrom .web start (joined parts) = start ++ parts := by
    unfold segmentsFrom
    rw [pathParts_joined hn hp, walk_plain hp]
    rfl
  unfold withPath
  rw [htake, hdrop, tailParts_plain hq, hsegments]

theorem visible_reference (hp : ∀ p ∈ parts, PlainPart p)
    (hq : ∀ q ∈ query, ∀ c ∈ q.toList, PlainInQuery c) :
    ∀ c ∈ joined parts ++ queryChars query, Visible c := by
  intro c hc
  rcases List.mem_append.mp hc with hc | hc
  · rcases mem_joined hp hc with ha | rfl
    · exact (plainInPath_of_isAlphanum ha).1
    · exact ⟨by decide, by decide⟩
  · cases query with
    | none => cases hc
    | some q =>
        rcases List.mem_cons.mp hc with rfl | hc
        · exact ⟨by decide, by decide⟩
        · exact (hq q rfl c hc).1

end

/-- A visible reference that begins with a digit is relative to the base. -/
theorem join_visible {base : Url} (hk : schemeKind base.scheme = .web)
    (hp : ∃ segments, base.path = .nested segments) {d : Char} {rest : List Char} (hd : d.isDigit)
    (hv : ∀ c ∈ d :: rest, Visible c) :
    base.join (String.ofList (d :: rest)) =
      .ok (base.withPath .web base.segments.dropLast (d :: rest)) := by
  obtain ⟨segments, hp⟩ := hp
  have plain : PlainInPath d := plainInPath_of_isAlphanum (Text.isAlphanum_of_isDigit hd)
  have hquery : d ≠ '?' := by rintro rfl; cases hd
  have hsharp : d ≠ '#' := by rintro rfl; cases hd
  simp only [join, trimmed_of_visible hv, splitScheme_digit hd, hp, unbroken_of_visible hv]
  unfold relative
  simp only [hk, plain.2.2.1, Bool.false_eq_true, ↓reduceIte]

end Url

/-! ## Resources -/

namespace Resource

def parts : Resource → List String
  | config => ["0", "api", "config"]
  | cameras => ["0", "api", "cameras"]
  | temperature => ["0", "api", "system", "temperature"]
  | systemStatus => ["0", "api", "system", "status"]
  | authentication => ["0", "api", "auth", "me"]
  | reboot => ["0", "api", "system", "reboot"]
  | shutdown => ["0", "api", "system", "shutdown"]
  | pictures cam => [toString cam.toNat, "api", "media", "pictures"]
  | movies cam => [toString cam.toNat, "api", "media", "movies"]
  | picture cam id => [toString cam.toNat, "api", "media", "picture", toString id.toNat]
  | movie cam id => [toString cam.toNat, "api", "media", "movie", toString id.toNat]
  | cameraConfig cam => [toString cam.toNat, "api", "config"]
  | setting cam _ _ => [toString cam.toNat, "config", "set"]

def query? : Resource → Option String
  | setting _ param value => some (Form.encode param ++ "=" ++ Form.encode value)
  | _ => none

theorem endpoint_eq (x : Resource) :
    x.endpoint.toList = '/' :: (Url.joined x.parts ++ Url.queryChars x.query?) := by
  cases x <;> simp [endpoint, parts, query?, Url.joined, Url.queryChars]

theorem parts_ne_nil (x : Resource) : x.parts ≠ [] := by
  cases x <;> exact List.cons_ne_nil _ _

theorem plain_toString (n : Nat) : Url.PlainPart (toString n) := by
  intro c hc
  rw [Nat.toString_eq_ofList_toDigits, String.toList_ofList] at hc
  exact Text.isAlphanum_of_isDigit (Nat.isDigit_of_mem_toDigits (by decide) (by decide) hc)

theorem plain_parts (x : Resource) : ∀ p ∈ x.parts, Url.PlainPart p := by
  cases x <;> simp only [parts, List.forall_mem_cons, plain_toString, true_and] <;> decide

theorem plain_query (x : Resource) : ∀ q ∈ x.query?, ∀ c ∈ q.toList, Url.PlainInQuery c := by
  cases x with
  | setting cam param value =>
      intro q hq c hc
      cases hq
      simp only [String.toList_append, List.mem_append] at hc
      rcases hc with (hc | hc) | hc
      · exact Url.plainInQuery_of_safe (Form.safe_of_mem_encode hc)
      · cases List.mem_singleton.mp hc
        decide
      · exact Url.plainInQuery_of_safe (Form.safe_of_mem_encode hc)
  | _ => exact nofun

end Resource

namespace Client

/-- The URL of a resource below this base. -/
def urlOf (c : Client) (x : Resource) : Url :=
  { c.base with
    path := .nested (c.base.segments.dropLast ++ x.parts)
    query := x.query?
    fragment := none }

theorem Grounded.resolve_eq {c : Client} (h : c.Grounded) (x : Resource) :
    c.resolve x.endpoint = .ok (c.urlOf x) := by
  obtain ⟨d, rest, ht, hd⟩ := x.endpoint_digit
  have hslash : d ≠ '/' := by rintro rfl; cases hd
  have hchars : d :: rest = Url.joined x.parts ++ Url.queryChars x.query? :=
    (List.cons.inj (ht.symm.trans x.endpoint_eq)).2
  have hv : ∀ c ∈ d :: rest, Url.Visible c :=
    hchars ▸ Url.visible_reference x.plain_parts x.plain_query
  simp only [resolve, ht, List.dropWhile_cons, decide_true, ↓reduceIte, hslash, decide_false,
    Bool.false_eq_true, Url.join_visible h.web h.nested hd hv]
  rw [hchars, Url.withPath_plain x.parts_ne_nil x.plain_parts x.plain_query]
  rfl

theorem urlOf_beside (c : Client) (x : Resource) : (c.urlOf x).Beside c.base :=
  ⟨rfl, rfl⟩

end Client

/-! ## Settings -/

theorem toString_nat_inj {m n : Nat} (h : toString m = toString n) : m = n := by
  have hd : Nat.toDigits 10 m = Nat.toDigits 10 n := by
    rw [Nat.toString_eq_ofList_toDigits, Nat.toString_eq_ofList_toDigits] at h
    simpa using congrArg String.toList h
  have read (k : Nat) : Nat.ofDigitChars 10 (Nat.toDigits 10 k) 0 = k :=
    Nat.ofDigitChars_toDigits (by decide) (by decide)
  rw [← read m, hd, read n]

theorem UrlPath.text_append (above segments : List String) :
    (UrlPath.nested (above ++ segments)).text =
      (UrlPath.nested above).text ++ (UrlPath.nested segments).text := by
  induction above with
  | nil => exact String.empty_append.symm
  | cons s above ih =>
      have hcons (rest : List String) : (UrlPath.nested (s :: rest)).text =
          "/" ++ s ++ (UrlPath.nested rest).text := rfl
      rw [List.cons_append, hcons, hcons, ih, ← String.append_assoc]

/-- The URL says what to set: where the camera's settings are, and in its query the parameter and its
value and nothing else. -/
structure Url.Sets (u : Url) (cam : UInt32) (param value : String) : Prop where
  path : ∃ above, u.path.text = above ++ "/" ++ toString cam.toNat ++ "/config/set"
  query : ∃ q, u.query = some q ∧ Form.pairs q = [(param, value)]
  fragment : u.fragment = none

theorem Client.urlOf_sets (c : Client) (cam : UInt32) (param value : String) :
    (c.urlOf (.setting cam param value)).Sets cam param value where
  path := by
    refine ⟨(UrlPath.nested c.base.segments.dropLast).text, ?_⟩
    refine (UrlPath.text_append _ _).trans ?_
    simp [Resource.parts, UrlPath.text, String.append_assoc]
  query := ⟨_, rfl, Form.pairs_encode param value⟩
  fragment := rfl

theorem Message.Addresses.beside {m : Message} {url : Url} {credentials : Option Credentials}
    (h : m.Addresses url credentials) :
    m.url.SameOrigin url ∧ m.url.path = url.path ∧ m.url.query = url.query ∧
      m.url.fragment = url.fragment := by
  rcases h with ⟨_, _, _, hu, _⟩ | ⟨_, hu, _⟩
  · rw [hu]
    have same := Url.sameServer_iff.mp (Url.sameServer_withoutUser url)
    exact ⟨⟨rfl, same⟩, rfl, rfl, rfl⟩
  · rw [hu]
    exact ⟨⟨rfl, rfl, rfl⟩, rfl, rfl, rfl⟩

/-- Endpoints of settings differ when cameras, parameters or values do. -/
theorem Client.Grounded.setting_inj {c : Client} (h : c.Grounded) {cam cam' : UInt32}
    {param param' value value' : String}
    (he : (Resource.setting cam param value).endpoint =
      (Resource.setting cam' param' value').endpoint) :
    cam = cam' ∧ param = param' ∧ value = value' := by
  -- Both are resolved to one URL, from which camera and pair can be read.
  have hu : c.urlOf (.setting cam param value) = c.urlOf (.setting cam' param' value') := by
    have hr := h.resolve_eq (.setting cam param value)
    rw [he, h.resolve_eq] at hr
    exact (Except.ok.inj hr).symm
  have hparts : (Resource.setting cam param value).parts =
      (Resource.setting cam' param' value').parts :=
    List.append_cancel_left (UrlPath.nested.inj (congrArg Url.path hu))
  have hquery := congrArg (Option.map Form.pairs ∘ Url.query) hu
  simp only [Function.comp, Client.urlOf, Resource.query?, Option.map_some, Form.pairs_encode,
    Option.some.injEq, List.cons.injEq, Prod.mk.injEq, and_true] at hquery
  exact ⟨UInt32.toNat_inj.mp (toString_nat_inj (List.cons.inj hparts).1), hquery⟩

namespace Session

/-- Whatever the base of a client, a setting is resolved on its server to the URL that says what to
set, and this is where every attempt at it goes. So no two settings have one endpoint. -/
theorem settings_unaltered {raw : String} {c : Client} (hb : Client.baseUrl raw = .ok c.base)
    (cam : UInt32) (param value : String) :
    (∃ url, c.resolve (Resource.setting cam param value).endpoint = .ok url ∧
      url.SameOrigin c.base ∧ url.Sets cam param value) ∧
    (∀ w, ∀ a ∈ (step (.operate c (.setParameter cam param value)) w).1.journal.attempts,
      a.Asks (Client.act (.setting cam param value)) → ∀ m ∈ a.exchange.sent.head?,
        m.method = .post ∧ m.url.SameOrigin c.base ∧ m.url.Sets cam param value) ∧
    ∀ cam' param' value',
      (Resource.setting cam param value).endpoint = (Resource.setting cam' param' value').endpoint →
      cam = cam' ∧ param = param' ∧ value = value' := by
  have ground := Client.grounded_of_baseUrl hb
  have home := (c.urlOf_beside (.setting cam param value)).sameOrigin
  have sets := c.urlOf_sets cam param value
  refine ⟨⟨_, ground.resolve_eq _, home, sets⟩, fun w a ha hr m hm => ?_,
    fun cam' param' value' he => ground.setting_inj he⟩
  rw [step_attempts (a := .operate c (.setParameter cam param value)) rfl] at ha
  have ht := c.course_takes (Client.act (.setting cam param value)) w
  obtain ⟨context, _, hd⟩ := ht.dispatch_of_mem ha
  have opens : m.Opens c (Client.act (.setting cam param value)) context :=
    Client.opens_of_dispatch (ht.serves.exchange_of_mem ha)
      (hd.elim id (Attempt.dispatch_of_asks hr)) m hm
  obtain ⟨url, hu, address⟩ := opens.place
  have he : url = c.urlOf (.setting cam param value) :=
    Except.ok.inj (hu.symm.trans (ground.resolve_eq (.setting cam param value)))
  rw [he] at address
  obtain ⟨same, hpath, hquery, hfragment⟩ := address.beside
  refine ⟨opens.method, ⟨same.1.trans home.1, same.2.1.trans home.2.1, same.2.2.trans home.2.2⟩,
    ?_, ?_, hfragment⟩
  · rw [hpath]
    exact sets.path
  · rw [hquery]
    exact sets.query

/-- A client whose base has a path of its own. -/
def belowPath : Client :=
  { Client.atHost "https" "camera.test" with
    base := { (Client.atHost "https" "camera.test").base with path := .nested ["motion", ""] } }

/-- A value with all that separates or escapes in a URL. -/
theorem settings_unaltered_awkward :
    let x : Resource := .setting 1 "text&left" "=#?%+\" \n\u00fc"
    Client.baseUrl "https://camera.test/motion" = .ok belowPath.base ∧
      (belowPath.urlOf x).text =
        "https://camera.test/motion/1/config/set?text%26left=%3D%23%3F%25%2B%22+%0A%C3%BC" ∧
      ∃ url, belowPath.resolve x.endpoint = .ok url ∧ url.SameOrigin belowPath.base ∧
        url.Sets 1 "text&left" "=#?%+\" \n\u00fc" := by
  intro x
  have hb : Client.baseUrl "https://camera.test/motion" = .ok belowPath.base := by decide +kernel
  exact ⟨hb, by decide +kernel, (settings_unaltered hb 1 "text&left" "=#?%+\" \n\u00fc").1⟩

end Session

end CameraConsole
