import CameraConsole.Proofs.HostNames
import CameraConsole.Proofs.Members
import CameraConsole.Proofs.ResourceUrls

/-!
# Texts of the web

How the text of a URL of the web is taken apart, with and without a slash put behind it: into a
scheme, an authority that never ends in a blank, and what comes behind that.
-/

namespace CameraConsole

namespace Url

theorem splitPort_append (inside : Bool) (cs : List Char) :
    (splitPort inside cs).1 ++ (splitPort inside cs).2 = cs := by
  induction cs generalizing inside with
  | nil => rfl
  | cons c cs ih =>
      unfold splitPort
      split
      · rfl
      · exact congrArg (c :: ·) (ih _)

theorem splitPort_port (inside : Bool) (cs : List Char) :
    (splitPort inside cs).2 = [] ∨ ∃ port, (splitPort inside cs).2 = ':' :: port := by
  induction cs generalizing inside with
  | nil => exact Or.inl rfl
  | cons c cs ih =>
      unfold splitPort
      split
      · rename_i hc
        rw [Bool.and_eq_true, decide_eq_true_eq] at hc
        exact Or.inr ⟨cs, congrArg (· :: cs) hc.1⟩
      · exact ih _

/-- A port is read to its end, unless a backslash comes first. -/
theorem readPort_left {scheme : String} {cs left : List Char} {port : Option Nat}
    (hslash : '\\' ∉ cs) (h : readPort scheme cs = .ok (port, left)) :
    left = [] ∧ ∀ c ∈ cs, c.isDigit = true := by
  unfold readPort at h
  dsimp only at h
  split at h
  · cases h
  · split at h
    · rename_i hrest
      cases h
      exact ⟨hrest, List.dropWhile_eq_nil_iff.mp hrest⟩
    · rename_i below hrest
      have hmem : '\\' ∈ cs.dropWhile Char.isDigit := hrest ▸ List.mem_cons_self
      exact absurd ((List.dropWhile_suffix _).subset hmem) hslash
    · cases h

/-- Host and port on the web, after the user. -/
def readAddress (scheme : String) (user : String × Option String) (address : List Char) :
    Except UrlFault (Authority × List Char) :=
  let (hostText, portText) := splitPort false address
  if hostText = [] then .error .emptyHost
  else do
    let host ← Host.web hostText
    let (port, rest) ← match portText with
      | [] => .ok (none, [])
      | _ :: digits => readPort scheme digits
    .ok ({ username := user.1, password := user.2, host := String.ofList host, port }, rest)

/-- On the web it makes no difference whether anything follows an authority. -/
theorem readAuthority_web {scheme : String} (hk : schemeKind scheme = .web) (cs : List Char)
    (more : Bool) :
    readAuthority scheme cs more =
      match splitUser cs with
      | none => readAddress scheme ("", none) cs
      | some (user, address) => readAddress scheme (userParts user) address := by
  have hspecial : SchemeKind.web.special = true := rfl
  unfold readAuthority
  rw [hk]
  cases splitUser cs with
  | none =>
      simp only [bind, Except.bind, hspecial, true_or, and_true, ↓reduceIte]
      rfl
  | some x =>
      obtain ⟨user, address⟩ := x
      dsimp only
      split
      · rename_i hnone
        cases hnone
      · rename_i hempty
        cases hempty
        cases more <;> rfl
      · rename_i hsome
        cases hsome
        simp only [bind, Except.bind, hspecial, true_or, and_true, ↓reduceIte]
        rfl

theorem mem_splitUser {cs user address : List Char} (h : splitUser cs = some (user, address)) :
    ∀ c ∈ address, c ∈ cs := by
  unfold splitUser at h
  split at h
  · cases h
  · cases h
    intro c hc
    exact List.mem_reverse.mp ((List.takeWhile_prefix _).subset (List.mem_reverse.mp hc))

theorem splitUser_last {front user address : List Char} {b : Char} (hb : b ≠ '@')
    (h : splitUser (front ++ [b]) = some (user, address)) : ∃ front', address = front' ++ [b] := by
  unfold splitUser at h
  split at h
  · cases h
  · cases h
    refine ⟨(front.reverse.takeWhile (· ≠ '@')).reverse, ?_⟩
    rw [List.reverse_append, List.reverse_singleton, List.singleton_append,
      List.takeWhile_cons_of_pos (by simpa using hb), List.reverse_cons]

/-- An authority is read to its end, and does not end in a blank. -/
theorem readAddress_ok {scheme : String} {user : String × Option String} {cs left : List Char}
    {a : Authority} (hslash : '\\' ∉ cs) (h : readAddress scheme user cs = .ok (a, left)) :
    left = [] ∧ ∀ front b, cs = front ++ [b] → 0x20 < b.toNat := by
  have hsplit := splitPort_append false cs
  unfold readAddress at h
  dsimp only at h
  split at h
  · cases h
  obtain ⟨host, hhost, h⟩ := bind_eq_ok_iff.mp h
  rcases splitPort_port false cs with hport | ⟨digits, hport⟩
  · rw [hport] at h hsplit
    cases h
    refine ⟨rfl, fun front b hb => Nat.lt_of_not_le fun hblank => ?_⟩
    rw [List.append_nil] at hsplit
    rw [hsplit, hb] at hhost
    obtain ⟨fault, hweb⟩ := Host.web_blank front hblank
    cases hweb.symm.trans hhost
  · rw [hport] at h hsplit
    obtain ⟨⟨port, rest⟩, hread, h⟩ := bind_eq_ok_iff.mp h
    cases h
    have hmem : ∀ c ∈ digits, c ∈ cs := fun c hc =>
      hsplit ▸ List.mem_append_right _ (List.mem_cons_of_mem _ hc)
    obtain ⟨hleft, hdigits⟩ := readPort_left (fun h => hslash (hmem _ h)) hread
    refine ⟨hleft, fun front b hb => ?_⟩
    have hlast : b = ':' ∨ b ∈ digits := by
      have hend : (':' :: digits).getLast? = some b := by
        rw [← hsplit] at hb
        have := congrArg List.getLast? hb
        rwa [List.getLast?_append, List.getLast?_concat] at this
      exact List.mem_cons.mp (List.mem_of_getLast? hend)
    rcases hlast with rfl | hdigit
    · decide
    · exact Nat.lt_of_not_le (of_decide_eq_false (not_blank_of_isDigit (hdigits b hdigit)))

theorem readAuthority_ok {scheme : String} (hk : schemeKind scheme = .web) {cs left : List Char}
    {more : Bool} {a : Authority} (hslash : '\\' ∉ cs)
    (h : readAuthority scheme cs more = .ok (a, left)) :
    left = [] ∧ ∀ front b, cs = front ++ [b] → 0x20 < b.toNat := by
  rw [readAuthority_web hk] at h
  split at h
  · exact readAddress_ok hslash h
  · rename_i user address hsplit
    obtain ⟨hleft, hlast⟩ := readAddress_ok (fun hs => hslash (mem_splitUser hsplit _ hs)) h
    refine ⟨hleft, fun front b hb => ?_⟩
    by_cases hat : b = '@'
    · subst hat
      decide
    · subst hb
      obtain ⟨front', rfl⟩ := splitUser_last hat hsplit
      exact hlast front' b rfl

/-! ## Below an authority -/

/-- What is left of a path without the slash that roots it. -/
def belowRoot : List Char → List Char
  | [] => []
  | c :: cs => if isSlash .web c then cs else c :: cs

theorem withRootedPath_web (u : Url) (cs : List Char) :
    u.withRootedPath .web cs = u.withPath .web [] (belowRoot cs) := by
  cases cs with
  | nil => rfl
  | cons c cs =>
      have hspecial : SchemeKind.web.special = true := rfl
      by_cases hc : isSlash .web c
      · simp only [withRootedPath, belowRoot, hc, ↓reduceIte]
      · simp only [withRootedPath, belowRoot, hc, hspecial, Bool.not_true, Bool.and_false,
          Bool.false_eq_true, ↓reduceIte]

/-- What comes behind an authority, without that slash. -/
def behindAuthority (cs : List Char) : List Char :=
  belowRoot (cs.dropWhile (!endsAuthority .web ·))

theorem belowRoot_suffix (cs : List Char) : belowRoot cs <:+ cs := by
  cases cs with
  | nil => exact List.suffix_rfl
  | cons c cs =>
      rw [belowRoot]
      split
      · exact List.suffix_cons c cs
      · exact List.suffix_rfl

theorem behindAuthority_suffix (cs : List Char) : behindAuthority cs <:+ cs :=
  (belowRoot_suffix _).trans (List.dropWhile_suffix _)

/-- A blank ends no part of a URL: neither its authority nor a segment nor the path. -/
theorem endsAuthority_blank {c : Char} (h : c.toNat ≤ 0x20) : endsAuthority .web c = false :=
  Text.forall_blank (p := (endsAuthority .web · = false)) (by decide) h

theorem isSlash_blank {c : Char} (h : c.toNat ≤ 0x20) : isSlash .web c = false := by
  have hc := endsAuthority_blank h
  simp only [endsAuthority, Bool.or_eq_false_iff] at hc
  exact hc.1.1

theorem endsPath_blank {c : Char} (h : c.toNat ≤ 0x20) : endsPath c = false := by
  have hc := endsAuthority_blank h
  simp only [endsAuthority, Bool.or_eq_false_iff] at hc
  simp only [endsPath, hc.1.2, hc.2, Bool.or_false]

/-- Behind an authority stands a slash, or what ends the path. -/
theorem slash_behindAuthority {cs : List Char} (hne : cs.dropWhile (!endsAuthority .web ·) ≠ [])
    (plain : ∀ c ∈ behindAuthority cs, endsPath c = false) :
    ∃ d, isSlash .web d = true ∧ d :: behindAuthority cs <:+ cs := by
  unfold behindAuthority at plain ⊢
  have hsuffix : cs.dropWhile (!endsAuthority .web ·) <:+ cs := List.dropWhile_suffix _
  obtain ⟨d, below, hdrop⟩ := List.exists_cons_of_ne_nil hne
  have hd : endsAuthority .web d = true := by
    have hnot := List.head?_dropWhile_not (!endsAuthority .web ·) cs
    rw [hdrop] at hnot
    simpa using hnot
  rw [hdrop] at hsuffix plain ⊢
  by_cases hslash : isSlash .web d
  · rw [belowRoot, if_pos hslash]
    exact ⟨d, hslash, hsuffix⟩
  · rw [belowRoot, if_neg hslash] at plain
    have hpath := plain d List.mem_cons_self
    simp only [endsAuthority, hslash, Bool.false_or] at hd
    exact absurd hd (Bool.eq_false_iff.mp hpath)

theorem getLast?_of_suffix {α : Type} {xs ys : List α} (h : xs <:+ ys) (hne : xs ≠ []) :
    ys.getLast? = xs.getLast? := by
  obtain ⟨front, rfl⟩ := h
  rw [List.getLast?_append, List.getLast?_eq_some_getLast hne, Option.some_or]

/-- A path that ends in no slash ends as the text does. -/
theorem getLast?_behindAuthority_iff {cs : List Char}
    (hne : cs.dropWhile (!endsAuthority .web ·) ≠ [])
    (plain : ∀ c ∈ behindAuthority cs, endsPath c = false) {z : Char}
    (hz : isSlash .web z = false) :
    (behindAuthority cs).getLast? = some z ↔ cs.getLast? = some z := by
  obtain ⟨d, hd, hsuffix⟩ := slash_behindAuthority hne plain
  rw [getLast?_of_suffix hsuffix (List.cons_ne_nil _ _), List.getLast?_cons]
  cases (behindAuthority cs).getLast? with
  | none =>
      refine ⟨nofun, fun hend => ?_⟩
      cases hend
      exact absurd hd (Bool.eq_false_iff.mp hz)
  | some y => exact Iff.rfl

/-- The URL with this authority and the path, query and fragment of `cs`. -/
def rooted (scheme : String) (a : Authority) (cs : List Char) : Url :=
  let u : Url :=
    { scheme, authority := some a, path := .nested [], query := none, fragment := none }
  u.withPath .web [] cs

theorem backslash_ends (cs : List Char) : '\\' ∉ cs.takeWhile (!endsAuthority .web ·) := fun hmem =>
  absurd (List.mem_takeWhile_imp hmem) (by decide)

section

variable {scheme : String} (hk : schemeKind scheme = .web) {cs : List Char} {u : Url}
include hk

theorem afterSlashes_web :
    afterSlashes scheme cs = .ok u ↔
      ∃ a, readAuthority scheme (cs.takeWhile (!endsAuthority .web ·)) true = .ok (a, []) ∧
        u = rooted scheme a (behindAuthority cs) := by
  unfold afterSlashes
  rw [hk]
  dsimp only
  rw [bind_eq_ok_iff]
  constructor
  · rintro ⟨⟨a, left⟩, ha, hu⟩
    rw [readAuthority_web hk] at ha
    obtain ⟨rfl, _⟩ := readAuthority_ok hk (backslash_ends cs) ((readAuthority_web hk _ true).trans ha)
    cases hu
    exact ⟨a, (readAuthority_web hk _ true).trans ha, withRootedPath_web _ _⟩
  · rintro ⟨a, ha, rfl⟩
    rw [readAuthority_web hk] at ha
    refine ⟨(a, []), (readAuthority_web hk _ _).trans ha, ?_⟩
    exact congrArg Except.ok (withRootedPath_web _ _)

/-- What is put behind a text whose authority has ended goes to its path. -/
theorem afterSlashes_append (hne : cs.dropWhile (!endsAuthority .web ·) ≠ []) (behind : List Char) :
    afterSlashes scheme (cs ++ behind) = .ok u ↔
      ∃ a, readAuthority scheme (cs.takeWhile (!endsAuthority .web ·)) true = .ok (a, []) ∧
        u = rooted scheme a (behindAuthority cs ++ behind) := by
  have hpos := List.length_pos_iff.mpr hne
  have hlength := congrArg List.length
    (List.takeWhile_append_dropWhile (p := (!endsAuthority .web ·)) (l := cs))
  rw [List.length_append] at hlength
  have htake : (cs ++ behind).takeWhile (!endsAuthority .web ·) =
      cs.takeWhile (!endsAuthority .web ·) := by
    rw [List.takeWhile_append, if_neg (by omega)]
  have hbehind : behindAuthority (cs ++ behind) = behindAuthority cs ++ behind := by
    unfold behindAuthority
    rw [List.dropWhile_append, if_neg (mt List.isEmpty_iff.mp hne)]
    obtain ⟨d, below, hdrop⟩ := List.exists_cons_of_ne_nil hne
    rw [hdrop, List.cons_append, belowRoot, belowRoot]
    split <;> rfl
  rw [afterSlashes_web hk, htake, hbehind]

/-- A text that is all authority has the empty path, with or without a slash. -/
theorem afterSlashes_plain (plain : ∀ c ∈ cs, endsAuthority .web c = false) {tail : List Char}
    (htail : tail = [] ∨ tail = ['/']) :
    afterSlashes scheme (cs ++ tail) = .ok u ↔
      ∃ a, readAuthority scheme cs true = .ok (a, []) ∧ u = rooted scheme a [] := by
  have hpass : ∀ c ∈ cs, (!endsAuthority .web c) = true := fun c hc => by
    rw [plain c hc]
    rfl
  have htake : tail.takeWhile (!endsAuthority .web ·) = [] := by
    rcases htail with rfl | rfl <;> rfl
  have hbelow : belowRoot (tail.dropWhile (!endsAuthority .web ·)) = [] := by
    rcases htail with rfl | rfl <;> rfl
  rw [afterSlashes_web hk, behindAuthority, List.takeWhile_append_of_pos hpass,
    List.dropWhile_append_of_pos hpass, htake, hbelow, List.append_nil]

/-- An authority is not empty, and does not end in a blank. -/
theorem readAuthority_last {more : Bool} {a : Authority} {left : List Char} (hslash : '\\' ∉ cs)
    (h : readAuthority scheme cs more = .ok (a, left)) :
    ∃ front b, cs = front ++ [b] ∧ 0x20 < b.toNat := by
  rcases List.eq_nil_or_concat cs with rfl | ⟨front, b, hb⟩
  · rw [readAuthority_web hk] at h
    cases h
  · rw [List.concat_eq_append] at hb
    exact ⟨front, b, hb, (readAuthority_ok hk hslash h).2 front b hb⟩

theorem authority_last (h : afterSlashes scheme cs = .ok u) :
    ∃ front b, cs.takeWhile (!endsAuthority .web ·) = front ++ [b] ∧ 0x20 < b.toNat := by
  obtain ⟨a, ha, _⟩ := (afterSlashes_web hk).mp h
  exact readAuthority_last hk (backslash_ends cs) ha

end

/-! ## Texts of the web -/

theorem afterSlashes_scheme {scheme : String} {cs : List Char} {u : Url}
    (h : afterSlashes scheme cs = .ok u) : u.scheme = scheme := by
  obtain ⟨⟨a, left⟩, _, hu⟩ := bind_eq_ok_iff.mp h
  cases hu
  unfold withRootedPath
  repeat' split
  all_goals rfl

theorem absolute_web {scheme : String} {raw : List Char} {u : Url}
    (h : absolute scheme raw = .ok u) (hk : schemeKind u.scheme = .web) :
    schemeKind scheme = .web ∧
      afterSlashes scheme ((unbroken raw).dropWhile (isSlash .web)) = .ok u := by
  unfold absolute at h
  split at h
  · obtain ⟨host, path, rfl⟩ := fileUrl_fileOn h
    cases hk
  · rename_i hweb
    exact ⟨hweb, h⟩
  · rename_i hother
    have hs : u.scheme = scheme := by
      unfold otherUrl at h
      dsimp only at h
      split at h
      · exact afterSlashes_scheme h
      · cases h; rfl
      · cases h; rfl
    rw [hs, hother] at hk
    cases hk

theorem ofText_web {s : String} {u : Url} (h : ofText s = .ok u) (hk : schemeKind u.scheme = .web) :
    ∃ scheme rest, splitScheme (trimmed s) = some (scheme, rest) ∧ schemeKind scheme = .web ∧
      afterSlashes scheme ((unbroken rest).dropWhile (isSlash .web)) = .ok u := by
  unfold ofText at h
  split at h
  · rename_i scheme rest hsplit
    obtain ⟨hweb, hu⟩ := absolute_web h hk
    exact ⟨scheme, rest, hsplit, hweb, hu⟩
  · cases h

theorem ofText_eq {s : String} {scheme : String} {rest : List Char}
    (hsplit : splitScheme (trimmed s) = some (scheme, rest)) (hk : schemeKind scheme = .web) :
    ofText s = afterSlashes scheme ((unbroken rest).dropWhile (isSlash .web)) := by
  unfold ofText absolute
  rw [hsplit]
  dsimp only
  rw [hk]

/-- Trimming takes blanks off both ends, and leaves none at the end. -/
theorem trimmed_split (s : String) :
    ∃ lead blanks, s.toList = lead ++ (trimmed s ++ blanks) ∧
      s.toList.dropWhile (·.toNat ≤ 0x20) = trimmed s ++ blanks ∧
      (∀ c ∈ blanks, c.toNat ≤ 0x20) ∧ ∀ z ∈ (trimmed s).getLast?, 0x20 < z.toNat := by
  let kept := s.toList.dropWhile (·.toNat ≤ 0x20)
  let blanks := (kept.reverse.takeWhile (·.toNat ≤ 0x20)).reverse
  have hkept : kept = trimmed s ++ blanks := by
    have hsplit : kept.reverse =
        kept.reverse.takeWhile (·.toNat ≤ 0x20) ++ kept.reverse.dropWhile (·.toNat ≤ 0x20) :=
      List.takeWhile_append_dropWhile.symm
    have hback := congrArg List.reverse hsplit
    rwa [List.reverse_reverse, List.reverse_append] at hback
  refine ⟨s.toList.takeWhile (·.toNat ≤ 0x20), blanks, ?_, hkept, fun c hc => ?_, fun z hz => ?_⟩
  · rw [← hkept]
    exact List.takeWhile_append_dropWhile.symm
  · have hblank : decide (c.toNat ≤ 0x20) = true :=
      List.mem_takeWhile_imp (p := fun c : Char => decide (c.toNat ≤ 0x20)) (List.mem_reverse.mp hc)
    exact of_decide_eq_true hblank
  · have hhead : (kept.reverse.dropWhile (·.toNat ≤ 0x20)).head? = some z := by
      rw [← List.getLast?_reverse]
      exact hz
    have hnot := List.head?_dropWhile_not (fun c : Char => decide (c.toNat ≤ 0x20)) kept.reverse
    rw [hhead] at hnot
    simpa using hnot

theorem trimmed_slash (s : String) :
    trimmed (s ++ "/") = s.toList.dropWhile (·.toNat ≤ 0x20) ++ ['/'] := by
  have hdrop : (s.toList ++ ['/']).dropWhile (·.toNat ≤ 0x20) =
      s.toList.dropWhile (·.toNat ≤ 0x20) ++ ['/'] := by
    rw [List.dropWhile_append]
    split
    · rename_i hempty
      rw [List.isEmpty_iff.mp hempty]
      rfl
    · rfl
  unfold trimmed Text.trimBoth
  have hlist : (s ++ "/").toList = s.toList ++ ['/'] := String.toList_append
  rw [hlist, hdrop, List.reverse_append, List.reverse_singleton, List.singleton_append,
    List.dropWhile_cons_of_neg (by decide), List.reverse_cons, List.reverse_reverse]

def inScheme (c : Char) : Bool :=
  isSchemeChar c || isBreak c

theorem splitScheme_eq_some_iff {cs rest : List Char} {scheme : String} :
    splitScheme cs = some (scheme, rest) ↔
      ∃ c name, unbroken (cs.takeWhile inScheme) = c :: name ∧ cs.dropWhile inScheme = ':' :: rest ∧
        c.isAlpha = true ∧ String.ofList ((c :: name).map Char.toLower) = scheme := by
  unfold splitScheme
  dsimp only
  split
  · rename_i c name rest' hname hrest
    have hname' : unbroken (cs.takeWhile inScheme) = c :: name := hname
    have hrest' : cs.dropWhile inScheme = ':' :: rest' := hrest
    rw [hname', hrest']
    split
    · rename_i hc
      constructor
      · intro h
        cases h
        exact ⟨c, name, rfl, rfl, hc, rfl⟩
      · rintro ⟨_, _, hn, hr, _, rfl⟩
        cases hn
        cases hr
        rfl
    · rename_i hc
      refine ⟨nofun, fun ⟨_, _, hn, _, hc', _⟩ => ?_⟩
      cases hn
      exact absurd hc' hc
  · rename_i hno
    refine ⟨nofun, fun ⟨c, name, hname, hrest, _⟩ => ?_⟩
    exact absurd hrest (hno c name rest hname)

/-- What a scheme is followed by does not change it. -/
theorem splitScheme_append_iff {cs behind rest : List Char} {scheme : String}
    (hbehind : ':' ∉ behind) :
    splitScheme (cs ++ behind) = some (scheme, rest) ↔
      ∃ rest', splitScheme cs = some (scheme, rest') ∧ rest = rest' ++ behind := by
  simp only [splitScheme_eq_some_iff]
  cases hdrop : cs.dropWhile inScheme with
  | nil =>
      have hdrop' : (cs ++ behind).dropWhile inScheme = behind.dropWhile inScheme := by
        rw [List.dropWhile_append, hdrop]
        rfl
      rw [hdrop']
      refine ⟨fun ⟨_, _, _, hrest, _⟩ => ?_, fun ⟨_, ⟨_, _, _, hrest, _⟩, _⟩ => nomatch hrest⟩
      have hmem : ':' ∈ behind.dropWhile inScheme := hrest ▸ List.mem_cons_self
      exact absurd ((List.dropWhile_suffix _).subset hmem) hbehind
  | cons d below =>
      have hlength := congrArg List.length (List.takeWhile_append_dropWhile (p := inScheme) (l := cs))
      rw [hdrop, List.length_append, List.length_cons] at hlength
      have htake : (cs ++ behind).takeWhile inScheme = cs.takeWhile inScheme := by
        rw [List.takeWhile_append, if_neg (by omega)]
      have hdrop' : (cs ++ behind).dropWhile inScheme = d :: (below ++ behind) := by
        rw [List.dropWhile_append, hdrop]
        rfl
      rw [htake, hdrop']
      constructor
      · rintro ⟨c, name, hname, hrest, hc, hscheme⟩
        cases hrest
        exact ⟨below, ⟨c, name, hname, rfl, hc, hscheme⟩, rfl⟩
      · rintro ⟨_, ⟨c, name, hname, hrest, hc, hscheme⟩, rfl⟩
        cases hrest
        exact ⟨c, name, hname, rfl, hc, hscheme⟩

theorem splitScheme_front {cs rest : List Char} {scheme : String}
    (h : splitScheme cs = some (scheme, rest)) : ∃ front, cs = front ++ ':' :: rest := by
  obtain ⟨_, _, _, hrest, _⟩ := splitScheme_eq_some_iff.mp h
  refine ⟨cs.takeWhile inScheme, ?_⟩
  rw [← hrest]
  exact List.takeWhile_append_dropWhile.symm

/-- A text of the web that starts its authority at `address` and ends in blanks. With a slash behind
it the blanks count. -/
structure Reading (raw scheme : String) (address blanks : List Char) : Prop where
  web : schemeKind scheme = .web
  text : address ++ blanks <:+ unbroken raw.toList
  nonempty : address ≠ []
  last : ∀ z ∈ address.getLast?, 0x20 < z.toNat
  blank : ∀ c ∈ blanks, c.toNat ≤ 0x20
  given : ofText raw = afterSlashes scheme address
  slashed : ofText (raw ++ "/") = afterSlashes scheme (address ++ (blanks ++ ['/']))

theorem unbroken_of_forall {cs : List Char} (h : ∀ c ∈ cs, isBreak c = false) : unbroken cs = cs :=
  List.filter_eq_self.mpr fun c hc => by rw [h c hc]; rfl

theorem unbroken_append (cs ds : List Char) : unbroken (cs ++ ds) = unbroken cs ++ unbroken ds :=
  List.filter_append _ _

theorem not_break_of_mem {cs : List Char} {c : Char} (h : c ∈ unbroken cs) : isBreak c = false := by
  simpa using (List.mem_filter.mp h).2

theorem not_mem_blanks {blanks : List Char} (h : ∀ c ∈ blanks, c.toNat ≤ 0x20) :
    ':' ∉ blanks ++ ['/'] := fun hmem => by
  rcases List.mem_append.mp hmem with hmem | hmem
  · exact absurd (h ':' hmem) (by decide)
  · exact absurd hmem (by decide)

theorem reading_of_scheme {raw scheme : String} {rest : List Char}
    (hsplit : splitScheme (trimmed raw) = some (scheme, rest)) (hk : schemeKind scheme = .web)
    (hne : (unbroken rest).dropWhile (isSlash .web) ≠ []) :
    ∃ blanks, Reading raw scheme ((unbroken rest).dropWhile (isSlash .web)) blanks := by
  obtain ⟨lead, blanks, hraw, hkept, hblanks, hlast⟩ := trimmed_split raw
  obtain ⟨front, hfront⟩ := splitScheme_front hsplit
  have hsuffix : (unbroken rest).dropWhile (isSlash .web) <:+ unbroken rest :=
    List.dropWhile_suffix _
  refine ⟨unbroken blanks, hk, ?_, hne, fun z hz => ?_, ?_, ofText_eq hsplit hk, ?_⟩
  · have hwhole : unbroken raw.toList =
        unbroken (lead ++ (front ++ [':'])) ++ (unbroken rest ++ unbroken blanks) := by
      rw [← unbroken_append, ← unbroken_append, hraw, hfront]
      simp
    obtain ⟨slashes, hslashes⟩ := hsuffix
    refine ⟨unbroken (lead ++ (front ++ [':'])) ++ slashes, ?_⟩
    rw [hwhole, List.append_assoc, ← List.append_assoc slashes, hslashes]
  · -- The last character of the text is no blank, so it is no break either.
    rw [← getLast?_of_suffix hsuffix hne] at hz
    rcases List.eq_nil_or_concat rest with rfl | ⟨below, y, rfl⟩
    · cases hz
    rw [List.concat_eq_append] at hfront hz
    have hy : 0x20 < y.toNat := hlast y (by
      rw [hfront, ← List.cons_append, ← List.append_assoc, List.getLast?_concat]
      rfl)
    have hbreak : isBreak y = false := by
      refine Bool.eq_false_iff.mpr fun hbreak => ?_
      simp only [isBreak, Bool.or_eq_true, decide_eq_true_eq] at hbreak
      rcases hbreak with (rfl | rfl) | rfl <;> exact absurd hy (by decide)
    have hsingle : unbroken [y] = [y] := unbroken_of_forall (by simpa using hbreak)
    rw [unbroken_append, hsingle, List.getLast?_concat] at hz
    exact Option.some.inj hz ▸ hy
  · exact fun c hc => hblanks c (List.mem_filter.mp hc).1
  · have hbehind : ':' ∉ blanks ++ ['/'] := not_mem_blanks hblanks
    have hsplit' : splitScheme (trimmed (raw ++ "/")) = some (scheme, rest ++ (blanks ++ ['/'])) := by
      rw [trimmed_slash, hkept, List.append_assoc]
      exact (splitScheme_append_iff hbehind).mpr ⟨rest, hsplit, rfl⟩
    have hslash : unbroken ['/'] = ['/'] := rfl
    rw [ofText_eq hsplit' hk, unbroken_append, unbroken_append, hslash, List.dropWhile_append,
      if_neg (mt List.isEmpty_iff.mp hne)]

section

variable {raw scheme : String} {address blanks : List Char}

theorem Reading.unbroken_address (r : Reading raw scheme address blanks) {c : Char}
    (hc : c ∈ address) : isBreak c = false :=
  not_break_of_mem (r.text.subset (List.mem_append_left _ hc))

theorem Reading.unbroken_blanks (r : Reading raw scheme address blanks) {c : Char}
    (hc : c ∈ blanks) : c.toNat ≤ 0x20 ∧ isBreak c = false :=
  ⟨r.blank c hc, not_break_of_mem (r.text.subset (List.mem_append_right _ hc))⟩

theorem Reading.getLast? (r : Reading raw scheme address blanks) :
    (unbroken raw.toList).getLast? = (address ++ blanks).getLast? :=
  getLast?_of_suffix r.text fun hnil => r.nonempty (List.append_eq_nil_iff.mp hnil).1

/-- The text ends in a character that counts and is no blank just when it has no blanks behind it. -/
theorem Reading.blanks_eq_nil (r : Reading raw scheme address blanks) {z : Char}
    (hz : (unbroken raw.toList).getLast? = some z) (hlow : 0x20 < z.toNat) : blanks = [] := by
  refine Decidable.byContradiction fun hne => ?_
  rw [r.getLast?, List.getLast?_append, List.getLast?_eq_some_getLast hne, Option.some_or] at hz
  have hmem : z ∈ blanks := Option.some.inj hz ▸ List.getLast_mem hne
  exact absurd (r.blank z hmem) (Nat.not_le.mpr hlow)

end

end Url

end CameraConsole
