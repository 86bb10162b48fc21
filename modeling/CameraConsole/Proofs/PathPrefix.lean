import CameraConsole.Proofs.WebTexts

/-!
# The path of a base URL

A base URL is read with a slash put behind its text. When that slash ends the path, resources lie
below the whole path that was given; after a query, a fragment or trailing blanks it does not.
-/

namespace CameraConsole

namespace Url

/-! ## The last part of a path -/

section

variable {sep : Char → Bool}

theorem splitAll_ne_nil (sep : Char → Bool) (cs : List Char) : Text.splitAll sep cs ≠ [] := by
  cases cs with
  | nil => exact List.cons_ne_nil _ _
  | cons c cs =>
      unfold Text.splitAll
      split
      · exact List.cons_ne_nil _ _
      · split <;> exact List.cons_ne_nil _ _

theorem splitAll_at {d : Char} (hd : sep d = true) (cs rest : List Char) :
    Text.splitAll sep (cs ++ d :: rest) = Text.splitAll sep cs ++ Text.splitAll sep rest := by
  induction cs with
  | nil => simp [Text.splitAll, hd]
  | cons c cs ih =>
      simp only [List.cons_append, Text.splitAll, ih]
      split
      · rfl
      · obtain ⟨part, parts, hparts⟩ := List.exists_cons_of_ne_nil (splitAll_ne_nil sep cs)
        rw [hparts]
        rfl

theorem exists_last_part (sep : Char → Bool) (cs : List Char) :
    (∀ c ∈ cs, sep c = false) ∨
      ∃ front d last, cs = front ++ d :: last ∧ sep d = true ∧ ∀ c ∈ last, sep c = false := by
  induction cs with
  | nil => exact Or.inl nofun
  | cons c cs ih =>
      rcases ih with hnone | ⟨front, d, last, rfl, hd, hlast⟩
      · cases hc : sep c with
        | true => exact Or.inr ⟨[], c, cs, rfl, hc, hnone⟩
        | false => exact Or.inl (List.forall_mem_cons.mpr ⟨hc, hnone⟩)
      · exact Or.inr ⟨c :: front, d, last, rfl, hd, hlast⟩

end

/-- A path and the same path with blanks and a slash behind it have all parts but the last in
common. -/
theorem pathParts_slashed (cs : List Char) :
    ∃ init last, pathParts .web cs = init ++ [last] ∧ (∀ c ∈ last, c ∈ cs) ∧
      (∀ c ∈ last, isSlash .web c = false) ∧
      (last = [] ↔ ∀ z ∈ cs.getLast?, isSlash .web z = true) ∧
      ∀ blanks, (∀ c ∈ blanks, isSlash .web c = false) →
        pathParts .web (cs ++ (blanks ++ ['/'])) = init ++ [last ++ blanks] ++ [[]] := by
  have hslash : isSlash .web '/' = true := rfl
  have behind {last blanks : List Char} (hlast : ∀ c ∈ last, isSlash .web c = false)
      (hblanks : ∀ c ∈ blanks, isSlash .web c = false) :
      Text.splitAll (isSlash .web) (last ++ (blanks ++ ['/'])) = [last ++ blanks] ++ [[]] := by
    rw [← List.append_assoc, splitAll_at hslash, Text.splitAll_plain fun c hc =>
      (List.mem_append.mp hc).elim (hlast c) (hblanks c)]
    rfl
  have plain {last : List Char} (hlast : ∀ c ∈ last, isSlash .web c = false)
      (h : ∀ z ∈ last.getLast?, isSlash .web z = true) : last = [] := by
    refine List.getLast?_eq_none_iff.mp (Option.eq_none_iff_forall_ne_some.mpr fun z hz => ?_)
    exact Bool.false_ne_true ((hlast z (List.mem_of_getLast? hz)).symm.trans (h z hz))
  unfold pathParts
  rcases exists_last_part (isSlash .web) cs with hnone | ⟨front, d, last, rfl, hd, hlast⟩
  · refine ⟨[], cs, Text.splitAll_plain hnone, fun _ hc => hc, hnone, ⟨?_, plain hnone⟩,
      fun blanks hblanks => behind hnone hblanks⟩
    rintro rfl
    exact nofun
  · refine ⟨Text.splitAll (isSlash .web) front, last, ?_, ?_, hlast, ?_, fun blanks hblanks => ?_⟩
    · rw [splitAll_at hd, Text.splitAll_plain hlast]
    · exact fun c hc => List.mem_append_right _ (List.mem_cons_of_mem _ hc)
    · cases last with
      | nil =>
          refine ⟨fun _ z hz => ?_, fun _ => rfl⟩
          rw [List.getLast?_concat] at hz
          exact Option.some.inj hz ▸ hd
      | cons c last =>
          have hend : (front ++ d :: c :: last).getLast? = (c :: last).getLast? := by
            rw [List.getLast?_append, List.getLast?_cons_cons, List.getLast?_cons, Option.some_or]
          rw [hend]
          exact ⟨nofun, plain hlast⟩
    · rw [List.append_assoc, List.cons_append, splitAll_at hd, behind hlast hblanks,
        List.append_assoc]

/-! ## Written segments -/

theorem not_mem_encoded {escaped : Char → Bool} {cs : List Char} (h : '/' ∉ cs) :
    '/' ∉ (encoded escaped cs).toList := by
  intro hmem
  rw [encoded, String.toList_ofList, Text.percentEncode, List.mem_flatMap] at hmem
  obtain ⟨c, hc, hmem⟩ := hmem
  unfold Text.percentChar at hmem
  split at hmem
  · exact h (List.mem_singleton.mp hmem ▸ hc)
  · obtain ⟨b, _, hb⟩ := List.mem_flatMap.mp hmem
    exact absurd (Form.mem_percentByte hb) (by decide)

theorem encoded_append (escaped : Char → Bool) (cs ds : List Char) :
    encoded escaped (cs ++ ds) = encoded escaped cs ++ encoded escaped ds := by
  unfold encoded Text.percentEncode
  rw [List.flatMap_append, String.ofList_append]

theorem length_encoded_pos {escaped : Char → Bool} {cs : List Char} (h : cs ≠ []) :
    0 < (encoded escaped cs).length := by
  obtain ⟨c, cs, rfl⟩ := List.exists_cons_of_ne_nil h
  have hchar : Text.percentChar escaped c ≠ [] := by
    unfold Text.percentChar
    split
    · exact List.cons_ne_nil _ _
    · obtain ⟨b, bs, hb⟩ := List.exists_cons_of_ne_nil (String.utf8EncodeChar_ne_nil (c := c))
      rw [hb]
      exact List.cons_ne_nil _ _
  have hpos := List.length_pos_iff.mpr hchar
  rw [encoded, String.length_ofList, Text.percentEncode, List.flatMap_cons, List.length_append]
  omega

theorem text_concat (above : List String) (segment : String) :
    (UrlPath.nested (above ++ [segment])).text = (UrlPath.nested above).text ++ "/" ++ segment := by
  rw [UrlPath.text_append, String.append_assoc]
  have hone : (UrlPath.nested [segment]).text = "/" ++ segment ++ "" := rfl
  rw [hone, String.append_empty]

/-- A path ends in a slash when its last segment is empty. -/
theorem getLast?_text_iff {above : List String} {segment : String} (h : '/' ∉ segment.toList) :
    (UrlPath.nested (above ++ [segment])).text.toList.getLast? = some '/' ↔ segment = "" := by
  rw [text_concat, String.toList_append, String.toList_append, List.getLast?_append]
  constructor
  · intro hlast
    refine String.toList_eq_nil_iff.mp (Decidable.byContradiction fun hne => ?_)
    rw [List.getLast?_eq_some_getLast hne, Option.some_or] at hlast
    exact h (Option.some.inj hlast ▸ List.getLast_mem hne)
  · rintro rfl
    simp

theorem slashed_text {above : List String} {segment : String} (h : '/' ∉ segment.toList) :
    Client.slashed (UrlPath.nested (above ++ [segment])).text =
      if segment = "" then (UrlPath.nested above).text ++ "/"
      else (UrlPath.nested above).text ++ "/" ++ segment ++ "/" := by
  unfold Client.slashed
  by_cases hs : segment = ""
  · rw [if_pos hs, if_pos ((getLast?_text_iff h).mpr hs), text_concat, hs, String.append_empty]
  · rw [if_neg hs, if_neg (mt (getLast?_text_iff h).mp hs), text_concat]

/-! ## Walks -/

theorem walk_concat (k : SchemeKind) (segments : List String) (init : List (List Char))
    (last : List Char) :
    walk k segments (init ++ [last]) = walk k (init.foldl (step k) segments) [last] := by
  induction init generalizing segments with
  | nil => rfl
  | cons part init ih =>
      have hmore : walk k segments (part :: init ++ [last]) =
          walk k (step k segments part) (init ++ [last]) := by
        cases init <;> rfl
      rw [hmore, ih, List.foldl_cons]

/-- Whether the last part of a path leaves an empty segment behind: one dot or two. -/
def isDots (cs : List Char) : Bool :=
  isSingleDot cs || isDoubleDot cs

theorem dropDot_eq_some {cs rest : List Char} (h : dropDot cs = some rest) :
    ∃ dot ∈ ['.', 'e', 'E'], ∃ front, cs = front ++ dot :: rest := by
  unfold dropDot at h
  split at h
  · cases h
    exact ⟨'.', by decide, [], rfl⟩
  · cases h
    exact ⟨'e', by decide, ['%', '2'], rfl⟩
  · cases h
    exact ⟨'E', by decide, ['%', '2'], rfl⟩
  · cases h

theorem isDots_last {cs : List Char} (h : isDots cs = true) :
    ∃ front dot, cs = front ++ [dot] ∧ 0x20 < dot.toNat ∧ isSlash .web dot = false := by
  have plain : ∀ dot ∈ ['.', 'e', 'E'], 0x20 < dot.toNat ∧ isSlash .web dot = false := by
    intro dot hdot
    simp only [List.mem_cons, List.not_mem_nil, or_false] at hdot
    rcases hdot with rfl | rfl | rfl <;> decide
  rcases Bool.or_eq_true_iff.mp h with h | h
  · obtain ⟨dot, hdot, front, rfl⟩ := dropDot_eq_some (of_decide_eq_true h)
    exact ⟨front, dot, rfl, plain dot hdot⟩
  · obtain ⟨rest, hfirst, hsecond⟩ := Option.bind_eq_some_iff.mp (of_decide_eq_true h)
    obtain ⟨first, _, front, rfl⟩ := dropDot_eq_some hfirst
    obtain ⟨dot, hdot, front', rfl⟩ := dropDot_eq_some hsecond
    exact ⟨front ++ first :: front', dot, by simp, plain dot hdot⟩

theorem step_of_not_dots {cs : List Char} (unbrokenCs : unbroken cs = cs) (h : isDots cs = false)
    (segments : List String) : step .web segments cs = segments ++ [encoded inPath cs] := by
  rw [isDots, Bool.or_eq_false_iff] at h
  unfold step enter
  rw [unbrokenCs, h.1, h.2]
  rfl

theorem walk_last {cs : List Char} (unbrokenCs : unbroken cs = cs) (segments : List String) :
    walk .web segments [cs] =
      if isDots cs then step .web segments cs ++ [""] else segments ++ [encoded inPath cs] := by
  unfold walk
  rw [unbrokenCs]
  by_cases h : isDots cs
  · rw [if_pos h]
    exact if_pos h
  · rw [if_neg h, ← step_of_not_dots unbrokenCs (Bool.eq_false_iff.mpr h)]
    exact if_neg h

/-- Dots lead nowhere that is longer to write. -/
theorem length_step_dots {cs : List Char} (unbrokenCs : unbroken cs = cs) (h : isDots cs = true)
    (segments : List String) :
    (UrlPath.nested (step .web segments cs)).text.length ≤ (UrlPath.nested segments).text.length := by
  have hleave : (UrlPath.nested (leave segments)).text.length ≤
      (UrlPath.nested segments).text.length := by
    unfold leave
    split
    · exact Nat.le_refl _
    · rcases List.eq_nil_or_concat segments with rfl | ⟨above, segment, rfl⟩
      · exact Nat.le_refl _
      · rw [List.concat_eq_append, List.dropLast_concat, text_concat, String.length_append,
          String.length_append]
        omega
  unfold step
  rw [unbrokenCs]
  split
  · exact hleave
  · rename_i hdouble
    have hsingle : isSingleDot cs = true := by
      rcases Bool.or_eq_true_iff.mp h with hs | hd
      · exact hs
      · exact absurd hd hdouble
    rw [if_pos hsingle]

/-- The segments that a path leads to, from the root. -/
def segmentsOf (cs : List Char) : List String :=
  segmentsFrom .web [] cs

/-- The last segment of a path is written without a slash, and is empty behind one. -/
theorem segmentsOf_last {cs : List Char} (unbrokenCs : ∀ c ∈ cs, isBreak c = false) :
    ∃ above segment, segmentsOf cs = above ++ [segment] ∧ '/' ∉ segment.toList ∧
      ((∀ z ∈ cs.getLast?, isSlash .web z = true) → segment = "") := by
  obtain ⟨init, last, hparts, hmem, hlast, hends, _⟩ := pathParts_slashed cs
  have hunbroken : unbroken last = last :=
    unbroken_of_forall fun c hc => unbrokenCs c (hmem c hc)
  have hwalk : segmentsOf cs = walk .web [] (init ++ [last]) := congrArg (walk .web []) hparts
  rw [hwalk, walk_concat, walk_last hunbroken]
  split
  · exact ⟨_, "", rfl, by decide, fun _ => rfl⟩
  · refine ⟨_, _, rfl, not_mem_encoded fun hs => ?_, fun hz => ?_⟩
    · exact absurd (hlast _ hs) (by decide)
    · rw [hends.mpr hz]
      rfl

theorem length_slashed_le (s : String) : (Client.slashed s).length ≤ s.length + 1 := by
  unfold Client.slashed
  split
  · exact Nat.le_succ _
  · rw [String.length_append]
    exact Nat.le_refl _

/-- Blanks make a segment longer, and are no dots. -/
theorem step_blank_ne {last blanks : List Char} (hlast : ∀ c ∈ last, isBreak c = false)
    (hblanks : ∀ c ∈ blanks, c.toNat ≤ 0x20 ∧ isBreak c = false) (hb : blanks ≠ [])
    (segments : List String) :
    (UrlPath.nested (step .web segments (last ++ blanks))).text ++ "/" ≠
      Client.slashed (UrlPath.nested (walk .web segments [last])).text := by
  have hunbroken : unbroken (last ++ blanks) = last ++ blanks := unbroken_of_forall fun c hc =>
    (List.mem_append.mp hc).elim (hlast c) fun hc => (hblanks c hc).2
  have hdots : isDots (last ++ blanks) = false := Bool.eq_false_iff.mpr fun hdots => by
    obtain ⟨front, dot, hend, hdot, _⟩ := isDots_last hdots
    have hmem : dot ∈ blanks := by
      have hlast? := congrArg List.getLast? hend
      rw [List.getLast?_append, List.getLast?_concat, List.getLast?_eq_some_getLast hb,
        Option.some_or] at hlast?
      exact Option.some.inj hlast? ▸ List.getLast_mem hb
    exact absurd (hblanks dot hmem).1 (Nat.not_le.mpr hdot)
  rw [step_of_not_dots hunbroken hdots, walk_last (unbroken_of_forall hlast)]
  intro heq
  have hlength := congrArg String.length heq
  have hslash : "/".length = 1 := rfl
  have hlong : 0 < (encoded inPath blanks).length := length_encoded_pos hb
  rw [text_concat, encoded_append] at hlength
  simp only [String.length_append, hslash] at hlength
  split at hlength
  · rename_i hdots
    have hstep := length_step_dots (unbroken_of_forall hlast) hdots segments
    rw [slashed_text (by decide), if_pos rfl, String.length_append, hslash] at hlength
    omega
  · have hle := length_slashed_le (UrlPath.nested (segments ++ [encoded inPath last])).text
    rw [text_concat, String.length_append, String.length_append, hslash] at hle
    rw [text_concat] at hlength
    omega

/-- Without blanks, the slash leads into the segment before it, unless that is empty. -/
theorem step_slashed_iff {last : List Char} (hlast : ∀ c ∈ last, isBreak c = false)
    (hplain : ∀ c ∈ last, isSlash .web c = false) (segments : List String) :
    (UrlPath.nested (step .web segments last)).text ++ "/" =
        Client.slashed (UrlPath.nested (walk .web segments [last])).text ↔
      last ≠ [] := by
  have hunbroken := unbroken_of_forall hlast
  rw [walk_last hunbroken]
  split
  · rename_i hdots
    rw [slashed_text (by decide), if_pos rfl]
    refine ⟨fun _ hnil => ?_, fun _ => rfl⟩
    rw [hnil] at hdots
    exact absurd hdots (by decide)
  · rename_i hdots
    have hsegment : '/' ∉ (encoded inPath last).toList :=
      not_mem_encoded fun hs => absurd (hplain _ hs) (by decide)
    rw [step_of_not_dots hunbroken (Bool.eq_false_iff.mpr hdots), slashed_text hsegment,
      text_concat]
    cases last with
    | nil =>
        refine ⟨fun heq => ?_, fun h => absurd rfl h⟩
        have hslash : "/".length = 1 := rfl
        have hempty : encoded inPath [] = "" := rfl
        have hlength := congrArg String.length heq
        rw [if_pos hempty, String.length_append, String.length_append, hslash] at hlength
        omega
    | cons c last =>
        have hlong : 0 < (encoded inPath (c :: last)).length :=
          length_encoded_pos (List.cons_ne_nil _ _)
        have hne : encoded inPath (c :: last) ≠ "" := by
          intro hempty
          rw [hempty] at hlong
          exact absurd hlong (by decide)
        rw [if_neg hne]
        exact ⟨fun _ => List.cons_ne_nil _ _, fun _ => rfl⟩

/-- With blanks and a slash behind it a path leads into the whole path that it was before, just when
there are no blanks and it did not end in a slash itself. -/
theorem segmentsOf_slashed {cs blanks : List Char} (unbrokenCs : ∀ c ∈ cs, isBreak c = false)
    (hblanks : ∀ c ∈ blanks, c.toNat ≤ 0x20 ∧ isBreak c = false) :
    ∃ above, segmentsOf (cs ++ (blanks ++ ['/'])) = above ++ [""] ∧
      ((UrlPath.nested above).text ++ "/" =
          Client.slashed (UrlPath.nested (segmentsOf cs)).text ↔
        blanks = [] ∧ ∃ z ∈ cs.getLast?, isSlash .web z = false) := by
  have plain : ∀ c ∈ blanks, isSlash .web c = false := fun c hc =>
    isSlash_blank (hblanks c hc).1
  obtain ⟨init, last, hparts, hmem, hlast, hends, hslashed⟩ := pathParts_slashed cs
  have hlastUnbroken : ∀ c ∈ last, isBreak c = false := fun c hc => unbrokenCs c (hmem c hc)
  have hwalk : segmentsOf cs = walk .web [] (init ++ [last]) := congrArg (walk .web []) hparts
  have hwalk' : segmentsOf (cs ++ (blanks ++ ['/'])) =
      walk .web [] (init ++ [last ++ blanks] ++ [[]]) :=
    congrArg (walk .web []) (hslashed blanks plain)
  refine ⟨step .web (init.foldl (step .web) []) (last ++ blanks), ?_, ?_⟩
  · rw [hwalk', walk_concat, List.foldl_append]
    rfl
  · rw [hwalk, walk_concat]
    by_cases hb : blanks = []
    · subst hb
      rw [List.append_nil, step_slashed_iff hlastUnbroken hlast, Ne, hends]
      cases cs.getLast? <;> simp
    · exact iff_of_false (step_blank_ne hlastUnbroken hblanks hb _) fun h => hb h.1

/-! ## Base URLs -/

/-- The text that resources are put behind at this base. -/
def lead (u : Url) : String :=
  (UrlPath.nested u.segments.dropLast).text ++ "/"

theorem above_eq_slashed_iff {above : List String} {segment : String} (h : '/' ∉ segment.toList) :
    (UrlPath.nested above).text ++ "/" =
        Client.slashed (UrlPath.nested (above ++ [segment])).text ↔ segment = "" := by
  rw [slashed_text h]
  by_cases hs : segment = ""
  · rw [if_pos hs]
    exact iff_of_true rfl hs
  · rw [if_neg hs]
    refine iff_of_false (fun heq => ?_) hs
    have hslash : "/".length = 1 := rfl
    have hlength := congrArg String.length heq
    simp only [String.length_append, hslash] at hlength
    omega

theorem tailParts_query (k : SchemeKind) (rest : List Char) :
    ∃ query fragment, tailParts k ('?' :: rest) = (some query, fragment) := by
  simp only [tailParts]
  split <;> exact ⟨_, _, rfl⟩

section

variable (scheme : String) (a : Authority) {cs : List Char}

theorem rooted_segments : (rooted scheme a cs).segments = segmentsOf (cs.takeWhile (!endsPath ·)) :=
  rfl

theorem rooted_text :
    (rooted scheme a cs).path.text =
      (UrlPath.nested (segmentsOf (cs.takeWhile (!endsPath ·)))).text :=
  rfl

theorem rooted_tail_iff :
    (rooted scheme a cs).query = none ∧ (rooted scheme a cs).fragment = none ↔
      ∀ c ∈ cs, endsPath c = false := by
  have hall : (∀ c ∈ cs, endsPath c = false) ↔ cs.dropWhile (!endsPath ·) = [] := by
    simp [List.dropWhile_eq_nil_iff]
  have hquery : (rooted scheme a cs).query =
      (tailParts .web (unbroken (cs.dropWhile (!endsPath ·)))).1 := rfl
  have hfragment : (rooted scheme a cs).fragment =
      (tailParts .web (unbroken (cs.dropWhile (!endsPath ·)))).2 := rfl
  rw [hall, hquery, hfragment]
  cases hdrop : cs.dropWhile (!endsPath ·) with
  | nil => exact iff_of_true ⟨rfl, rfl⟩ rfl
  | cons c rest =>
      have hc : endsPath c = true := by
        have hnot := List.head?_dropWhile_not (!endsPath ·) cs
        rw [hdrop] at hnot
        simpa using hnot
      simp only [endsPath, Bool.or_eq_true, decide_eq_true_eq] at hc
      refine iff_of_false (fun hnone => ?_) (List.cons_ne_nil _ _)
      rcases hc with rfl | rfl
      · obtain ⟨query, fragment, htail⟩ := tailParts_query .web (unbroken rest)
        have hsome : (tailParts .web ('?' :: unbroken rest)).1 = none := hnone.1
        rw [htail] at hsome
        cases hsome
      · cases hnone.2

/-- Resources are put behind all of the path of a base just when that ends in a slash. -/
theorem lead_rooted_iff (unbrokenCs : ∀ c ∈ cs, isBreak c = false) :
    (rooted scheme a cs).lead = Client.slashed (rooted scheme a cs).path.text ↔
      (rooted scheme a cs).path.text.toList.getLast? = some '/' := by
  obtain ⟨above, segment, hs, hsegment, _⟩ := segmentsOf_last fun c hc =>
    unbrokenCs c ((List.takeWhile_prefix (!endsPath ·)).subset hc)
  rw [lead, rooted_segments, rooted_text, hs, List.dropLast_concat, above_eq_slashed_iff hsegment,
    getLast?_text_iff hsegment]

/-- The path of a base ends in a slash when its text does. -/
theorem rooted_ends (unbrokenCs : ∀ c ∈ cs, isBreak c = false)
    (plain : ∀ c ∈ cs, endsPath c = false) (ends : ∀ z ∈ cs.getLast?, isSlash .web z = true) :
    (rooted scheme a cs).path.text.toList.getLast? = some '/' := by
  have htake : cs.takeWhile (!endsPath ·) = cs :=
    List.takeWhile_eq_self_iff.mpr fun c hc => by rw [plain c hc]; rfl
  obtain ⟨above, segment, hs, hsegment, hempty⟩ := segmentsOf_last unbrokenCs
  rw [rooted_text, htake, hs, getLast?_text_iff hsegment]
  exact hempty ends

/-- With blanks and a slash behind its text, a base without query and fragment puts resources behind
the path it had before, unless there are blanks or the text ended in a slash. -/
theorem lead_slashed_iff {blanks : List Char} (unbrokenCs : ∀ c ∈ cs, isBreak c = false)
    (hblanks : ∀ c ∈ blanks, c.toNat ≤ 0x20 ∧ isBreak c = false)
    (plain : ∀ c ∈ cs, endsPath c = false) :
    (rooted scheme a (cs ++ (blanks ++ ['/']))).lead =
        Client.slashed (rooted scheme a cs).path.text ↔
      blanks = [] ∧ ∃ z ∈ cs.getLast?, isSlash .web z = false := by
  have htake : cs.takeWhile (!endsPath ·) = cs :=
    List.takeWhile_eq_self_iff.mpr fun c hc => by rw [plain c hc]; rfl
  have htake' : (cs ++ (blanks ++ ['/'])).takeWhile (!endsPath ·) = cs ++ (blanks ++ ['/']) := by
    refine List.takeWhile_eq_self_iff.mpr fun c hc => ?_
    rcases List.mem_append.mp hc with hc | hc
    · rw [plain c hc]
      rfl
    · rcases List.mem_append.mp hc with hc | hc
      · rw [endsPath_blank (hblanks c hc).1]
        rfl
      · cases List.mem_singleton.mp hc
        rfl
  obtain ⟨above, hs, hiff⟩ := segmentsOf_slashed unbrokenCs hblanks
  rw [lead, rooted_segments, rooted_text, htake, htake', hs, List.dropLast_concat]
  exact hiff

/-- What ends the path stands before anything put behind the text, so that does not touch it. -/
theorem lead_append_iff (unbrokenCs : ∀ c ∈ cs, isBreak c = false)
    (stops : ¬ ∀ c ∈ cs, endsPath c = false) (behind : List Char) :
    (rooted scheme a (cs ++ behind)).lead = Client.slashed (rooted scheme a cs).path.text ↔
      (rooted scheme a cs).path.text.toList.getLast? = some '/' := by
  have htake : (cs ++ behind).takeWhile (!endsPath ·) = cs.takeWhile (!endsPath ·) := by
    rw [List.takeWhile_append, if_neg]
    intro hlength
    have hall := (List.takeWhile_prefix (!endsPath ·)).eq_of_length hlength
    refine stops fun c hc => ?_
    rw [← hall] at hc
    simpa using List.mem_takeWhile_imp hc
  rw [← lead_rooted_iff scheme a unbrokenCs, lead, lead, rooted_segments, rooted_segments, htake]

end

end Url

/-! ## Resources below a base -/

namespace Client

/-- The path of a base URL stays whole in front of resources: its text goes on behind the path, and
that ends in a slash; or its text ends in one; or in a character of the path that is neither a blank
nor a slash. -/
def KeepsPath (raw : String) (given : Url) : Prop :=
  if given.query = none ∧ given.fragment = none then
    raw.toList.getLast? = some '/' ∨
      ∃ z ∈ (Url.unbroken raw.toList).getLast?, 0x20 < z.toNat ∧ Url.isSlash .web z = false
  else given.path.text.toList.getLast? = some '/'

section

open Url

theorem baseUrl_ofText {raw : String} {base : Url} (h : baseUrl raw = .ok base) :
    ofText (slashed raw) = .ok base := by
  unfold baseUrl at h
  split at h
  · cases h
  · rename_i ht
    split at h
    · cases h
      exact ht
    · cases h

theorem reading_of_baseUrl {raw : String} {base : Url} (h : baseUrl raw = .ok base) :
    ∃ scheme address blanks, Reading raw scheme address blanks := by
  have hk : schemeKind base.scheme = .web := by
    rcases baseUrl_scheme h with hs | hs <;> rw [hs] <;> decide
  have ht := baseUrl_ofText h
  unfold slashed at ht
  split at ht
  · obtain ⟨scheme, rest, hsplit, hweb, hu⟩ := ofText_web ht hk
    refine ⟨scheme, _, reading_of_scheme hsplit hweb fun hnil => ?_⟩
    obtain ⟨front, b, hb, _⟩ := authority_last hweb hu
    rw [hnil] at hb
    cases front <;> cases hb
  · obtain ⟨scheme, rest, hsplit, hweb, hu⟩ := ofText_web ht hk
    obtain ⟨lead, blanks, _, hkept, hblanks, _⟩ := trimmed_split raw
    have hbehind : ':' ∉ blanks ++ ['/'] := not_mem_blanks hblanks
    rw [trimmed_slash, hkept, List.append_assoc, splitScheme_append_iff hbehind] at hsplit
    obtain ⟨rest', hsplit', rfl⟩ := hsplit
    refine ⟨scheme, _, reading_of_scheme hsplit' hweb fun hnil => ?_⟩
    -- Without an authority before the blanks, they would be it.
    obtain ⟨front, b, hb, hlow⟩ := authority_last hweb hu
    rw [unbroken_append, List.dropWhile_append, hnil] at hb
    have hmem : b ∈ ((unbroken (blanks ++ ['/'])).dropWhile (isSlash .web)).takeWhile
        (!endsAuthority .web ·) := by
      rw [List.isEmpty_nil, if_pos rfl] at hb
      rw [hb]
      exact List.mem_append_right _ List.mem_cons_self
    have hends := List.mem_takeWhile_imp hmem
    have hin : b ∈ blanks ++ ['/'] := (List.mem_filter.mp
      ((List.dropWhile_suffix _).subset ((List.takeWhile_prefix _).subset hmem))).1
    rcases List.mem_append.mp hin with hin | hin
    · exact absurd (hblanks b hin) (Nat.not_le.mpr hlow)
    · cases List.mem_singleton.mp hin
      exact absurd hends (by decide)

variable {raw scheme : String} {address blanks : List Char} {base : Url}

/-- A text that ends in a slash is read as it is. -/
theorem lead_iff_of_slash (r : Reading raw scheme address blanks)
    (hs : raw.toList.getLast? = some '/') (h : ofText raw = .ok base) :
    base.lead = slashed base.path.text ↔ KeepsPath raw base := by
  obtain ⟨a, _, rfl⟩ := (afterSlashes_web r.web).mp (r.given.symm.trans h)
  have hsuffix := behindAuthority_suffix address
  have hunbroken : ∀ c ∈ behindAuthority address, isBreak c = false := fun c hc =>
    r.unbroken_address (hsuffix.subset hc)
  rw [lead_rooted_iff scheme a hunbroken]
  unfold KeepsPath
  split
  · rename_i htail
    refine iff_of_true (rooted_ends scheme a hunbroken ((rooted_tail_iff scheme a).mp htail) ?_)
      (Or.inl hs)
    intro z hz
    have hlast : (unbroken raw.toList).getLast? = some '/' := by
      obtain ⟨front, hfront⟩ := List.getLast?_eq_some_iff.mp hs
      rw [hfront, unbroken_append]
      exact List.getLast?_concat
    have hne : behindAuthority address ≠ [] := fun hnil => by
      rw [hnil] at hz
      cases hz
    rw [← getLast?_of_suffix hsuffix hne] at hz
    have hblanks := r.blanks_eq_nil hlast (by decide)
    rw [r.getLast?, hblanks, List.append_nil] at hlast
    cases hlast.symm.trans hz
    rfl
  · exact Iff.rfl

/-- Without a path, the slash is the path that the text had anyway. -/
theorem lead_iff_of_authority (r : Reading raw scheme address blanks)
    (hnone : ∀ c ∈ address, endsAuthority .web c = false) (h : ofText (raw ++ "/") = .ok base) :
    ∃ given, ofText raw = .ok given ∧
      (base.lead = slashed given.path.text ↔ KeepsPath raw given) := by
  have hpass : ∀ c ∈ address ++ blanks, endsAuthority .web c = false := fun c hc =>
    (List.mem_append.mp hc).elim (hnone c) fun hc => endsAuthority_blank (r.blank c hc)
  have hreads := r.slashed.symm.trans h
  rw [← List.append_assoc, afterSlashes_plain r.web hpass (Or.inr rfl)] at hreads
  obtain ⟨a, ha, rfl⟩ := hreads
  obtain ⟨front, b, hb, hlow⟩ :=
    readAuthority_last r.web (fun hmem => absurd (hpass _ hmem) (by decide)) ha
  have hlast : (unbroken raw.toList).getLast? = some b := by
    rw [r.getLast?, hb, List.getLast?_concat]
  obtain rfl := r.blanks_eq_nil hlast hlow
  rw [List.append_nil] at ha hb
  have hgiven := (afterSlashes_plain r.web hnone (Or.inl rfl)).mpr ⟨a, ha, rfl⟩
  rw [List.append_nil] at hgiven
  refine ⟨rooted scheme a [], r.given.trans hgiven, ?_⟩
  have hends : (rooted scheme a []).path.text.toList.getLast? = some '/' :=
    rooted_ends scheme a (List.forall_mem_nil _) (List.forall_mem_nil _) nofun
  refine iff_of_true ((lead_rooted_iff scheme a (List.forall_mem_nil _)).mpr hends) ?_
  have hplain := hnone b (hb ▸ List.mem_append_right _ List.mem_cons_self)
  simp only [endsAuthority, Bool.or_eq_false_iff] at hplain
  unfold KeepsPath
  rw [if_pos ((rooted_tail_iff scheme a).mpr (List.forall_mem_nil _))]
  exact Or.inr ⟨b, hlast, hlow, hplain.1.1⟩

/-- With a slash put behind a text that ends otherwise, what counts is the character before it. -/
theorem lead_iff_of_path (r : Reading raw scheme address blanks)
    (hs : raw.toList.getLast? ≠ some '/') (hne : address.dropWhile (!endsAuthority .web ·) ≠ [])
    (h : ofText (raw ++ "/") = .ok base) :
    ∃ given, ofText raw = .ok given ∧
      (base.lead = slashed given.path.text ↔ KeepsPath raw given) := by
  have hunbroken : ∀ c ∈ behindAuthority address, isBreak c = false := fun c hc =>
    r.unbroken_address ((behindAuthority_suffix address).subset hc)
  obtain ⟨a, ha, rfl⟩ := (afterSlashes_append r.web hne _).mp (r.slashed.symm.trans h)
  refine ⟨rooted scheme a (behindAuthority address),
    r.given.trans ((afterSlashes_web r.web).mpr ⟨a, ha, rfl⟩), ?_⟩
  unfold KeepsPath
  by_cases plain : ∀ c ∈ behindAuthority address, endsPath c = false
  · rw [lead_slashed_iff scheme a hunbroken (fun c hc => r.unbroken_blanks hc) plain,
      if_pos ((rooted_tail_iff scheme a).mpr plain)]
    constructor
    · rintro ⟨rfl, z, hz, hplain⟩
      have hend := (getLast?_behindAuthority_iff hne plain hplain).mp hz
      refine Or.inr ⟨z, ?_, r.last z hend, hplain⟩
      rw [r.getLast?, List.append_nil]
      exact hend
    · rintro (hslash | ⟨z, hz, hlow, hplain⟩)
      · exact absurd hslash hs
      · have hblanks := r.blanks_eq_nil hz hlow
        rw [r.getLast?, hblanks, List.append_nil] at hz
        exact ⟨hblanks, z, (getLast?_behindAuthority_iff hne plain hplain).mpr hz, hplain⟩
  · rw [lead_append_iff scheme a hunbroken plain, if_neg (mt (rooted_tail_iff scheme a).mp plain)]

theorem lead_base_iff {raw : String} {base : Url} (h : baseUrl raw = .ok base) :
    ∃ given, ofText raw = .ok given ∧
      (base.lead = slashed given.path.text ↔ KeepsPath raw given) := by
  obtain ⟨scheme, address, blanks, r⟩ := reading_of_baseUrl h
  have ht := baseUrl_ofText h
  unfold slashed at ht
  split at ht
  · rename_i hs
    exact ⟨base, ht, lead_iff_of_slash r hs ht⟩
  · rename_i hs
    by_cases hne : address.dropWhile (!endsAuthority .web ·) = []
    · refine lead_iff_of_authority r (fun c hc => ?_) ht
      simpa using List.dropWhile_eq_nil_iff.mp hne c hc
    · exact lead_iff_of_path r hs hne ht

end

theorem text_joined {parts : List String} (h : parts ≠ []) :
    (UrlPath.nested parts).text = "/" ++ String.ofList (Url.joined parts) := by
  induction parts with
  | nil => exact absurd rfl h
  | cons part rest ih =>
      cases rest with
      | nil =>
          have hone : (UrlPath.nested [part]).text = "/" ++ part ++ "" := rfl
          rw [hone, Url.joined, String.ofList_toList, String.append_empty]
      | cons next rest =>
          have hmore : (UrlPath.nested (part :: next :: rest)).text =
              "/" ++ part ++ (UrlPath.nested (next :: rest)).text := rfl
          have hslash : String.ofList ('/' :: Url.joined (next :: rest)) =
              "/" ++ String.ofList (Url.joined (next :: rest)) := by
            rw [← List.singleton_append, String.ofList_append]
          have hjoined : Url.joined (part :: next :: rest) =
              part.toList ++ '/' :: Url.joined (next :: rest) := rfl
          rw [hmore, ih (List.cons_ne_nil _ _), hjoined, String.ofList_append, hslash,
            String.ofList_toList, String.append_assoc]

/-- A resource is asked for below the base URL that was given, with the query of its endpoint: at the
path of that URL, with a slash behind it if it has none, and then the path of the endpoint. That is
so exactly when the slash put behind the text of the base URL ends its path: not after a query or a
fragment, unless the path before it ends in a slash, and not after blanks or another slash that do
not count at the end of the text. -/
theorem resolve_below_iff {config : ClientConfig} {c : Client} (h : ofConfig config = .ok c)
    (x : Resource) :
    ∃ given url path, Url.ofText config.baseUrl = .ok given ∧ c.resolve x.endpoint = .ok url ∧
      x.endpoint.toList = '/' :: (path.toList ++ Url.queryChars x.query?) ∧ '?' ∉ path.toList ∧
      url.query = x.query? ∧
      (url.path.text = slashed given.path.text ++ path ↔ KeepsPath config.baseUrl given) := by
  obtain ⟨given, hgiven, hiff⟩ := lead_base_iff (ofConfig_base h)
  refine ⟨given, c.urlOf x, String.ofList (Url.joined x.parts), hgiven,
    (grounded_of_config h).resolve_eq x, ?_, ?_, rfl, ?_⟩
  · rw [String.toList_ofList]
    exact x.endpoint_eq
  · rw [String.toList_ofList]
    intro hmem
    rcases Url.mem_joined x.plain_parts hmem with hmark | hmark <;> exact absurd hmark (by decide)
  · have htext : (c.urlOf x).path.text =
        c.base.lead ++ String.ofList (Url.joined x.parts) := by
      have hpath : (c.urlOf x).path = .nested (c.base.segments.dropLast ++ x.parts) := rfl
      rw [hpath, UrlPath.text_append, text_joined x.parts_ne_nil, Url.lead, String.append_assoc]
    rw [htext, String.append_left_inj]
    exact hiff

/-- Behind a query the slash does not end the path, and a resource takes the place of its last
segment. -/
theorem query_hides_path :
    let config : ClientConfig := { baseUrl := "http://camera.local/motion?x=1" }
    let base : Url :=
      { scheme := "http", authority := some ⟨"", none, "camera.local", none⟩,
        path := .nested ["motion"], query := some "x=1/", fragment := none }
    let url : Url := { base with path := .nested ["0", "api", "config"], query := none }
    ofConfig config = .ok ⟨config, base⟩ ∧
      resolve ⟨config, base⟩ Resource.config.endpoint = .ok url ∧
      url.text = "http://camera.local/0/api/config" ∧
      ∃ given, Url.ofText config.baseUrl = .ok given ∧ ¬ KeepsPath config.baseUrl given ∧
        slashed given.path.text = "/motion/" ∧ url.path.text ≠ "/motion/" ++ "0/api/config" := by
  intro config base url
  have hc : ofConfig config = .ok ⟨config, base⟩ := by decide +kernel
  have hr : resolve ⟨config, base⟩ Resource.config.endpoint = .ok url := by decide +kernel
  have hg : Url.ofText config.baseUrl = .ok { base with query := some "x=1" } := by decide +kernel
  have hlost : ¬ KeepsPath config.baseUrl { base with query := some "x=1" } := by
    unfold KeepsPath
    decide +kernel
  have hslashed : slashed (UrlPath.nested ["motion"]).text = "/motion/" := by decide +kernel
  obtain ⟨given, url', path, hgiven, hurl, hendpoint, _, _, hiff⟩ := resolve_below_iff hc .config
  cases hg.symm.trans hgiven
  cases hr.symm.trans hurl
  obtain rfl : path = "0/api/config" := by
    have hpath : "0/api/config".toList = path.toList ++ [] := (List.cons.inj hendpoint).2
    rw [List.append_nil] at hpath
    exact (String.toList_inj.mp hpath).symm
  refine ⟨hc, hr, by decide +kernel, _, hg, hlost, hslashed, fun heq => hlost (hiff.mp ?_)⟩
  exact heq.trans (congrArg (· ++ "0/api/config") hslashed.symm)

end Client

end CameraConsole
