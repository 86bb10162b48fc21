import CameraConsole.Console.Command
import CameraConsole.Proofs.Members
import Mathlib.Data.List.TakeWhile

/-!
# Command lines

Which arguments the console takes: options with their values, a command, and behind it what this
command has parameters for. Arguments beyond these make no difference.
-/

namespace CameraConsole

/-! ## Numerals -/

namespace Text

/-- The text writes this number: decimal digits, after an optional plus sign. -/
def Numeral (s : String) (n : Nat) : Prop :=
  ∃ digits, (s.toList = digits ∨ s.toList = '+' :: digits) ∧ digits ≠ [] ∧
    (∀ c ∈ digits, c.isDigit) ∧ Nat.ofDigitChars 10 digits 0 = n

theorem digitValue?_digit {c : Char} (h : c.isDigit) :
    digitValue? c = some (c.toNat - '0'.toNat) := by
  unfold Char.isDigit at h
  rw [Bool.and_eq_true, decide_eq_true_eq, decide_eq_true_eq] at h
  exact if_pos h

theorem digitValue?_other {c : Char} (h : ¬ c.isDigit) : digitValue? c = none := by
  unfold Char.isDigit at h
  rw [Bool.and_eq_true, decide_eq_true_eq, decide_eq_true_eq] at h
  exact if_neg h

theorem le_ofDigitChars (cs : List Char) (value : Nat) : value ≤ Nat.ofDigitChars 10 cs value := by
  induction cs generalizing value with
  | nil => exact Nat.le_refl _
  | cons c cs ih =>
      rw [Nat.ofDigitChars_cons]
      have h := ih (10 * value + (c.toNat - '0'.toNat))
      omega

/-- The limit is checked after every digit, and that is as good as at the end: further digits never
make a number smaller. -/
theorem readDigits_eq_ok_iff {limit value n : Nat} {cs : List Char} (h : value ≤ limit) :
    readDigits limit value cs = .ok n ↔
      (∀ c ∈ cs, c.isDigit) ∧ Nat.ofDigitChars 10 cs value = n ∧ n ≤ limit := by
  induction cs generalizing value with
  | nil =>
      simp only [readDigits, Except.ok.injEq, List.not_mem_nil, false_implies, implies_true,
        true_and, Nat.ofDigitChars_nil]
      exact ⟨fun he => ⟨he, he ▸ h⟩, fun he => he.1⟩
  | cons c cs ih =>
      rw [Nat.ofDigitChars_cons, List.forall_mem_cons]
      by_cases hc : c.isDigit
      · simp only [readDigits, digitValue?_digit hc, hc, true_and, Nat.mul_comm value 10]
        by_cases hl : 10 * value + (c.toNat - '0'.toNat) ≤ limit
        · rw [if_pos hl, ih hl]
        · rw [if_neg hl]
          refine ⟨nofun, fun ⟨_, hn, hle⟩ => ?_⟩
          have hge := le_ofDigitChars cs (10 * value + (c.toNat - '0'.toNat))
          omega
      · simp [readDigits, digitValue?_other hc, hc]

theorem readNumeral_eq_ok_iff {limit n : Nat} {s : String} :
    readNumeral limit s = .ok n ↔ Numeral s n ∧ n ≤ limit := by
  have plus : ¬ '+'.isDigit := by decide
  unfold readNumeral Numeral
  generalize s.toList = cs
  split
  · simp
  · simp [plus]
  · rename_i digits hne
    rw [readDigits_eq_ok_iff (Nat.zero_le limit)]
    constructor
    · rintro ⟨hd, hn, hle⟩
      exact ⟨⟨digits, Or.inr rfl, fun he => hne (by rw [he]), hd, hn⟩, hle⟩
    · rintro ⟨⟨ds, rfl | he, _, hd, hn⟩, hle⟩
      · exact absurd (hd '+' List.mem_cons_self) plus
      · cases he
        exact ⟨hd, hn, hle⟩
  · rename_i hnil _ hplus
    rw [readDigits_eq_ok_iff (Nat.zero_le limit)]
    constructor
    · rintro ⟨hd, hn, hle⟩
      exact ⟨⟨cs, Or.inl rfl, hnil, hd, hn⟩, hle⟩
    · rintro ⟨⟨ds, rfl | rfl, _, hd, hn⟩, hle⟩
      · exact ⟨hd, hn, hle⟩
      · exact absurd rfl (hplus ds)

theorem isOk_readNumeral_iff {size : Nat} (h : 0 < size) {s : String} :
    (readNumeral (size - 1) s).isOk ↔ ∃ n < size, Numeral s n := by
  have hl (n : Nat) : n ≤ size - 1 ↔ n < size := by omega
  rw [isOk_iff_exists]
  simp only [readNumeral_eq_ok_iff, hl, and_comm]

end Text

/-! ## Options -/

namespace Options

/-- The arguments that give options these values. -/
def words (given : List (String × String)) : List String :=
  given.flatMap fun x => [x.1, x.2]

/-- The options that were given. Of several values for one option the last counts. -/
def ofGiven (given : List (String × String)) : Options where
  url := given.reverse.lookup "--url"
  user := given.reverse.lookup "--user"
  password := given.reverse.lookup "--password"

theorem isOption_iff {name : String} :
    isOption name ↔ name = "--url" ∨ name = "--user" ∨ name = "--password" := by
  simp only [isOption, Bool.or_eq_true, decide_eq_true_eq, or_assoc]

theorem set?_given {name : String} (h : isOption name) (given : List (String × String))
    (value : String) :
    (ofGiven given).set? name value = some (ofGiven (given ++ [(name, value)])) := by
  simp only [ofGiven, List.reverse_append, List.reverse_cons, List.reverse_nil, List.nil_append,
    List.cons_append]
  rcases isOption_iff.mp h with rfl | rfl | rfl <;> rfl

theorem set?_other {name : String} (h : ¬ isOption name) (o : Options) (value : String) :
    o.set? name value = none := by
  rw [isOption_iff, not_or, not_or] at h
  simp only [set?, h, ↓reduceIte]

theorem read_words {given : List (String × String)} (h : ∀ x ∈ given, isOption x.1)
    (before : List (String × String)) (rest : List String) :
    (ofGiven before).read (words given ++ rest) = (ofGiven (before ++ given)).read rest := by
  induction given generalizing before with
  | nil => rw [List.append_nil]; rfl
  | cons x given ih =>
      obtain ⟨name, value⟩ := x
      rw [List.forall_mem_cons] at h
      show (ofGiven before).read (name :: value :: (words given ++ rest)) = _
      rw [read, set?_given h.1]
      dsimp only
      rw [ih h.2, List.append_assoc, List.singleton_append]

theorem read_command {command : String} (h : ¬ isOption command) (o : Options)
    (args : List String) : o.read (command :: args) = .ok (o, command :: args) := by
  cases args with
  | nil => rw [read, if_neg h]
  | cons value rest => rw [read, set?_other h]

/-- Behind the options come a command, nothing, or an option that lacks its value. -/
theorem exists_words (args : List String) :
    ∃ given rest, args = words given ++ rest ∧ (∀ x ∈ given, isOption x.1) ∧
      ((∃ command more, rest = command :: more ∧ ¬ isOption command) ∨ rest = [] ∨
        ∃ name, rest = [name] ∧ isOption name) := by
  match args with
  | [] => exact ⟨[], [], rfl, nofun, Or.inr (Or.inl rfl)⟩
  | [name] =>
      refine ⟨[], [name], rfl, nofun, ?_⟩
      by_cases h : isOption name
      · exact Or.inr (Or.inr ⟨name, rfl, h⟩)
      · exact Or.inl ⟨name, [], rfl, h⟩
  | name :: value :: args =>
      by_cases h : isOption name
      · obtain ⟨given, rest, rfl, hg, hr⟩ := exists_words args
        exact ⟨(name, value) :: given, rest, rfl, List.forall_mem_cons.mpr ⟨h, hg⟩, hr⟩
      · exact ⟨[], name :: value :: args, rfl, nofun, Or.inl ⟨name, value :: args, rfl, h⟩⟩

/-- The arguments give options these values, and what is left begins with no option. -/
structure Splits (args : List String) (given : List (String × String)) (rest : List String) :
    Prop where
  arguments : args = words given ++ rest
  options : ∀ x ∈ given, isOption x.1
  plain : ∀ first ∈ rest.head?, ¬ isOption first

/-- The arguments give options these values, and end in one more option, which gets none. -/
structure Dangles (args : List String) (given : List (String × String)) (name : String) :
    Prop where
  arguments : args = words given ++ [name]
  options : ∀ x ∈ given, isOption x.1
  option : isOption name

/-- What an option holds when these values were given: its last one, or nothing. -/
inductive Holds (given : List (String × String)) (name : String) : Option String → Prop where
  | nothing (absent : ∀ x ∈ given, x.1 ≠ name) : Holds given name none
  | last {before after : List (String × String)} {value : String}
      (place : given = before ++ (name, value) :: after) (later : ∀ x ∈ after, x.1 ≠ name) :
      Holds given name (some value)

variable {args rest rest' : List String} {given given' : List (String × String)} {name : String}

theorem holds_lookup (given : List (String × String)) (name : String) :
    Holds given name (given.reverse.lookup name) := by
  cases h : given.reverse.lookup name with
  | none =>
      refine .nothing fun x hx he => ?_
      have hne := List.lookup_eq_none_iff.mp h x (List.mem_reverse.mpr hx)
      exact bne_iff_ne.mp hne he.symm
  | some value =>
      obtain ⟨before, after, place, later⟩ := lookup_reverse_eq_some_iff.mp h
      exact .last place later

theorem Splits.read_eq (h : Splits args given rest) : read {} args = .ok (ofGiven given, rest) := by
  have hwords : read {} args = (ofGiven given).read rest := by
    rw [h.arguments]
    exact read_words h.options [] rest
  rw [hwords]
  cases rest with
  | nil => rfl
  | cons first more => exact read_command (h.plain first rfl) _ more

theorem Dangles.read_eq (h : Dangles args given name) :
    read {} args = .error (.missingValue name) := by
  have hwords : read {} args = (ofGiven given).read [name] := by
    rw [h.arguments]
    exact read_words h.options [] [name]
  rw [hwords, read, if_pos h.option]

theorem splits_or_dangles (args : List String) :
    (∃ given rest, Splits args given rest) ∨ ∃ given name, Dangles args given name := by
  obtain ⟨given, rest, rfl, options, ⟨command, more, rfl, plain⟩ | rfl | ⟨name, rfl, option⟩⟩ :=
    exists_words args
  · refine Or.inl ⟨given, command :: more, rfl, options, fun first hf => ?_⟩
    cases hf
    exact plain
  · exact Or.inl ⟨given, [], rfl, options, fun first hf => by cases hf⟩
  · exact Or.inr ⟨given, name, rfl, options, option⟩

theorem words_inj (h : words given = words given') : given = given' := by
  induction given generalizing given' with
  | nil =>
      cases given' with
      | nil => rfl
      | cons x given' => cases h
  | cons x given ih =>
      cases given' with
      | nil => cases h
      | cons x' given' =>
          have hx : x.1 :: x.2 :: words given = x'.1 :: x'.2 :: words given' := h
          injection hx with hname hx
          injection hx with hvalue hrest
          rw [Prod.ext hname hvalue, ih hrest]

/-- Reading is what tells where the options end, so there is one place only. -/
theorem Splits.unique (h : Splits args given rest) (h' : Splits args given' rest') :
    given' = given ∧ rest' = rest := by
  have hread := h'.read_eq.symm.trans h.read_eq
  have hrest : rest' = rest := congrArg Prod.snd (Except.ok.inj hread)
  subst hrest
  have hwords : words given' ++ rest' = words given ++ rest' :=
    h'.arguments.symm.trans h.arguments
  exact ⟨words_inj (List.append_cancel_right hwords), rfl⟩

/-- Reading fails just when options with their values are followed by one last option, and the fault
names it; a value can be any text, the name of an option too. All other arguments split in one way
into options with their values and a rest that begins with no option. Then the rest comes back as it
is, and every option holds the last value that it was given. -/
theorem read_exactly (args : List String) :
    (∀ fault, read {} args = .error fault ↔
      ∃ given name, Dangles args given name ∧ fault = .missingValue name) ∧
    ((¬ ∃ given name, Dangles args given name) →
      ∃ given rest o, Splits args given rest ∧
        (∀ given' rest', Splits args given' rest' → given' = given ∧ rest' = rest) ∧
        read {} args = .ok (o, rest) ∧
        Holds given "--url" o.url ∧ Holds given "--user" o.user ∧
        Holds given "--password" o.password) := by
  rcases splits_or_dangles args with ⟨given, rest, hs⟩ | ⟨given, name, hd⟩
  · refine ⟨fun fault => ⟨fun he => ?_, ?_⟩, fun _ => ?_⟩
    · cases hs.read_eq.symm.trans he
    · rintro ⟨given', name, hd, rfl⟩
      exact hd.read_eq
    · exact ⟨given, rest, ofGiven given, hs, fun _ _ => hs.unique, hs.read_eq,
        holds_lookup given _, holds_lookup given _, holds_lookup given _⟩
  · refine ⟨fun fault => ⟨fun he => ?_, ?_⟩, fun hn => absurd ⟨given, name, hd⟩ hn⟩
    · cases hd.read_eq.symm.trans he
      exact ⟨given, name, hd, rfl⟩
    · rintro ⟨given', name', hd', rfl⟩
      exact hd'.read_eq

theorem read_exactly_confusing :
    let args := ["--url", "--user", "--url", "http://pi", "status", "--password"]
    (¬ ∃ given name, Dangles args given name) ∧
      read {} args = .ok ({ url := some "http://pi" }, ["status", "--password"]) ∧
      (∃ given rest, Splits args given rest ∧ Holds given "--url" (some "http://pi") ∧
        Holds given "--user" none) ∧
      ∃ given, Dangles ["--user", "--url", "--password"] given "--password" := by
  intro args
  have hread : read {} args = .ok ({ url := some "http://pi" }, ["status", "--password"]) := rfl
  obtain ⟨fails, splits⟩ := read_exactly args
  have whole : ¬ ∃ given name, Dangles args given name := by
    rintro ⟨given, name, hd⟩
    cases hread.symm.trans ((fails _).mpr ⟨given, name, hd, rfl⟩)
  obtain ⟨given, rest, o, hs, _, hr, url, user, _⟩ := splits whole
  cases hread.symm.trans hr
  obtain ⟨given', name, hd, hname⟩ :=
    ((read_exactly ["--user", "--url", "--password"]).1 (.missingValue "--password")).mp rfl
  cases hname
  exact ⟨whole, hread, ⟨given, _, hs, url, user⟩, given', hd⟩

end Options

/-! ## Parameters -/

/-- What a command takes in one place. Changes are all that is left. -/
inductive Parameter where
  | camera
  | media
  | text
  | changes
  deriving DecidableEq

namespace Operation

/-- The parameters of a command; none when there is no such command. -/
def parameters? : String → Option (List Parameter)
  | "cameras" | "temperature" | "status" | "auth" | "config" | "reboot" | "shutdown" => some []
  | "pictures" | "movies" => some [.camera]
  | "set" => some [.camera, .text, .text]
  | "patch" => some [.camera, .changes]
  | "delete-picture" | "delete-movie" => some [.camera, .media]
  | _ => none

/-- The commands that only read. -/
def readingCommands : List String :=
  ["cameras", "pictures", "movies", "temperature", "status", "auth", "config"]

/-- The commands that change something at the daemon. -/
def changingCommands : List String :=
  ["set", "patch", "delete-picture", "delete-movie", "reboot", "shutdown"]

end Operation

/-- A number that a parameter takes is below this one; none when it takes other things. -/
def Parameter.size? : Parameter → Option Nat
  | camera => some UInt32.size
  | media => some UInt64.size
  | text | changes => none

/-- The arguments from its place on are wrong for a parameter. -/
inductive Parameter.Refuses : Parameter → List String → Prop where
  | missing (p : Parameter) : Refuses p []
  | numeral {p : Parameter} {size : Nat} {raw : String} {rest : List String}
      (takes : p.size? = some size) (notOne : ¬ ∃ n < size, Text.Numeral raw n) :
      Refuses p (raw :: rest)
  | changes {raw : String} {items : List String} (item : raw ∈ items)
      (unassigned : '=' ∉ raw.toList) : Refuses changes items

/-- The console has no such command, or one of its parameters refuses the arguments. -/
inductive Misused (command : String) (args : List String) : Prop where
  | unknown (unknown : Operation.parameters? command = none)
  | refused {parameters : List Parameter} {place : Nat} {p : Parameter}
      (takes : Operation.parameters? command = some parameters)
      (parameter : parameters[place]? = some p) (refuses : p.Refuses (args.drop place))

/-! ## Arguments -/

variable {args : List String} {place : Nat}

theorem isOk_positional_iff {name : String} :
    (positional args place name).isOk ↔ ¬ Parameter.text.Refuses (args.drop place) := by
  unfold positional
  rw [← List.head?_drop]
  cases args.drop place with
  | nil => exact ⟨nofun, fun h => absurd (.missing _) h⟩
  | cons raw rest => exact ⟨fun _ => nofun, fun _ => rfl⟩

theorem isOk_numeralArgument_iff {p : Parameter} {size : Nat} (takes : p.size? = some size)
    (name what : String) :
    (numeralArgument name what (size - 1) args place).isOk ↔ ¬ p.Refuses (args.drop place) := by
  have hpos : 0 < size := by cases p <;> cases takes <;> decide
  unfold numeralArgument positional
  rw [← List.head?_drop]
  cases args.drop place with
  | nil => exact ⟨nofun, fun h => absurd (.missing _) h⟩
  | cons raw rest =>
      have hr : p.Refuses (raw :: rest) ↔ ¬ ∃ n < size, Text.Numeral raw n := by
        constructor
        · intro h
          cases h with
          | numeral takes' notOne =>
              cases takes.symm.trans takes'
              exact notOne
          | changes _ _ => cases takes
        · exact .numeral takes
      rw [hr, Classical.not_not, ← Text.isOk_readNumeral_iff hpos,
        ← isOk_mapError (UsageFault.notANumber what raw)]
      rfl

theorem isOk_readChange_iff {raw : String} : (readChange raw).isOk ↔ '=' ∈ raw.toList := by
  have hd : raw.toList.dropWhile (· ≠ '=') = [] ↔ '=' ∉ raw.toList := by
    simp only [List.dropWhile_eq_nil_iff, decide_eq_true_eq, ne_eq]
    exact ⟨fun h hm => h _ hm rfl, fun h c hc he => h (he ▸ hc)⟩
  unfold readChange
  cases hr : raw.toList.dropWhile (· ≠ '=') with
  | nil => exact ⟨nofun, fun h => absurd h (hd.mp hr)⟩
  | cons c value =>
      refine ⟨fun _ => Classical.byContradiction fun h => ?_, fun _ => rfl⟩
      rw [hd.mpr h] at hr
      cases hr

theorem isOk_readChangeList_iff {items : List String} :
    (readChangeList items).isOk ↔ ∀ raw ∈ items, '=' ∈ raw.toList := by
  induction items with
  | nil => exact ⟨fun _ => nofun, fun _ => rfl⟩
  | cons raw items ih =>
      have hb : (readChangeList (raw :: items)).isOk =
          ((readChange raw).isOk && ((readChangeList items).isOk && true)) :=
        isOk_bind fun _ => isOk_bind fun _ => rfl
      rw [hb, Bool.and_true, Bool.and_eq_true, isOk_readChange_iff, ih, List.forall_mem_cons]

theorem isOk_readChanges_iff {items : List String} :
    (readChanges items).isOk ↔ ¬ Parameter.changes.Refuses items := by
  cases items with
  | nil => exact ⟨nofun, fun h => absurd (.missing _) h⟩
  | cons raw items =>
      have hb : (readChanges (raw :: items)).isOk = ((readChangeList (raw :: items)).isOk && true) :=
        isOk_bind fun _ => rfl
      rw [hb, Bool.and_true, isOk_readChangeList_iff]
      constructor
      · intro h hr
        cases hr with
        | numeral takes _ => cases takes
        | changes item unassigned => exact unassigned (h _ item)
      · intro h raw hm
        exact Classical.byContradiction fun hn => h (.changes hm hn)

/-! ## Commands -/

theorem exists_place_cons {q : Parameter} {ps : List Parameter} {P : Nat → Parameter → Prop} :
    (∃ i p, (q :: ps)[i]? = some p ∧ P i p) ↔ P 0 q ∨ ∃ i p, ps[i]? = some p ∧ P (i + 1) p := by
  constructor
  · rintro ⟨_ | i, p, hp, h⟩
    · cases hp; exact Or.inl h
    · exact Or.inr ⟨i, p, hp, h⟩
  · rintro (h | ⟨i, p, hp, h⟩)
    · exact ⟨0, q, rfl, h⟩
    · exact ⟨i + 1, p, hp, h⟩

theorem misused_iff {command : String} {parameters : List Parameter}
    (h : Operation.parameters? command = some parameters) :
    Misused command args ↔ ∃ i p, parameters[i]? = some p ∧ Parameter.Refuses p (args.drop i) := by
  constructor
  · rintro (hn | ⟨ht, hp, hr⟩)
    · cases hn.symm.trans h
    · cases ht.symm.trans h
      exact ⟨_, _, hp, hr⟩
  · rintro ⟨i, p, hp, hr⟩
    exact .refused h hp hr

theorem not_exists_place_nil {P : Nat → Parameter → Prop} :
    ¬ ∃ i p, ([] : List Parameter)[i]? = some p ∧ P i p := by
  rintro ⟨i, p, hp, _⟩
  cases hp

/-- A command is read just when it is used right. -/
theorem isOk_ofCommand_iff (command : String) (args : List String) :
    (Operation.ofCommand command args).isOk ↔ ¬ Misused command args := by
  have plain {command : String} (h : Operation.parameters? command = some []) :
      ¬ Misused command args := fun hm => not_exists_place_nil ((misused_iff h).mp hm)
  have isCamera (place : Nat) :
      (cameraArgument args place).isOk ↔ ¬ Parameter.camera.Refuses (args.drop place) := by
    rw [cameraArgument, isOk_map]
    exact isOk_numeralArgument_iff rfl _ _
  have isMedia (place : Nat) :
      (mediaArgument args place).isOk ↔ ¬ Parameter.media.Refuses (args.drop place) := by
    rw [mediaArgument, isOk_map]
    exact isOk_numeralArgument_iff rfl _ _
  have camera {command : String} (h : Operation.parameters? command = some [.camera]) :
      (cameraArgument args 0).isOk ↔ ¬ Misused command args := by
    simp only [misused_iff h, exists_place_cons, not_exists_place_nil, or_false,
      isCamera]
  have media {command : String} (h : Operation.parameters? command = some [.camera, .media]) :
      ((cameraArgument args 0).isOk && (mediaArgument args 1).isOk) ↔ ¬ Misused command args := by
    simp only [misused_iff h, exists_place_cons, not_exists_place_nil, or_false, not_or,
      Bool.and_eq_true, isCamera, isMedia, Nat.zero_add]
  -- The cases come in the order in which the commands are defined, the unknown ones last.
  unfold Operation.ofCommand
  split
  · exact ⟨fun _ => plain rfl, fun _ => rfl⟩
  · rw [isOk_bind (b := true) fun _ => rfl, Bool.and_true]
    exact camera rfl
  · rw [isOk_bind (b := true) fun _ => rfl, Bool.and_true]
    exact camera rfl
  · exact ⟨fun _ => plain rfl, fun _ => rfl⟩
  · exact ⟨fun _ => plain rfl, fun _ => rfl⟩
  · exact ⟨fun _ => plain rfl, fun _ => rfl⟩
  · exact ⟨fun _ => plain rfl, fun _ => rfl⟩
  · rw [isOk_bind (b := (positional args 1 "param").isOk &&
      ((positional args 2 "value").isOk && true)) fun _ => isOk_bind fun _ => isOk_bind fun _ => rfl,
      misused_iff rfl]
    simp only [exists_place_cons, not_exists_place_nil, or_false, not_or, Bool.and_eq_true,
      Bool.and_true, isCamera, isOk_positional_iff, Nat.zero_add, Nat.reduceAdd]
  · rw [isOk_bind (b := (readChanges (args.drop 1)).isOk && true) fun _ => isOk_bind fun _ => rfl,
      misused_iff rfl]
    simp only [exists_place_cons, not_exists_place_nil, or_false, not_or, Bool.and_eq_true,
      Bool.and_true, isCamera, isOk_readChanges_iff, Nat.zero_add]
  · rw [isOk_bind (b := (mediaArgument args 1).isOk && true) fun _ => isOk_bind fun _ => rfl,
      Bool.and_true]
    exact media rfl
  · rw [isOk_bind (b := (mediaArgument args 1).isOk && true) fun _ => isOk_bind fun _ => rfl,
      Bool.and_true]
    exact media rfl
  · exact ⟨fun _ => plain rfl, fun _ => rfl⟩
  · exact ⟨fun _ => plain rfl, fun _ => rfl⟩
  · refine ⟨nofun, fun h => absurd (.unknown ?_) h⟩
    unfold Operation.parameters?
    split
    all_goals first | rfl | exact absurd rfl ‹_›

/-- Whether a command changes something can be told from its name. -/
theorem Operation.ofCommand_mutating {command : String} {o : Operation}
    (h : ofCommand command args = .ok o) : o.mutating = decide (command ∈ changingCommands) := by
  unfold ofCommand at h
  split at h
  · cases h; rfl
  · obtain ⟨_, _, h⟩ := bind_eq_ok_iff.mp h; cases h; rfl
  · obtain ⟨_, _, h⟩ := bind_eq_ok_iff.mp h; cases h; rfl
  · cases h; rfl
  · cases h; rfl
  · cases h; rfl
  · cases h; rfl
  · simp only [bind_eq_ok_iff] at h
    obtain ⟨_, _, _, _, _, _, h⟩ := h
    cases h; rfl
  · simp only [bind_eq_ok_iff] at h
    obtain ⟨_, _, _, _, h⟩ := h
    cases h; rfl
  · simp only [bind_eq_ok_iff] at h
    obtain ⟨_, _, _, _, h⟩ := h
    cases h; rfl
  · simp only [bind_eq_ok_iff] at h
    obtain ⟨_, _, _, _, h⟩ := h
    cases h; rfl
  · cases h; rfl
  · cases h; rfl
  · cases h

theorem Operation.not_isOption_of_reads {command : String} (h : command ∈ readingCommands) :
    ¬ Options.isOption command := by
  revert command
  decide

theorem Operation.not_isOption_of_changes {command : String} (h : command ∈ changingCommands) :
    ¬ Options.isOption command := by
  revert command
  decide

theorem Operation.not_changes_of_reads {command : String} (h : command ∈ readingCommands) :
    command ∉ changingCommands := by
  revert command
  decide

end CameraConsole
