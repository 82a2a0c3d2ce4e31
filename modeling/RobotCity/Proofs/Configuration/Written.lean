import Mathlib.Data.List.TakeWhile
import RobotCity.Proofs.Configuration.Sources
import RobotCity.Proofs.Json.Characters

/-!
# Configurations that are written and read back

Every configuration comes back from its document.  From the variables of the environment comes back what
they can say: two bounds in decimal, kinds of items between commas, a recipient that is a text, and yes or
no.
-/

namespace RobotCity

theorem Grid.ofJson_toJson (grid : Grid) : Grid.ofJson grid.toJson = .ok grid :=
  rfl

theorem Settings.ofJson_toJson (settings : Settings) : Settings.ofJson settings.toJson = .ok settings :=
  rfl

/-- A configuration comes back from its document. -/
theorem Configuration.ofJson_toJson (configuration : Configuration) :
    Configuration.ofJson configuration.toJson = .ok configuration := by
  have grid_given : Json.member?
      [("grid", configuration.grid.toJson), ("validator", configuration.settings.toJson)] "grid" =
        some configuration.grid.toJson := rfl
  have settings_given : Json.member?
      [("grid", configuration.grid.toJson), ("validator", configuration.settings.toJson)] "validator" =
        some configuration.settings.toJson := rfl
  rw [ofJson, toJson, configurationMembers]
  simp only [bind, Except.bind]
  rw [grid_given, settings_given, Option.getD_some, Option.getD_some, Grid.ofJson_toJson,
    Settings.ofJson_toJson]
  rfl

namespace Text

section Numerals

variable {numeral : List Char}

theorem asciiChar_of_isInk {c : Char} (ink : Json.IsInk c) : asciiChar c = c :=
  if_pos (Nat.lt_succ_of_le ink.2)

theorem not_isMargin_of_isDigit {c : Char} (digit : c.isDigit) : ¬isMargin c := by
  obtain ⟨from_zero, -⟩ := Char.isDigit_iff_toNat.mp digit
  have no_blank : c ≠ ' ' := Json.ne_of_isDigit digit rfl
  have no_control : ¬c.toNat ≤ 0x0d := Nat.not_le.mpr (Nat.lt_of_lt_of_le (by decide) from_zero)
  simp [isMargin, no_blank, no_control]

theorem isGrouped_true_of_digits (digits : ∀ c ∈ numeral, c.isDigit) : isGrouped true numeral := by
  induction numeral with
  | nil => rfl
  | cons c rest ih =>
      obtain ⟨digit, later⟩ := List.forall_mem_cons.mp digits
      have no_underscore : c ≠ '_' := Json.ne_of_isDigit digit rfl
      rw [isGrouped, if_neg no_underscore, digit, ih later]
      rfl

theorem isGrouped_natNumeral (number : Nat) : isGrouped false (natNumeral number) := by
  obtain ⟨c, rest, front⟩ := List.exists_cons_of_ne_nil (natNumeral_ne_nil number)
  have digits : ∀ c ∈ natNumeral number, c.isDigit := fun _ => isDigit_of_mem_natNumeral
  rw [front, List.forall_mem_cons] at digits
  obtain ⟨digit, later⟩ := digits
  have no_underscore : c ≠ '_' := Json.ne_of_isDigit digit rfl
  rw [front, isGrouped, if_neg no_underscore, digit, isGrouped_true_of_digits later]
  rfl

theorem readUnsigned_natNumeral (negative : Bool) {number : Nat}
    (short : (natNumeral number).length ≤ numeralLimit) :
    readUnsigned negative (natNumeral number) =
      .ok (if negative then -(number : Int) else number) := by
  have digits : ∀ c ∈ natNumeral number, c.isDigit := fun _ => isDigit_of_mem_natNumeral
  have group : ∀ c ∈ natNumeral number, isGroupChar c := by
    intro c member
    rw [isGroupChar, digits c member, Bool.true_or]
  have all_digits : (natNumeral number).filter Char.isDigit = natNumeral number :=
    List.filter_eq_self.mpr digits
  rw [readUnsigned, List.takeWhile_eq_self_iff.mpr group, List.dropWhile_eq_nil_iff.mpr group,
    isGrouped_natNumeral, all_digits, if_neg (Nat.not_lt.mpr short), numeralValue_natNumeral]
  rfl

/-- A written integer is read back. -/
theorem readInteger_intNumeral {value : Int} (short : IsShort value) :
    readInteger (ofString (String.ofList (intNumeral value))) = .ok value := by
  have in_ascii : ∀ c ∈ intNumeral value, (Letter.ascii ∘ Letter.char) c = c :=
    fun c member => asciiChar_of_isInk (Json.intNumeral_isInk value c member)
  rw [readInteger, ofString, String.toList_ofList, letters_ofChars, List.map_map,
    List.map_congr_left in_ascii, List.map_id']
  cases value with
  | ofNat number =>
      obtain ⟨c, rest, front⟩ := List.exists_cons_of_ne_nil (natNumeral_ne_nil number)
      have digit : c.isDigit := isDigit_of_mem_natNumeral (front ▸ List.mem_cons_self)
      have no_minus : c ≠ '-' := Json.ne_of_isDigit digit rfl
      have no_plus : c ≠ '+' := Json.ne_of_isDigit digit rfl
      rw [intNumeral, front, List.dropWhile_cons_of_neg (not_isMargin_of_isDigit digit), ← front]
      split
      · rename_i minus
        exact absurd (List.head_eq_of_cons_eq (front.symm.trans minus)) no_minus
      · rename_i plus
        exact absurd (List.head_eq_of_cons_eq (front.symm.trans plus)) no_plus
      · exact readUnsigned_natNumeral false short
  | negSucc number => exact readUnsigned_natNumeral true short

end Numerals

/-- Texts are cut as lists are split. -/
theorem splitAt_eq_splitOn (separator : Char) (text : List Char) :
    splitAt separator text = text.splitOn separator := by
  induction text with
  | nil => rfl
  | cons c rest ih =>
      rw [List.splitOn_eq_splitOnP] at ih ⊢
      rw [splitAt, ih, List.splitOnP_cons_eq_if_modifyHead]
      by_cases cut : c = separator
      · simp [cut]
      · obtain ⟨first, others, pieces⟩ :=
          List.exists_cons_of_ne_nil (List.splitOnP_ne_nil (· == separator) rest)
        simp [cut, pieces]

theorem dropWhile_eq_self {isDropped : Char → Bool} {text : List Char}
    (starts : ∀ c ∈ text.head?, ¬isDropped c) : text.dropWhile isDropped = text := by
  cases text with
  | nil => rfl
  | cons c rest => exact List.dropWhile_cons_of_neg (starts c rfl)

theorem stripBy_eq_self {isDropped : Char → Bool} {text : List Char}
    (starts : ∀ c ∈ text.head?, ¬isDropped c) (ends : ∀ c ∈ text.getLast?, ¬isDropped c) :
    stripBy isDropped text = text := by
  rw [← List.head?_reverse] at ends
  rw [stripBy, dropWhile_eq_self starts, dropWhile_eq_self ends, List.reverse_reverse]

end Text

/-- A kind of items that can stand in a list between commas: it is not blank, has no comma and no blanks
around it. -/
structure IsListable (kind : String) : Prop where
  not_blank : ∃ c ∈ kind.toList, ¬Text.isBlank c
  no_comma : ',' ∉ kind.toList
  starts : ∀ c ∈ kind.toList.head?, ¬Text.isBlank c
  ends : ∀ c ∈ kind.toList.getLast?, ¬Text.isBlank c

theorem kindsOfText_intercalate {kinds : List String} (some_kind : kinds ≠ [])
    (listable : ∀ kind ∈ kinds, IsListable kind) :
    kindsOfText (",".intercalate kinds) = kinds.map Text.ofString := by
  have no_commas : ∀ kind ∈ kinds.map String.toList, ',' ∉ kind :=
    List.forall_mem_map.mpr fun kind member => (listable kind member).no_comma
  have stripped : ∀ kind ∈ kinds, (Text.strip ∘ String.toList) kind = kind.toList :=
    fun kind member => Text.stripBy_eq_self (listable kind member).starts (listable kind member).ends
  have given : ∀ kind ∈ kinds.map String.toList, !kind.isEmpty := by
    rw [List.forall_mem_map]
    intro kind member
    obtain ⟨c, in_kind, -⟩ := (listable kind member).not_blank
    simpa using List.ne_nil_of_mem in_kind
  rw [kindsOfText, String.toList_intercalate, Text.splitAt_eq_splitOn]
  change (((List.splitOn ',' ([','].intercalate _)).map _).filter _).map _ = _
  rw [List.splitOn_intercalate ',' no_commas (by simpa using some_kind), List.map_map,
    List.map_congr_left stripped, List.filter_eq_self.mpr given, List.map_map]
  rfl

theorem boundOfText_intNumeral {value : Int} (short : Text.IsShort value) :
    boundOfText (.ofString (String.ofList (Text.intNumeral value))) = .ok value := by
  rw [boundOfText, Text.readInteger_intNumeral short]
  rfl

theorem isYes_ite (answer : Bool) : isYes (if answer then "true" else "false") = answer := by
  cases answer <;> decide

/-- A configuration that variables can say: its bounds are short enough to be converted, and it accepts at
least one kind of items, all of which can stand in a list. -/
structure PlainConfiguration where
  low : Int
  high : Int
  kinds : List String
  everyone : String
  strict : Bool
  low_short : Text.IsShort low
  high_short : Text.IsShort high
  some_kind : kinds ≠ []
  listable : ∀ kind ∈ kinds, IsListable kind

namespace PlainConfiguration

def grid (plain : PlainConfiguration) : Grid :=
  ⟨plain.low, plain.high⟩

def settings (plain : PlainConfiguration) : Settings where
  itemKinds := plain.kinds.map fun kind => .string (.ofString kind)
  everyone := .string (.ofString plain.everyone)
  strict := .boolean plain.strict

def configuration (plain : PlainConfiguration) : Configuration :=
  ⟨plain.grid, plain.settings⟩

/-- The variables that say it. -/
def environment (plain : PlainConfiguration) : Environment :=
  [ (lowVariable, String.ofList (Text.intNumeral plain.low))
  , (highVariable, String.ofList (Text.intNumeral plain.high))
  , (kindsVariable, ",".intercalate plain.kinds)
  , (everyoneVariable, plain.everyone)
  , (strictVariable, if plain.strict then "true" else "false") ]

theorem grid_of_environment (plain : PlainConfiguration) :
    Grid.ofEnvironment plain.environment = .ok plain.grid := by
  have low : plain.environment.lookup lowVariable =
      some (String.ofList (Text.intNumeral plain.low)) := rfl
  have high : plain.environment.lookup highVariable =
      some (String.ofList (Text.intNumeral plain.high)) := rfl
  rw [Grid.ofEnvironment, boundOfEnvironment, boundOfEnvironment, low, high]
  dsimp only
  rw [boundOfText_intNumeral plain.low_short, boundOfText_intNumeral plain.high_short]
  rfl

theorem settings_of_environment (plain : PlainConfiguration) :
    Settings.ofEnvironment plain.environment = plain.settings := by
  have kinds : plain.environment.lookup kindsVariable = some (",".intercalate plain.kinds) := rfl
  have everyone : plain.environment.lookup everyoneVariable = some plain.everyone := rfl
  have strict : plain.environment.lookup strictVariable =
      some (if plain.strict then "true" else "false") := rfl
  have some_text : ¬(plain.kinds.map Text.ofString).isEmpty := by simpa using plain.some_kind
  rw [Settings.ofEnvironment, kinds, everyone, strict, Option.getD_some, Option.getD_some,
    kindsOfText_intercalate plain.some_kind plain.listable, isYes_ite, if_neg some_text, List.map_map]
  rfl

end PlainConfiguration

/-- A configuration comes back from its document and from the variables that say it, whatever other
variables there are. -/
theorem Configuration.survives_writing :
    (∀ configuration : Configuration, Configuration.ofJson configuration.toJson = .ok configuration) ∧
    ∀ (plain : PlainConfiguration) (environment : Environment),
      plain.environment.SameValues environment →
        Configuration.ofEnvironment environment = .ok plain.configuration := by
  refine ⟨Configuration.ofJson_toJson, ?_⟩
  intro plain environment same
  rw [Configuration.ofEnvironment_eq same, Configuration.ofEnvironment, plain.grid_of_environment,
    plain.settings_of_environment]
  rfl

/-- A city around the crossing of the first avenue and the first street, with two kinds of items. -/
def PlainConfiguration.roseCity : PlainConfiguration where
  low := -12
  high := 3
  kinds := ["paper", "red rose"]
  everyone := "all, please"
  strict := true
  low_short := by
    rw [Text.IsShort]
    decide
  high_short := by
    rw [Text.IsShort]
    decide
  some_kind := by decide
  listable := by
    intro kind member
    rcases List.mem_pair.mp member with rfl | rfl
    all_goals
      refine ⟨⟨'r', by decide⟩, by decide, ?_, ?_⟩
      all_goals
        intro c there
        cases there
        decide

/-- The city comes back from its variables, in front of which another one stands. -/
theorem PlainConfiguration.roseCity_read :
    Configuration.ofEnvironment (("LANG", "C") :: roseCity.environment) = .ok roseCity.configuration ∧
      roseCity.environment.lookup lowVariable = some "-12" ∧
      roseCity.environment.lookup kindsVariable = some "paper,red rose" := by
  obtain ⟨-, said⟩ := Configuration.survives_writing
  have same : roseCity.environment.SameValues (("LANG", "C") :: roseCity.environment) := by
    intro name member
    have other : name ≠ "LANG" := by
      rintro rfl
      revert member
      decide
    rw [List.lookup_cons, beq_false_of_ne other]
  exact ⟨said roseCity _ same, by decide, by decide⟩

end RobotCity
