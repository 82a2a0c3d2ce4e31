import Mathlib.Data.List.Infix
import RobotCity.Proofs.Json.Soundness

/-!
# Numerals of too many digits

The reader gives up on a number only where the text holds a row of more digits than are converted.
Every such row that stands for a text alone is given up.
-/

namespace RobotCity
namespace Json

/-- A text holds some decimal digits in a row. -/
def HoldsDigits (text : List Char) (count : Nat) : Prop :=
  ∃ row : List Char, row <:+: text ∧ row.length = count ∧ ∀ c ∈ row, c.isDigit

theorem HoldsDigits.of_suffix {text rest : List Char} {count : Nat} (holds : HoldsDigits rest count)
    (behind : rest <:+ text) : HoldsDigits text count := by
  obtain ⟨row, inside, long, digits⟩ := holds
  exact ⟨row, inside.trans behind.isInfix, long, digits⟩

theorem dropWord?_suffix {word input rest : List Char}
    (dropped : dropWord? word input = some rest) :
    rest <:+ input := by
  fun_induction dropWord? word input with
  | case1 =>
      cases dropped
      exact List.suffix_rfl
  | case3 _ _ _ ih => exact (ih dropped).trans (List.suffix_cons _ _)
  | _ => cases dropped

theorem scanWord?_suffix {position : Nat} {input : List Char} {scanned : Scanned Token}
    (read : scanWord? position input = some scanned) : scanned.rest <:+ input := by
  obtain ⟨word, -, found⟩ := List.exists_of_findSome?_eq_some read
  obtain ⟨rest, dropped, rfl⟩ := Option.map_eq_some_iff.mp found
  exact dropWord?_suffix dropped

theorem scanWhole_append (input : List Char) :
    (scanWhole input).1 ++ (scanWhole input).2 = input := by
  rw [scanWhole]
  split
  · rename_i zero
    obtain ⟨rest, rfl⟩ := List.head?_eq_some_iff.mp zero
    rfl
  · exact List.takeWhile_append_dropWhile

theorem scanFraction_suffix (input : List Char) : (scanFraction input).2 <:+ input := by
  cases input with
  | nil => exact List.suffix_rfl
  | cons c rest =>
      rw [scanFraction]
      split
      · exact (List.dropWhile_suffix _).trans (List.suffix_cons c rest)
      · exact List.suffix_rfl

theorem scanSign_suffix (input : List Char) : (scanSign input).2.2 <:+ input := by
  cases input with
  | nil => exact List.suffix_rfl
  | cons c rest =>
      rw [scanSign]
      split
      · exact List.suffix_cons c rest
      · split
        · exact List.suffix_cons c rest
        · exact List.suffix_rfl

theorem scanPower_suffix (input : List Char) : (scanPower input).2.2 <:+ input := by
  cases input with
  | nil => exact List.suffix_rfl
  | cons c rest =>
      rw [scanPower]
      split
      · exact ((List.dropWhile_suffix _).trans (scanSign_suffix rest)).trans
          (List.suffix_cons c rest)
      · exact List.suffix_rfl

theorem scanUnsigned?_suffix {negative : Bool} {position : Nat} {input : List Char}
    {scanned : Scanned Token} (read : scanUnsigned? negative position input = some scanned) :
    scanned.rest <:+ input := by
  unfold scanUnsigned? at read
  dsimp only at read
  split at read
  · cases read
  · cases read
    have behind_whole : (scanWhole input).2 <:+ input := ⟨_, scanWhole_append input⟩
    exact ((scanPower_suffix _).trans (scanFraction_suffix _)).trans behind_whole

theorem scanNumber?_suffix {position : Nat} {input : List Char} {scanned : Scanned Token}
    (read : scanNumber? position input = some scanned) : scanned.rest <:+ input := by
  rw [scanNumber?] at read
  split at read
  · exact (scanUnsigned?_suffix read).trans (List.drop_suffix 1 input)
  · exact scanUnsigned?_suffix read

theorem scanUnits_suffix {start position : Nat} {input : List Char}
    {scanned : Scanned (List UInt16)} (read : scanUnits start position input = .ok scanned) :
    scanned.rest <:+ input := by
  fun_induction scanUnits start position input generalizing scanned with
  | case2 position rest =>
      cases read
      exact List.suffix_cons '"' rest
  | case6 _ a b c d rest _ _ _ ih =>
      obtain ⟨found, inner_read, same⟩ := rest_of_map_push read
      rw [← same]
      exact (ih inner_read).trans ⟨['\\', 'u', a, b, c, d], rfl⟩
  | case9 _ c rest _ _ _ _ ih =>
      obtain ⟨found, inner_read, same⟩ := rest_of_map_push read
      rw [← same]
      exact (ih inner_read).trans ⟨['\\', c], rfl⟩
  | case11 _ c rest _ _ _ _ _ ih =>
      obtain ⟨found, inner_read, same⟩ := rest_of_map_push read
      rw [← same]
      exact (ih inner_read).trans (List.suffix_cons c rest)
  | _ => cases read

theorem scanText_suffix (start : Nat) (input : List Char) :
    (scanText start input).rest <:+ input := by
  rw [scanText]
  split
  · rename_i scanned read
    exact scanUnits_suffix read
  · exact List.nil_suffix

theorem scanToken_suffix (position : Nat) (c : Char) (rest : List Char) :
    (scanToken position c rest).rest <:+ c :: rest := by
  rw [scanToken]
  cases punctuation? c with
  | some token => exact List.suffix_cons c rest
  | none =>
      dsimp only
      split
      · exact (scanText_suffix position rest).trans (List.suffix_cons c rest)
      · cases word : scanWord? position (c :: rest) with
        | some scanned => exact scanWord?_suffix word
        | none =>
            cases number : scanNumber? position (c :: rest) with
            | some scanned => exact scanNumber?_suffix number
            | none => exact List.nil_suffix

/-- A token that is given up for its digits has too many of them, and a text holds them. -/
def Token.LongOnlyIn (text : List Char) (token : Token) : Prop :=
  ∀ digits, token = .longNumeral digits → Text.numeralLimit < digits ∧ HoldsDigits text digits

theorem Token.LongOnlyIn.of_suffix {text rest : List Char} {token : Token}
    (long_only : token.LongOnlyIn rest) (behind : rest <:+ text) : token.LongOnlyIn text :=
  fun digits long =>
    ⟨(long_only digits long).1, (long_only digits long).2.of_suffix behind⟩

theorem NumberText.long_of_token {number : NumberText} {digits : Nat}
    (long : number.token = .longNumeral digits) :
    Text.numeralLimit < digits ∧ number.whole.length = digits := by
  obtain ⟨negative, whole, fraction, power⟩ := number
  rw [token.eq_def] at long
  dsimp only at long
  split at long
  · split at long
    · rename_i too_many
      cases long
      exact ⟨too_many, rfl⟩
    · cases long
  · cases long

theorem scanUnsigned?_longOnlyIn {negative : Bool} {position : Nat} {input : List Char}
    {scanned : Scanned Token} (read : scanUnsigned? negative position input = some scanned) :
    scanned.value.LongOnlyIn input := by
  unfold scanUnsigned? at read
  dsimp only at read
  split at read
  · cases read
  · cases read
    intro digits long
    obtain ⟨too_many, all_digits⟩ := NumberText.long_of_token long
    have row : (scanWhole input).1 <:+: input :=
      List.IsPrefix.isInfix ⟨_, scanWhole_append input⟩
    exact ⟨too_many, _, row, all_digits, scanWhole_digits input⟩

theorem scanNumber?_longOnlyIn {position : Nat} {input : List Char} {scanned : Scanned Token}
    (read : scanNumber? position input = some scanned) : scanned.value.LongOnlyIn input := by
  rw [scanNumber?] at read
  split at read
  · exact (scanUnsigned?_longOnlyIn read).of_suffix (List.drop_suffix 1 input)
  · exact scanUnsigned?_longOnlyIn read

theorem scanToken_longOnlyIn (position : Nat) (c : Char) (rest : List Char) :
    (scanToken position c rest).value.LongOnlyIn (c :: rest) := by
  rw [scanToken]
  cases mark : punctuation? c with
  | some token =>
      rintro digits rfl
      simp only [punctuation?] at mark
      split_ifs at mark <;> cases mark
  | none =>
      dsimp only
      split
      · rw [scanText]
        split <;> rintro _ ⟨⟩
      · cases word : scanWord? position (c :: rest) with
        | some scanned =>
            obtain ⟨entry, -, found⟩ := List.exists_of_findSome?_eq_some word
            obtain ⟨behind, -, rfl⟩ := Option.map_eq_some_iff.mp found
            rintro _ ⟨⟩
        | none =>
            cases number : scanNumber? position (c :: rest) with
            | some scanned => exact scanNumber?_longOnlyIn number
            | none => rintro _ ⟨⟩

theorem lexemes_longOnlyIn (position : Nat) (input : List Char) :
    ∀ lexeme ∈ lexemes position input, lexeme.token.LongOnlyIn input := by
  fun_induction lexemes position input with
  | case1 => simp
  | case2 position c rest space ih =>
      exact fun lexeme member => (ih lexeme member).of_suffix (List.suffix_cons c rest)
  | case3 position c rest ink scanned ih =>
      refine List.forall_mem_cons.mpr ⟨scanToken_longOnlyIn position c rest, ?_⟩
      exact fun lexeme member => (ih lexeme member).of_suffix (scanToken_suffix position c rest)

theorem startValue_longNumeral {frames : List Frame} {lexeme : Lexeme} {digits : Nat}
    (stopped : startValue frames lexeme = .error (.longNumeral digits)) :
    lexeme.token = .longNumeral digits := by
  obtain ⟨token, position⟩ := lexeme
  cases token with
  | longNumeral count =>
      cases stopped
      rfl
  | _ => cases stopped

theorem startMember_ne_longNumeral {frames : List Frame} {members : List (Text × Json)}
    {lexeme : Lexeme} {digits : Nat} :
    startMember frames members lexeme ≠ .error (.longNumeral digits) := by
  obtain ⟨token, position⟩ := lexeme
  cases token <;> exact nofun

theorem closeValue_ne_longNumeral {value : Json} {lexeme : Lexeme} {frames : List Frame}
    {digits : Nat} : closeValue value lexeme frames ≠ .error (.longNumeral digits) := by
  obtain ⟨token, position⟩ := lexeme
  rcases frames with _ | ⟨⟨items⟩ | ⟨members, name⟩, frames⟩
  · exact nofun
  · cases token <;> exact nofun
  · cases token <;> exact nofun

/-- The reader gives up on a number only at a token for it. -/
theorem next_longNumeral {state : ReaderState} {lexeme : Lexeme} {digits : Nat}
    (stopped : state.next lexeme = .error (.longNumeral digits)) :
    lexeme.token = .longNumeral digits := by
  cases state with
  | valueDue frames => exact startValue_longNumeral stopped
  | itemDue frames =>
      rw [ReaderState.next] at stopped
      split at stopped
      · cases stopped
      · exact startValue_longNumeral stopped
  | memberDue frames =>
      rw [ReaderState.next] at stopped
      split at stopped
      · cases stopped
      · exact absurd stopped startMember_ne_longNumeral
  | nameDue frames members => exact absurd stopped startMember_ne_longNumeral
  | colonDue frames members name =>
      rw [ReaderState.next] at stopped
      split at stopped <;> cases stopped
  | valueRead frames value => exact absurd stopped closeValue_ne_longNumeral

theorem foldlM_longNumeral {tokens : List Lexeme} {state : ReaderState} {digits : Nat}
    (stopped : tokens.foldlM ReaderState.next state = .error (.longNumeral digits)) :
    ∃ lexeme ∈ tokens, lexeme.token = .longNumeral digits := by
  induction tokens generalizing state with
  | nil => cases stopped
  | cons lexeme rest ih =>
      rw [List.foldlM_cons] at stopped
      cases taken : state.next lexeme with
      | error error =>
          rw [taken] at stopped
          cases stopped
          exact ⟨lexeme, List.mem_cons_self, next_longNumeral taken⟩
      | ok next =>
          rw [taken] at stopped
          obtain ⟨later, member, long⟩ := ih stopped
          exact ⟨later, List.mem_cons_of_mem lexeme member, long⟩

theorem finish_ne_longNumeral {state : ReaderState} {position digits : Nat} :
    state.finish position ≠ .error (.longNumeral digits) := by
  rcases state with _ | _ | _ | _ | _ | ⟨_ | ⟨frame, frames⟩, value⟩ <;> exact nofun

/-- The reader gives up on a number only where the text holds a row of too many digits. -/
theorem readChars_longNumeral {text : List Char} {digits : Nat}
    (stopped : readChars text = .error (.longNumeral digits)) :
    Text.numeralLimit < digits ∧ HoldsDigits text digits := by
  rw [readChars] at stopped
  split at stopped
  · cases stopped
  · cases ended : (lexemes 0 text).foldlM ReaderState.next (.valueDue []) with
    | error error =>
        rw [ended] at stopped
        cases stopped
        obtain ⟨lexeme, member, long⟩ := foldlM_longNumeral ended
        exact lexemes_longOnlyIn 0 text lexeme member digits long
    | ok state =>
        rw [ended] at stopped
        exact absurd stopped finish_ne_longNumeral

/-- A text that is nothing but a row of too many digits is given up. -/
theorem readChars_digits {first : Char} {digits : List Char} (no_zero : first ≠ '0')
    (all_digits : ∀ c ∈ first :: digits, c.isDigit)
    (too_many : Text.numeralLimit < (first :: digits).length) :
    readChars (first :: digits) = .error (.longNumeral (first :: digits).length) := by
  have first_digit : first.isDigit := all_digits first List.mem_cons_self
  have opens := opensNumber_digit digits first_digit
  have no_minus : (first :: digits).head? ≠ some '-' := by
    simpa using ne_of_isDigit first_digit rfl
  have no_byte_order_mark : (first :: digits).head? ≠ some '\ufeff' := by
    simpa using ne_of_isDigit first_digit rfl
  have whole : scanWhole (first :: digits) = (first :: digits, []) := by
    rw [scanWhole, if_neg (by simpa using no_zero), List.takeWhile_eq_self_iff.mpr all_digits,
      List.dropWhile_eq_nil_iff.mpr all_digits]
  have given_up : NumberText.token ⟨false, first :: digits, none, none⟩ =
      .longNumeral (first :: digits).length := by
    rw [NumberText.token]
    exact if_pos too_many
  have number : scanNumber? 0 (first :: digits) =
      some ⟨.longNumeral (first :: digits).length, 0 + (first :: digits).length + 0 + 0, []⟩ := by
    rw [scanNumber?, if_neg no_minus, scanUnsigned?, whole]
    dsimp only [scanFraction, scanPower]
    rw [if_neg (List.cons_ne_nil first digits), given_up]
    rfl
  have token : scanToken 0 first digits =
      ⟨.longNumeral (first :: digits).length, 0 + (first :: digits).length + 0 + 0, []⟩ := by
    rw [scanToken, opens.no_mark]
    dsimp only
    rw [if_neg opens.no_text, opens.no_word]
    dsimp only
    rw [number, Option.getD_some]
  rw [readChars, if_neg no_byte_order_mark, lexemes_token opens.ink token, List.foldlM_cons]
  rfl

end Json
end RobotCity
