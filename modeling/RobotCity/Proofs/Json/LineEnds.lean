import RobotCity.Json.Reader
import RobotCity.Proofs.Json.Scanning
import RobotCity.Proofs.Newlines

/-!
# Line ends in JSON

A text is read as the same value, or refused for the same defect, when all of its line ends are written
alike.  Between tokens a line end is blank in any spelling, within a text none is allowed, and all other
tokens end in front of it.
-/

namespace RobotCity

namespace Json

open Text (unifyNewlines unifyNewlines_cons unifyNewlines_cases)

theorem dropWord?_unifyNewlines {word : List Char} (plain : ∀ c ∈ word, c ≠ '\r' ∧ c ≠ '\n')
    (input : List Char) :
    dropWord? word (unifyNewlines input) = (dropWord? word input).map unifyNewlines := by
  induction word generalizing input with
  | nil => rfl
  | cons letter letters ih =>
      obtain ⟨⟨no_return, no_feed⟩, letters_plain⟩ := List.forall_mem_cons.mp plain
      cases input using unifyNewlines_cases with
      | nil => rfl
      | kept c rest =>
          rw [dropWord?, dropWord?]
          split
          · exact ih letters_plain rest
          · rfl
      | lineEnd =>
          rw [dropWord?, dropWord?, if_neg no_return, if_neg no_feed]
          rfl

/-- What was read from the front of a text, without its place. -/
def Scanned.outline {α : Type} (scanned : Scanned α) : α × List Char :=
  (scanned.value, scanned.rest)

/-- What was read from the front of a text, with the line ends behind it written alike. -/
def Scanned.relined {α : Type} (scanned : Scanned α) : α × List Char :=
  (scanned.value, unifyNewlines scanned.rest)

theorem scanWord?_unifyNewlines (position other : Nat) (input : List Char) :
    (scanWord? other (unifyNewlines input)).map Scanned.outline =
      (scanWord? position input).map Scanned.relined := by
  have plain : ∀ word ∈ words, ∀ c ∈ word.1, c ≠ '\r' ∧ c ≠ '\n' := by simp [words]
  rw [scanWord?, scanWord?]
  generalize words = entries at plain ⊢
  induction entries with
  | nil => rfl
  | cons word others ih =>
      obtain ⟨word_plain, others_plain⟩ := List.forall_mem_cons.mp plain
      rw [List.findSome?_cons, List.findSome?_cons, dropWord?_unifyNewlines word_plain]
      cases dropWord? word.1 input with
      | none => exact ih others_plain
      | some rest => rfl

theorem scanWhole_unifyNewlines (input : List Char) :
    scanWhole (unifyNewlines input) = ((scanWhole input).1, unifyNewlines (scanWhole input).2) := by
  rw [scanWhole, scanWhole, Text.takeWhile_isDigit_unifyNewlines,
    Text.dropWhile_isDigit_unifyNewlines]
  cases input using unifyNewlines_cases with
  | nil => rfl
  | kept c rest =>
      rw [List.head?_cons, List.head?_cons]
      split <;> rfl
  | lineEnd => rfl

theorem scanFraction_unifyNewlines (input : List Char) :
    scanFraction (unifyNewlines input) =
      ((scanFraction input).1, unifyNewlines (scanFraction input).2) := by
  cases input using unifyNewlines_cases with
  | nil => rfl
  | kept c rest kept =>
      simp only [scanFraction, Text.takeWhile_isDigit_unifyNewlines,
        Text.dropWhile_isDigit_unifyNewlines]
      split
      · rfl
      · rw [unifyNewlines_cons kept]
  | lineEnd rest behind _ unified => simp [scanFraction, unified]

theorem scanSign_unifyNewlines (input : List Char) :
    scanSign (unifyNewlines input) =
      ((scanSign input).1, (scanSign input).2.1, unifyNewlines (scanSign input).2.2) := by
  cases input using unifyNewlines_cases with
  | nil => rfl
  | kept c rest kept =>
      rw [scanSign, scanSign]
      split
      · rfl
      · split
        · rfl
        · rw [unifyNewlines_cons kept]
  | lineEnd rest behind _ unified => simp [scanSign, unified]

theorem scanPower_unifyNewlines (input : List Char) :
    scanPower (unifyNewlines input) =
      ((scanPower input).1, (scanPower input).2.1, unifyNewlines (scanPower input).2.2) := by
  cases input using unifyNewlines_cases with
  | nil => rfl
  | kept c rest kept =>
      simp only [scanPower, scanSign_unifyNewlines, Text.takeWhile_isDigit_unifyNewlines,
        Text.dropWhile_isDigit_unifyNewlines]
      split
      · rfl
      · rw [unifyNewlines_cons kept]
  | lineEnd rest behind _ unified => simp [scanPower, unified]

theorem scanUnsigned?_unifyNewlines (negative : Bool) (position other : Nat) (input : List Char) :
    (scanUnsigned? negative other (unifyNewlines input)).map Scanned.outline =
      (scanUnsigned? negative position input).map Scanned.relined := by
  simp only [scanUnsigned?, scanWhole_unifyNewlines, scanFraction_unifyNewlines,
    scanPower_unifyNewlines]
  split <;> rfl

theorem scanNumber?_unifyNewlines (position other : Nat) (input : List Char) :
    (scanNumber? other (unifyNewlines input)).map Scanned.outline =
      (scanNumber? position input).map Scanned.relined := by
  cases input using unifyNewlines_cases with
  | nil => rfl
  | kept c rest kept =>
      rw [scanNumber?, scanNumber?, List.head?_cons, List.head?_cons]
      split
      · exact scanUnsigned?_unifyNewlines true _ _ rest
      · rw [← unifyNewlines_cons kept]
        exact scanUnsigned?_unifyNewlines false _ _ (c :: rest)
  | lineEnd => rfl

/-! ## Texts -/

/-- The number that some hexadecimal digits at the front of a text denote behind others, and the text
behind them. -/
def frontDigits? : Nat → Nat → List Char → Option (Nat × List Char)
  | 0, before, input => some (before, input)
  | _ + 1, _, [] => none
  | count + 1, before, c :: rest =>
    (hexDigit? c).bind fun digit => frontDigits? count (before * 16 + digit) rest

theorem frontDigits?_unifyNewlines (count before : Nat) (input : List Char) :
    frontDigits? count before (unifyNewlines input) =
      (frontDigits? count before input).map (Prod.map id unifyNewlines) := by
  induction count generalizing before input with
  | zero => rfl
  | succ count ih =>
      cases input using unifyNewlines_cases with
      | nil => rfl
      | kept c rest =>
          rw [frontDigits?, frontDigits?]
          cases hexDigit? c with
          | none => rfl
          | some digit => exact ih (before * 16 + digit) rest
      | lineEnd => rfl

theorem frontDigits?_length {count before number : Nat} {input rest : List Char}
    (read : frontDigits? count before input = some (number, rest)) :
    rest.length ≤ input.length := by
  induction count generalizing before input with
  | zero =>
      cases read
      exact Nat.le_refl _
  | succ count ih =>
      cases input with
      | nil => cases read
      | cons c input =>
          obtain ⟨digit, -, read⟩ := Option.bind_eq_some_iff.mp read
          exact Nat.le_succ_of_le (ih read)

theorem frontDigits?_four (a b c d : Char) (rest : List Char) :
    (frontDigits? 4 0 (a :: b :: c :: d :: rest)).map (Prod.map UInt16.ofNat id) =
      (hexUnit? a b c d).map (·, rest) := by
  simp only [frontDigits?, hexUnit?]
  cases hexDigit? a <;> cases hexDigit? b <;> cases hexDigit? c <;> cases hexDigit? d <;>
    simp

/-- Fewer than four characters cannot stand for a code unit. -/
theorem frontDigits?_of_short {count : Nat} {input : List Char} (short : input.length < count)
    (before : Nat) : frontDigits? count before input = none := by
  induction count generalizing before input with
  | zero => cases short
  | succ count ih =>
      cases input with
      | nil => rfl
      | cons c rest =>
          have rest_short : rest.length < count := Nat.lt_of_succ_lt_succ short
          rw [frontDigits?, Option.bind_eq_none_iff]
          exact fun digit _ => ih rest_short _

/-- An escape by number is decided by the four digits at the front of the text behind it. -/
theorem scanUnits_code (start position : Nat) (input : List Char) :
    scanUnits start position ('\\' :: 'u' :: input) =
      match frontDigits? 4 0 input with
      | none => .error ⟨.badCodeEscape, position + 1⟩
      | some (number, rest) =>
        if rest = [] then .error ⟨.badCodeEscape, position + 1⟩
        else (scanUnits start (position + 6) rest).map (·.push [.ofNat number]) := by
  rcases input with _ | ⟨a, _ | ⟨b, _ | ⟨c, _ | ⟨d, rest⟩⟩⟩⟩
  case cons.cons.cons.cons =>
    have four := frontDigits?_four a b c d rest
    rw [scanUnits]
    cases digits : frontDigits? 4 0 (a :: b :: c :: d :: rest) with
    | none =>
        rw [digits, Option.map_none, eq_comm, Option.map_eq_none_iff] at four
        rw [four]
    | some found =>
        rw [digits, Option.map_some, eq_comm, Option.map_eq_some_iff] at four
        obtain ⟨unit, read, same⟩ := four
        cases same
        rw [read]
        rfl
  all_goals
    rw [frontDigits?_of_short (by simp)]
    rfl

/-- An escape by a letter is decided by the letter. -/
theorem scanUnits_letter (start position : Nat) {c : Char} (letter : c ≠ 'u') (rest : List Char) :
    scanUnits start position ('\\' :: c :: rest) =
      match escaped? c with
      | none => .error ⟨.badEscape, position⟩
      | some unescaped =>
        (scanUnits start (position + 2) rest).map (·.push (Text.charUnits unescaped)) := by
  rw [scanUnits]
  · exact if_neg letter
  · rintro a b c' d rest' rfl
    exact absurd rfl letter

theorem scanUnits_plainChar (start position : Nat) {c : Char} (no_quote : c ≠ '"')
    (no_backslash : c ≠ '\\') (rest : List Char) :
    scanUnits start position (c :: rest) =
      if c < ' ' then .error ⟨.controlCharacter, position⟩
      else (scanUnits start (position + 1) rest).map (·.push (Text.charUnits c)) := by
  rw [scanUnits]
  all_goals simp [no_quote, no_backslash]

/-- How the reading of a text ends, without its place. -/
def outlineUnits (outcome : Except SyntaxError (Scanned (List UInt16))) :
    Except SyntaxDefect (List UInt16 × List Char) :=
  (outcome.map Scanned.outline).mapError (·.defect)

/-- How the reading of a text ends, without its place and with the line ends behind it written alike. -/
def relinedUnits (outcome : Except SyntaxError (Scanned (List UInt16))) :
    Except SyntaxDefect (List UInt16 × List Char) :=
  (outcome.map Scanned.relined).mapError (·.defect)

theorem outlineUnits_push {outcome other : Except SyntaxError (Scanned (List UInt16))}
    (alike : outlineUnits other = relinedUnits outcome) (units : List UInt16) :
    outlineUnits (other.map (·.push units)) = relinedUnits (outcome.map (·.push units)) := by
  cases outcome with
  | error error =>
      cases other with
      | error error' => exact alike
      | ok scanned => cases alike
  | ok scanned =>
      cases other with
      | error error => cases alike
      | ok scanned' =>
          obtain ⟨same_units, same_rest⟩ := Prod.mk.inj (Except.ok.inj alike)
          change Except.ok (units ++ scanned'.value, scanned'.rest) =
            Except.ok (units ++ scanned.value, unifyNewlines scanned.rest)
          rw [same_units, same_rest]

/-- Reading a text does not depend on the spelling of line ends: a line end in it is refused in any
spelling, as it is behind a backslash. -/
theorem scanUnits_unifyNewlines (start position start' position' : Nat) (input : List Char) :
    outlineUnits (scanUnits start' position' (unifyNewlines input)) =
      relinedUnits (scanUnits start position input) := by
  induction size : input.length using Nat.strongRecOn generalizing input position position' with
  | ind size ih =>
      subst size
      have behind (rest : List Char) (shorter : rest.length < input.length) (units : List UInt16)
          (p p' : Nat) :
          outlineUnits ((scanUnits start' p' (unifyNewlines rest)).map (·.push units)) =
            relinedUnits ((scanUnits start p rest).map (·.push units)) :=
        outlineUnits_push (ih rest.length shorter p p' rest rfl) units
      clear ih
      cases input using unifyNewlines_cases with
      | nil => rfl
      | lineEnd => rfl
      | kept c rest =>
          by_cases is_quote : c = '"'
          · rw [is_quote]
            rfl
          by_cases is_backslash : c = '\\'
          · rw [is_backslash]
            cases rest using unifyNewlines_cases with
            | nil => rfl
            | lineEnd => rfl
            | kept c rest =>
                by_cases is_code : c = 'u'
                · rw [is_code, scanUnits_code, scanUnits_code, frontDigits?_unifyNewlines]
                  cases digits : frontDigits? 4 0 rest with
                  | none => rfl
                  | some found =>
                      obtain ⟨number, tail⟩ := found
                      have shorter := frontDigits?_length digits
                      simp only [Option.map_some, Prod.map_apply, id_eq,
                        Text.unifyNewlines_eq_nil_iff]
                      split
                      · rfl
                      · exact behind tail (by simp; omega) _ _ _
                · rw [scanUnits_letter start' position' is_code,
                    scanUnits_letter start position is_code]
                  cases escaped? c with
                  | none => rfl
                  | some unescaped => exact behind rest (by simp only [List.length_cons]; omega) _ _ _
          · rw [scanUnits_plainChar start' position' is_quote is_backslash,
              scanUnits_plainChar start position is_quote is_backslash]
            split
            · rfl
            · exact behind rest (by simp) _ _ _

/-! ## Tokens and their reader -/

/-- A token without the place of a defect in it. -/
def Token.unplaced : Token → Token
  | .brokenText error => .brokenText ⟨error.defect, 0⟩
  | token => token

/-- A token without any place. -/
def Lexeme.unplaced (lexeme : Lexeme) : Lexeme :=
  ⟨lexeme.token.unplaced, 0⟩

/-- Another text gives the same token, be it with a defect at another place, and goes on alike with
its line ends written alike. -/
structure Scanned.Relines (scanned other : Scanned Token) : Prop where
  token : other.value.unplaced = scanned.value.unplaced
  rest : other.rest = unifyNewlines scanned.rest

theorem Scanned.Relines.of_outline {scanned other : Scanned Token}
    (alike : other.outline = scanned.relined) : scanned.Relines other := by
  obtain ⟨same_value, same_rest⟩ := Prod.mk.inj alike
  exact ⟨congrArg Token.unplaced same_value, same_rest⟩

theorem scanText_unifyNewlines (position position' : Nat) (input : List Char) :
    (scanText position input).Relines (scanText position' (unifyNewlines input)) := by
  have alike := scanUnits_unifyNewlines position (position + 1) position' (position' + 1) input
  rw [scanText, scanText]
  cases read : scanUnits position (position + 1) input with
  | error error =>
      cases read' : scanUnits position' (position' + 1) (unifyNewlines input) with
      | error error' =>
          rw [read, read'] at alike
          have same_defect : error'.defect = error.defect := Except.error.inj alike
          exact ⟨congrArg (fun defect => Token.brokenText ⟨defect, 0⟩) same_defect, rfl⟩
      | ok scanned =>
          rw [read, read'] at alike
          cases alike
  | ok scanned =>
      cases read' : scanUnits position' (position' + 1) (unifyNewlines input) with
      | error error =>
          rw [read, read'] at alike
          cases alike
      | ok scanned' =>
          rw [read, read'] at alike
          obtain ⟨same_units, same_rest⟩ := Prod.mk.inj (Except.ok.inj alike)
          exact ⟨congrArg (fun units => Token.text ⟨units⟩) same_units, same_rest⟩

theorem scanToken_unifyNewlines (position position' : Nat) {c : Char} (kept : c ≠ '\r')
    (rest : List Char) :
    (scanToken position c rest).Relines (scanToken position' c (unifyNewlines rest)) := by
  rw [scanToken, scanToken]
  cases punctuation? c with
  | some token => exact ⟨rfl, rfl⟩
  | none =>
      dsimp only
      split
      · exact scanText_unifyNewlines position position' rest
      · have words_alike := scanWord?_unifyNewlines position position' (c :: rest)
        have numbers_alike := scanNumber?_unifyNewlines position position' (c :: rest)
        rw [unifyNewlines_cons kept] at words_alike numbers_alike
        cases word : scanWord? position (c :: rest) with
        | some scanned =>
            rw [word, Option.map_some, Option.map_eq_some_iff] at words_alike
            obtain ⟨other, word', alike⟩ := words_alike
            rw [word']
            exact .of_outline alike
        | none =>
            rw [word, Option.map_none, Option.map_eq_none_iff] at words_alike
            rw [words_alike]
            cases number : scanNumber? position (c :: rest) with
            | some scanned =>
                rw [number, Option.map_some, Option.map_eq_some_iff] at numbers_alike
                obtain ⟨other, number', alike⟩ := numbers_alike
                rw [number']
                exact .of_outline alike
            | none =>
                rw [number, Option.map_none, Option.map_eq_none_iff] at numbers_alike
                rw [numbers_alike]
                exact ⟨rfl, rfl⟩

/-- The tokens of a text do not depend on the spelling of its line ends. -/
theorem lexemes_unifyNewlines (position position' : Nat) (input : List Char) :
    (lexemes position' (unifyNewlines input)).map Lexeme.unplaced =
      (lexemes position input).map Lexeme.unplaced := by
  induction size : input.length using Nat.strongRecOn generalizing input position position' with
  | ind size ih =>
      subst size
      have behind (rest : List Char) (shorter : rest.length < input.length) (p p' : Nat) :
          (lexemes p' (unifyNewlines rest)).map Lexeme.unplaced =
            (lexemes p rest).map Lexeme.unplaced :=
        ih rest.length shorter p p' rest rfl
      clear ih
      cases input using unifyNewlines_cases with
      | nil => rw [lexemes, lexemes]
      | lineEnd rest after cut =>
          rw [lexemes_space position' _ rfl, lexemes_space position _ rfl]
          rcases cut with rfl | rfl
          · exact behind rest (by simp) _ _
          · -- The line feed of a pair is blank as well.
            rw [lexemes_space (position + 1) _ rfl]
            exact behind after (by simp only [List.length_cons]; omega) _ _
      | kept c rest kept =>
          rw [lexemes, lexemes]
          split
          · exact behind rest (by simp) _ _
          · have relines := scanToken_unifyNewlines position position' kept rest
            have shorter := scanToken_length position c rest
            dsimp only
            rw [List.map_cons, List.map_cons, relines.rest]
            refine congrArg₂ List.cons ?_ (behind _ (by simp; omega) _ _)
            rw [Lexeme.unplaced, relines.token, Lexeme.unplaced]

/-- An error without its place. -/
def ReadError.unplaced : ReadError → ReadError
  | .malformed error => .malformed ⟨error.defect, 0⟩
  | .longNumeral digits => .longNumeral digits

/-- Steps that end alike and go on alike end alike. -/
theorem bind_unplaced {α β : Type} {first other : Except ReadError α}
    {rest rest' : α → Except ReadError β}
    (alike : other.mapError ReadError.unplaced = first.mapError ReadError.unplaced)
    (rest_alike : ∀ value, (rest' value).mapError ReadError.unplaced =
      (rest value).mapError ReadError.unplaced) :
    (other >>= rest').mapError ReadError.unplaced = (first >>= rest).mapError ReadError.unplaced := by
  cases first with
  | error error =>
      cases other with
      | error error' => exact congrArg Except.error (Except.error.inj alike)
      | ok value => cases alike
  | ok value =>
      cases other with
      | error error => cases alike
      | ok value' =>
          cases alike
          exact rest_alike value

theorem startValue_unplaced (frames : List Frame) (lexeme : Lexeme) :
    (startValue frames lexeme.unplaced).mapError ReadError.unplaced =
      (startValue frames lexeme).mapError ReadError.unplaced := by
  obtain ⟨token, position⟩ := lexeme
  cases token <;> rfl

theorem startMember_unplaced (frames : List Frame) (members : List (Text × Json)) (lexeme : Lexeme) :
    (startMember frames members lexeme.unplaced).mapError ReadError.unplaced =
      (startMember frames members lexeme).mapError ReadError.unplaced := by
  obtain ⟨token, position⟩ := lexeme
  cases token <;> rfl

theorem closeValue_unplaced (value : Json) (lexeme : Lexeme) (frames : List Frame) :
    (closeValue value lexeme.unplaced frames).mapError ReadError.unplaced =
      (closeValue value lexeme frames).mapError ReadError.unplaced := by
  obtain ⟨token, position⟩ := lexeme
  rcases frames with _ | ⟨⟨items⟩ | ⟨members, name⟩, frames⟩
  · rfl
  · cases token <;> rfl
  · cases token <;> rfl

/-- The step that the reader takes at a token does not depend on where the token stands. -/
theorem next_unplaced (state : ReaderState) (lexeme : Lexeme) :
    (state.next lexeme.unplaced).mapError ReadError.unplaced =
      (state.next lexeme).mapError ReadError.unplaced := by
  cases state with
  | valueDue frames => exact startValue_unplaced frames lexeme
  | nameDue frames members => exact startMember_unplaced frames members lexeme
  | valueRead frames value => exact closeValue_unplaced value lexeme frames
  | _ =>
      obtain ⟨token, position⟩ := lexeme
      cases token <;> rfl

theorem finish_unplaced (state : ReaderState) (position position' : Nat) :
    (state.finish position').mapError ReadError.unplaced =
      (state.finish position).mapError ReadError.unplaced := by
  rcases state with _ | _ | _ | _ | _ | ⟨_ | ⟨frame, frames⟩, value⟩ <;> rfl

/-- The state in which the reader ends does not depend on where the tokens stand. -/
theorem foldlM_next_unplaced (state : ReaderState) (tokens : List Lexeme) :
    ((tokens.map Lexeme.unplaced).foldlM ReaderState.next state).mapError ReadError.unplaced =
      (tokens.foldlM ReaderState.next state).mapError ReadError.unplaced := by
  induction tokens generalizing state with
  | nil => rfl
  | cons lexeme rest ih =>
      rw [List.map_cons, List.foldlM_cons, List.foldlM_cons]
      exact bind_unplaced (next_unplaced state lexeme) ih

/-- A text with its line ends written alike is read as the same value, or refused for the same
reason. -/
theorem readChars_unifyNewlines (text : List Char) :
    (readChars (unifyNewlines text)).mapError ReadError.unplaced =
      (readChars text).mapError ReadError.unplaced := by
  have mark_alike : (unifyNewlines text).head? = some '\ufeff' ↔ text.head? = some '\ufeff' := by
    cases text using unifyNewlines_cases with
    | nil => rfl
    | kept => rfl
    | lineEnd => simp
  rw [readChars, readChars]
  by_cases mark : text.head? = some '\ufeff'
  · rw [if_pos mark, if_pos (mark_alike.mpr mark)]
  · rw [if_neg mark, if_neg (mt mark_alike.mp mark)]
    refine bind_unplaced ?_ fun state => finish_unplaced state _ _
    rw [← foldlM_next_unplaced, lexemes_unifyNewlines 0 0, foldlM_next_unplaced]

end Json
end RobotCity
