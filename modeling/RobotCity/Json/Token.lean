import RobotCity.Json.Basic

/-!
# JSON tokens

A JSON text is cut into tokens before it is read.  Each token knows the position, in characters,
at which it starts.  What cannot be finished as a token is a token of its own, so that the reader
decides, by the place where it stands, what is wrong with it.
-/

namespace RobotCity
namespace Json

/-- What can be wrong with a JSON text. -/
inductive SyntaxDefect where
  | byteOrderMark
  | expectingValue
  | expectingName
  | expectingColon
  | expectingComma
  | extraData
  | unterminatedText
  | controlCharacter
  | badEscape
  | badCodeEscape
  deriving DecidableEq, Repr

/-- A defect and the position at which it is reported. -/
structure SyntaxError where
  defect : SyntaxDefect
  /-- How many characters stand in front of the defect. -/
  position : Nat
  deriving DecidableEq, Repr

/-- A token of a JSON text. -/
inductive Token where
  | openObject
  | closeObject
  | openArray
  | closeArray
  | colon
  | comma
  /-- A number or one of the fixed words. -/
  | atom (value : Json)
  | text (content : Text)
  /-- An integer with too many digits to be converted. -/
  | longNumeral (digits : Nat)
  /-- A text that is not closed or holds what a text must not hold. -/
  | brokenText (error : SyntaxError)
  /-- A character with which no token starts. -/
  | stray

/-- A token and where it starts. -/
structure Lexeme where
  token : Token
  /-- How many characters stand in front of the token. -/
  position : Nat

/-- What was read from the front of a text, where that ends, and the text behind it. -/
structure Scanned (α : Type) where
  value : α
  /-- The position behind what was read. -/
  stop : Nat
  /-- The text behind what was read. -/
  rest : List Char

/-- Whether a character may stand between tokens. -/
def isSpace (c : Char) : Bool :=
  c == ' ' || c == '\n' || c == '\r' || c == '\t'

/-- The token that a single character makes. -/
def punctuation? (c : Char) : Option Token :=
  if c = '\x7b' then some .openObject
  else if c = '\x7d' then some .closeObject
  else if c = '[' then some .openArray
  else if c = ']' then some .closeArray
  else if c = ':' then some .colon
  else if c = ',' then some .comma
  else none

/-- The fixed words and their values. -/
def words : List (List Char × Json) :=
  [ ("null".toList, .null)
  , ("true".toList, .boolean true)
  , ("false".toList, .boolean false)
  , ("NaN".toList, .float .nan)
  , ("Infinity".toList, .float (.infinite false))
  , ("-Infinity".toList, .float (.infinite true)) ]

/-- The text behind a word at its front. -/
def dropWord? : List Char → List Char → Option (List Char)
  | [], input => some input
  | _ :: _, [] => none
  | letter :: letters, c :: rest => if letter = c then dropWord? letters rest else none

/-- The fixed word at the front of a text. -/
def scanWord? (position : Nat) (input : List Char) : Option (Scanned Token) :=
  words.findSome? fun word =>
    (dropWord? word.1 input).map fun rest => ⟨.atom word.2, position + word.1.length, rest⟩

/-! ## Numbers -/

/-- The parts of a number as it is written. -/
structure NumberText where
  /-- Whether a minus stands in front. -/
  negative : Bool
  /-- The digits before the point. -/
  whole : List Char
  /-- The digits behind the point, if there is one. -/
  fraction : Option (List Char)
  /-- The sign and digits of the power of ten, if there is one. -/
  power : Option (Bool × List Char)

/-- The digits before the point: a zero alone, or all digits up to the next other character. -/
def scanWhole (input : List Char) : List Char × List Char :=
  if input.head? = some '0' then (['0'], input.drop 1)
  else (input.takeWhile Char.isDigit, input.dropWhile Char.isDigit)

/-- The point and the digits behind it; a point without digits is left alone. -/
def scanFraction (input : List Char) : Option (List Char) × List Char :=
  match input with
  | [] => (none, input)
  | c :: rest =>
    let digits := rest.takeWhile Char.isDigit
    if c = '.' ∧ digits ≠ [] then (some digits, rest.dropWhile Char.isDigit) else (none, input)

/-- A sign, if there is one: whether it is a minus, how many characters it takes, and the rest. -/
def scanSign (input : List Char) : Bool × Nat × List Char :=
  match input with
  | [] => (false, 0, input)
  | c :: rest =>
    if c = '-' then (true, 1, rest) else if c = '+' then (false, 1, rest) else (false, 0, input)

/-- The power of ten: its sign, its digits and how many characters it takes; a letter without
digits is left alone. -/
def scanPower (input : List Char) : Option (Bool × List Char) × Nat × List Char :=
  match input with
  | [] => (none, 0, input)
  | c :: rest =>
    let sign := scanSign rest
    let digits := sign.2.2.takeWhile Char.isDigit
    if (c = 'e' ∨ c = 'E') ∧ digits ≠ [] then
      (some (sign.1, digits), 1 + sign.2.1 + digits.length, sign.2.2.dropWhile Char.isDigit)
    else (none, 0, input)

/-- The value of a number without fraction and power is an integer, any other one a double. -/
def NumberText.token (number : NumberText) : Token :=
  match number.fraction, number.power with
  | none, none =>
    if Text.numeralLimit < number.whole.length then .longNumeral number.whole.length
    else
      let size := Text.numeralValue number.whole
      .atom (.integer (if number.negative then -(size : Int) else size))
  | fraction, power =>
    let behind := fraction.getD []
    let shift : Int :=
      match power with
      | none => 0
      | some (negative, digits) =>
        if negative then -(Text.numeralValue digits : Int) else Text.numeralValue digits
    .atom (.float (Binary64.ofDecimal number.negative
      (Text.numeralValue (number.whole ++ behind)) (shift - behind.length)))

/-- The number at the front of a text behind its sign. -/
def scanUnsigned? (negative : Bool) (position : Nat) (input : List Char) :
    Option (Scanned Token) :=
  let (whole, afterWhole) := scanWhole input
  let (fraction, afterFraction) := scanFraction afterWhole
  let (power, powerLength, rest) := scanPower afterFraction
  let fractionLength := (fraction.map (·.length + 1)).getD 0
  if whole = [] then none
  else
    some
      { value := NumberText.token { negative, whole, fraction, power }
        stop := position + whole.length + fractionLength + powerLength
        rest }

/-- The number at the front of a text. -/
def scanNumber? (position : Nat) (input : List Char) : Option (Scanned Token) :=
  if input.head? = some '-' then scanUnsigned? true (position + 1) (input.drop 1)
  else scanUnsigned? false position input

/-! ## Texts and tokens -/

/-- The value of a hexadecimal digit. -/
def hexDigit? (c : Char) : Option Nat :=
  if c.isDigit then some (c.toNat - '0'.toNat)
  else if 'a' ≤ c ∧ c ≤ 'f' then some (c.toNat - 'a'.toNat + 10)
  else if 'A' ≤ c ∧ c ≤ 'F' then some (c.toNat - 'A'.toNat + 10)
  else none

/-- The code unit that four hexadecimal digits denote. -/
def hexUnit? (a b c d : Char) : Option UInt16 := do
  let a ← hexDigit? a
  let b ← hexDigit? b
  let c ← hexDigit? c
  let d ← hexDigit? d
  return .ofNat (((a * 16 + b) * 16 + c) * 16 + d)

/-- The character that an escape by a single letter stands for. -/
def escaped? (c : Char) : Option Char :=
  if c = '"' ∨ c = '\\' ∨ c = '/' then some c
  else if c = 'b' then some '\x08'
  else if c = 'f' then some '\x0c'
  else if c = 'n' then some '\n'
  else if c = 'r' then some '\r'
  else if c = 't' then some '\t'
  else none

/-- Put code units in front of those read after them. -/
def Scanned.push (units : List UInt16) (scanned : Scanned (List UInt16)) :
    Scanned (List UInt16) :=
  { scanned with value := units ++ scanned.value }

/-- Read a text up to its closing quote.  An escape by number gives a single code unit, be it half
of a surrogate pair. -/
def scanUnits (start position : Nat) : List Char → Except SyntaxError (Scanned (List UInt16))
  | [] => .error ⟨.unterminatedText, start⟩
  | '"' :: rest => .ok ⟨[], position + 1, rest⟩
  | '\\' :: [] => .error ⟨.unterminatedText, start⟩
  | '\\' :: 'u' :: a :: b :: c :: d :: rest =>
    match hexUnit? a b c d with
    | none => .error ⟨.badCodeEscape, position + 1⟩
    | some unit =>
      if rest = [] then .error ⟨.badCodeEscape, position + 1⟩
      else (scanUnits start (position + 6) rest).map (·.push [unit])
  | '\\' :: c :: rest =>
    if c = 'u' then .error ⟨.badCodeEscape, position + 1⟩
    else
      match escaped? c with
      | none => .error ⟨.badEscape, position⟩
      | some unescaped =>
        (scanUnits start (position + 2) rest).map (·.push (Text.charUnits unescaped))
  | c :: rest =>
    if c < ' ' then .error ⟨.controlCharacter, position⟩
    else (scanUnits start (position + 1) rest).map (·.push (Text.charUnits c))

/-- The token that a text makes once its opening quote has been read. -/
def scanText (start : Nat) (input : List Char) : Scanned Token :=
  match scanUnits start (start + 1) input with
  | .ok scanned => ⟨.text ⟨scanned.value⟩, scanned.stop, scanned.rest⟩
  | .error error => ⟨.brokenText error, start, []⟩

/-- The token at the front of a text that starts with a given character.  Nothing is looked for
behind a token that cannot be finished. -/
def scanToken (position : Nat) (c : Char) (rest : List Char) : Scanned Token :=
  match punctuation? c with
  | some token => ⟨token, position + 1, rest⟩
  | none =>
    if c = '"' then scanText position rest
    else
      match scanWord? position (c :: rest) with
      | some scanned => scanned
      | none => (scanNumber? position (c :: rest)).getD ⟨.stray, position, []⟩

/-- Units in front of a text that has been read do not change what is left behind it. -/
theorem rest_of_map_push {units : List UInt16} {inner : Except SyntaxError (Scanned (List UInt16))}
    {outer : Scanned (List UInt16)} (read : inner.map (·.push units) = .ok outer) :
    ∃ found, inner = .ok found ∧ found.rest = outer.rest := by
  cases inner with
  | error _ => cases read
  | ok found => cases read; exact ⟨found, rfl, rfl⟩

theorem scanUnits_length {start position : Nat} {input : List Char}
    {scanned : Scanned (List UInt16)}
    (read : scanUnits start position input = .ok scanned) :
    scanned.rest.length < input.length := by
  fun_induction scanUnits start position input generalizing scanned with
  | case2 => cases read; simp
  | case6 _ _ _ _ _ _ _ _ _ ih | case9 _ _ _ _ _ _ _ ih | case11 _ _ _ _ _ _ _ _ ih =>
    obtain ⟨found, innerRead, same⟩ := rest_of_map_push read
    have := ih innerRead
    simp [← same]
    omega
  | _ => cases read

theorem dropWord?_length {word input rest : List Char} (dropped : dropWord? word input = some rest) :
    rest.length + word.length = input.length := by
  fun_induction dropWord? word input with
  | case1 => cases dropped; simp
  | case3 _ _ _ ih => simp [← ih dropped]; omega
  | _ => cases dropped

theorem scanWord?_length {position : Nat} {input : List Char} {scanned : Scanned Token}
    (read : scanWord? position input = some scanned) : scanned.rest.length < input.length := by
  obtain ⟨word, isWord, found⟩ := List.exists_of_findSome?_eq_some read
  obtain ⟨rest, dropped, rfl⟩ := Option.map_eq_some_iff.mp found
  have total := dropWord?_length dropped
  have nonempty : 0 < word.1.length := by
    simp only [words, List.mem_cons, List.not_mem_nil, or_false] at isWord
    rcases isWord with rfl | rfl | rfl | rfl | rfl | rfl <;> decide
  simp
  omega

theorem scanWhole_length (input : List Char) :
    (scanWhole input).1.length + (scanWhole input).2.length = input.length := by
  unfold scanWhole
  split
  · cases input with
    | nil => simp at *
    | cons c rest => simp; omega
  · rw [← List.length_append, List.takeWhile_append_dropWhile]

theorem scanFraction_length (input : List Char) :
    (scanFraction input).2.length ≤ input.length := by
  unfold scanFraction
  split
  · simp
  · rename_i c rest
    have := (List.dropWhile_suffix (l := rest) Char.isDigit).length_le
    dsimp only
    split
    · simp; omega
    · simp

theorem scanSign_length (input : List Char) : (scanSign input).2.2.length ≤ input.length := by
  unfold scanSign
  split
  · simp
  · split
    · simp
    · split <;> simp

theorem scanPower_length (input : List Char) : (scanPower input).2.2.length ≤ input.length := by
  unfold scanPower
  split
  · simp
  · rename_i c rest
    have := (List.dropWhile_suffix (l := (scanSign rest).2.2) Char.isDigit).length_le
    have := scanSign_length rest
    dsimp only
    split
    · simp; omega
    · simp

theorem scanUnsigned?_length {negative : Bool} {position : Nat} {input : List Char}
    {scanned : Scanned Token} (read : scanUnsigned? negative position input = some scanned) :
    scanned.rest.length < input.length := by
  unfold scanUnsigned? at read
  dsimp only at read
  split at read
  · cases read
  · rename_i nonempty
    cases read
    have whole := scanWhole_length input
    have positive := List.length_pos_iff.mpr nonempty
    have fraction := scanFraction_length (scanWhole input).2
    have power := scanPower_length (scanFraction (scanWhole input).2).2
    change (scanPower (scanFraction (scanWhole input).2).2).2.2.length < input.length
    omega

theorem scanNumber?_length {position : Nat} {input : List Char} {scanned : Scanned Token}
    (read : scanNumber? position input = some scanned) : scanned.rest.length < input.length := by
  unfold scanNumber? at read
  split at read
  · have := scanUnsigned?_length read
    simp at this
    omega
  · exact scanUnsigned?_length read

theorem scanText_length (start : Nat) (input : List Char) :
    (scanText start input).rest.length ≤ input.length := by
  unfold scanText
  split
  · rename_i scanned read
    exact Nat.le_of_lt (scanUnits_length read)
  · simp

theorem scanToken_length (position : Nat) (c : Char) (rest : List Char) :
    (scanToken position c rest).rest.length ≤ rest.length := by
  unfold scanToken
  split
  · simp
  · split
    · exact scanText_length position rest
    · split
      · rename_i scanned read
        exact Nat.le_of_lt_succ (scanWord?_length read)
      · cases read : scanNumber? position (c :: rest) with
        | none => simp
        | some scanned => exact Nat.le_of_lt_succ (scanNumber?_length read)

/-- The tokens of a text that stands at a position. -/
def lexemes (position : Nat) : List Char → List Lexeme
  | [] => []
  | c :: rest =>
    if isSpace c then lexemes (position + 1) rest
    else
      let scanned := scanToken position c rest
      ⟨scanned.value, position⟩ :: lexemes scanned.stop scanned.rest
termination_by input => input.length
decreasing_by
  · simp
  · have := scanToken_length position c rest
    simp
    omega

end Json
end RobotCity
