import RobotCity.Json.Token

/-!
# Reading JSON

The reader walks once over the tokens of a text.  Its state says what may come next and keeps the
arrays and objects that are still open, innermost first, so that no depth of nesting is special.
-/

namespace RobotCity
namespace Json

/-- An array or object that is still open. -/
inductive Frame where
  /-- The items read so far, last first. -/
  | array (items : List Json)
  /-- The members read so far and the name whose value comes next. -/
  | object (members : List (Text × Json)) (name : Text)

/-- What the reader waits for, and what is still open around it. -/
inductive ReaderState where
  /-- A value is due. -/
  | valueDue (frames : List Frame)
  /-- An array has been opened: a value or its end is due. -/
  | itemDue (frames : List Frame)
  /-- An object has been opened: a name or its end is due. -/
  | memberDue (frames : List Frame)
  /-- The name of another member is due. -/
  | nameDue (frames : List Frame) (members : List (Text × Json))
  /-- The colon behind a name is due. -/
  | colonDue (frames : List Frame) (members : List (Text × Json)) (name : Text)
  /-- A value has been read: a comma or an end is due. -/
  | valueRead (frames : List Frame) (value : Json)

/-- Why a text is not read as a JSON value. -/
inductive ReadError where
  /-- The text is not JSON. -/
  | malformed (error : SyntaxError)
  /-- The text holds an integer of too many digits. -/
  | longNumeral (digits : Nat)
  deriving DecidableEq, Repr

/-- The refusal of a token. -/
def refuse (defect : SyntaxDefect) (position : Nat) : Except ReadError ReaderState :=
  .error (.malformed ⟨defect, position⟩)

/-- A token where a value is due. -/
def startValue (frames : List Frame) (lexeme : Lexeme) : Except ReadError ReaderState :=
  match lexeme.token with
  | .openObject => .ok (.memberDue frames)
  | .openArray => .ok (.itemDue frames)
  | .atom value => .ok (.valueRead frames value)
  | .text content => .ok (.valueRead frames (.string content))
  | .longNumeral digits => .error (.longNumeral digits)
  | .brokenText error => .error (.malformed error)
  | _ => refuse .expectingValue lexeme.position

/-- A token where the name of a member is due. -/
def startMember (frames : List Frame) (members : List (Text × Json)) (lexeme : Lexeme) :
    Except ReadError ReaderState :=
  match lexeme.token with
  | .text name => .ok (.colonDue frames members name)
  | .brokenText error => .error (.malformed error)
  | _ => refuse .expectingName lexeme.position

/-- A token behind a value. -/
def closeValue (value : Json) (lexeme : Lexeme) : List Frame → Except ReadError ReaderState
  | [] => refuse .extraData lexeme.position
  | .array items :: frames =>
    match lexeme.token with
    | .comma => .ok (.valueDue (.array (value :: items) :: frames))
    | .closeArray => .ok (.valueRead frames (.array (value :: items).reverse))
    | _ => refuse .expectingComma lexeme.position
  | .object members name :: frames =>
    match lexeme.token with
    | .comma => .ok (.nameDue frames (setMember name value members))
    | .closeObject => .ok (.valueRead frames (.object (setMember name value members)))
    | _ => refuse .expectingComma lexeme.position

/-- Take one token. -/
def ReaderState.next : ReaderState → Lexeme → Except ReadError ReaderState
  | .valueDue frames, lexeme => startValue frames lexeme
  | .itemDue frames, lexeme =>
    match lexeme.token with
    | .closeArray => .ok (.valueRead frames (.array []))
    | _ => startValue (.array [] :: frames) lexeme
  | .memberDue frames, lexeme =>
    match lexeme.token with
    | .closeObject => .ok (.valueRead frames (.object []))
    | _ => startMember frames [] lexeme
  | .nameDue frames members, lexeme => startMember frames members lexeme
  | .colonDue frames members name, lexeme =>
    match lexeme.token with
    | .colon => .ok (.valueDue (.object members name :: frames))
    | _ => refuse .expectingColon lexeme.position
  | .valueRead frames value, lexeme => closeValue value lexeme frames

/-- The value that has been read when no token is left, at the position of the end. -/
def ReaderState.finish (position : Nat) : ReaderState → Except ReadError Json
  | .valueDue _ | .itemDue _ => .error (.malformed ⟨.expectingValue, position⟩)
  | .memberDue _ | .nameDue _ _ => .error (.malformed ⟨.expectingName, position⟩)
  | .colonDue _ _ _ => .error (.malformed ⟨.expectingColon, position⟩)
  | .valueRead [] value => .ok value
  | .valueRead (_ :: _) _ => .error (.malformed ⟨.expectingComma, position⟩)

/-- Read a text as one JSON value. -/
def readChars (text : List Char) : Except ReadError Json :=
  if text.head? = some '\ufeff' then .error (.malformed ⟨.byteOrderMark, 0⟩)
  else do
    let state ← (lexemes 0 text).foldlM ReaderState.next (.valueDue [])
    state.finish text.length

/-- Read a text as one JSON value. -/
def read (text : String) : Except ReadError Json :=
  readChars text.toList

/-- The wording of a defect. -/
def SyntaxDefect.message : SyntaxDefect → String
  | .byteOrderMark => "Unexpected UTF-8 BOM (decode using utf-8-sig)"
  | .expectingValue => "Expecting value"
  | .expectingName => "Expecting property name enclosed in double quotes"
  | .expectingColon => "Expecting ':' delimiter"
  | .expectingComma => "Expecting ',' delimiter"
  | .extraData => "Extra data"
  | .unterminatedText => "Unterminated string starting at"
  | .controlCharacter => "Invalid control character at"
  | .badEscape => "Invalid \\escape"
  | .badCodeEscape => "Invalid \\uXXXX escape"

/-- The line, counted from one, in which a position of a text lies. -/
def lineAt (text : List Char) (position : Nat) : Nat :=
  (text.take position).count '\n' + 1

/-- The column, counted from one, at which a position of a text lies in its line. -/
def columnAt (text : List Char) (position : Nat) : Nat :=
  ((text.take position).reverse.takeWhile (· != '\n')).length + 1

/-- The wording of the refusal of a numeral of too many digits. -/
def longNumeralMessage (digits : Nat) : String :=
  s!"Exceeds the limit ({Text.natText Text.numeralLimit} digits) for integer string conversion: " ++
    s!"value has {Text.natText digits} digits; " ++
    "use sys.set_int_max_str_digits() to increase the limit"

/-- The wording of a defect in a text, with its place. -/
def SyntaxError.message (text : List Char) (error : SyntaxError) : String :=
  s!"{error.defect.message}: line {Text.natText (lineAt text error.position)} " ++
    s!"column {Text.natText (columnAt text error.position)} " ++
    s!"(char {Text.natText error.position})"

end Json
end RobotCity
