import RobotCity.Json.Printer

/-!
# The shape of program documents

A document that does not have the shape of a program is refused at the first place, in reading
order, whose own shape is wrong.  A place is reached from the root by the names of members and the
positions of items.  The refusal says in words what is wrong; where these words would have to show an
integer of too many digits, it is this that the document is refused for, and no place is told.
-/

namespace RobotCity

/-- A place in a document. -/
inductive Place where
  /-- The program document itself. -/
  | program
  /-- A part of a program that is read alone, under a label. -/
  | part (label : String)
  /-- A member of an object. -/
  | field (whole : Place) (name : String)
  /-- An item of an array. -/
  | item (whole : Place) (index : Nat)
  deriving DecidableEq, Repr

namespace Place

/-- A place as it is shown.  The members of the program document are shown by their names alone. -/
def text : Place → String
  | .program => "program"
  | .part label => label
  | .field .program name => name
  | .field whole name => whole.text ++ "." ++ name
  | .item whole index => whole.text ++ "[" ++ Text.natText index ++ "]"

end Place

/-- What can be wrong with the shape of a place. -/
inductive ShapeDefect where
  | notObject (found : Json.Kind)
  | missing (name : String)
  | notList (name : String)
  | notText (name : String)
  | notInteger (name : String)
  | notBoolean (name : String)
  | notTexts (name : String)
  | unknownToken (name : String) (token : Text) (allowed : List Text)
  | unknownStatement (tag : Json)
  | unknownExpression (tag : Json)
  deriving DecidableEq

/-- The wording of a defect, unless it has to show what cannot be shown. -/
def ShapeDefect.message : ShapeDefect → Except Text.ShowingDefect String
  | .notObject found => .ok s!"Expected an object, got {found.name}"
  | .missing name => .ok s!"Missing key '{name}'"
  | .notList name => .ok s!"Expected '{name}' to be a list"
  | .notText name => .ok s!"Expected '{name}' to be a string"
  | .notInteger name => .ok s!"Expected '{name}' to be an integer"
  | .notBoolean name => .ok s!"Expected '{name}' to be a boolean"
  | .notTexts name => .ok s!"Expected '{name}' to be a list of strings"
  | .unknownToken name token allowed =>
    .ok (s!"Unexpected {name} '{token}', expected one of " ++
      String.ofList (Json.shown (.array (allowed.map .string))))
  | .unknownStatement tag => tag.shownText.map ("Unknown statement type " ++ ·)
  | .unknownExpression tag => tag.shownText.map ("Unknown expression type " ++ ·)

/-- A defect and its place. -/
structure ShapeError where
  defect : ShapeDefect
  place : Place
  deriving DecidableEq

/-- The wording of a defect with its place, which is left out if it is shown as nothing. -/
def ShapeError.message (error : ShapeError) : Except Text.ShowingDefect String :=
  error.defect.message.map
    (· ++ if error.place.text = "" then "" else s!" at {error.place.text}")

/-- Why a document is not loaded. -/
inductive LoadError where
  /-- Its shape is wrong. -/
  | misshapen (error : ShapeError)
  /-- Its shape is wrong, but what is wrong with it cannot be put into words. -/
  | unshown (defect : Text.ShowingDefect)
  deriving DecidableEq

/-- What comes of a shape error when it is put into words. -/
def ShapeError.raised (error : ShapeError) : LoadError :=
  match error.message with
  | .ok _ => .misshapen error
  | .error defect => .unshown defect

/-- The members of an object. -/
def readObject (place : Place) : Json → Except ShapeError (List (Text × Json))
  | .object members => .ok members
  | value => .error ⟨.notObject value.kind, place⟩

/-- The items of a member that has to be there. -/
def readList (place : Place) (members : List (Text × Json)) (name : String) :
    Except ShapeError (List Json) :=
  match Json.member? members name with
  | none => .error ⟨.missing name, place⟩
  | some (.array items) => .ok items
  | some _ => .error ⟨.notList name, place⟩

/-- The items of a member that may be left out. -/
def readOptionalList (place : Place) (members : List (Text × Json)) (name : String) :
    Except ShapeError (List Json) :=
  match Json.member? members name with
  | none => .ok []
  | some (.array items) => .ok items
  | some _ => .error ⟨.notList name, place⟩

/-- The text of a member. -/
def readText (place : Place) (members : List (Text × Json)) (name : String) :
    Except ShapeError Text :=
  match Json.member members name with
  | .string text => .ok text
  | _ => .error ⟨.notText name, place⟩

/-- The integer of a member. -/
def readInteger (place : Place) (members : List (Text × Json)) (name : String) :
    Except ShapeError Int :=
  match Json.member members name with
  | .integer value => .ok value
  | _ => .error ⟨.notInteger name, place⟩

/-- The truth value of a member. -/
def readBoolean (place : Place) (members : List (Text × Json)) (name : String) :
    Except ShapeError Bool :=
  match Json.member members name with
  | .boolean value => .ok value
  | _ => .error ⟨.notBoolean name, place⟩

/-- What the token of a member stands for. -/
def readToken {α : Type} (tokens : List (Text × α)) (place : Place)
    (members : List (Text × Json)) (name : String) : Except ShapeError α := do
  let token ← readText place members name
  match tokens.lookup token with
  | some value => .ok value
  | none => .error ⟨.unknownToken name token (tokens.map (·.1)), place⟩

/-- The texts that a list consists of. -/
def texts? : List Json → Option (List Text)
  | [] => some []
  | .string text :: rest => (texts? rest).map (text :: ·)
  | _ :: _ => none

/-- The texts of a member that has to be a list of them. -/
def readTexts (place : Place) (members : List (Text × Json)) (name : String) :
    Except ShapeError (List Text) := do
  let items ← readList place members name
  match texts? items with
  | some texts => .ok texts
  | none => .error ⟨.notTexts name, place⟩

/-- Read the items of a list, each at its own place, from a position on. -/
def readEach {α : Type} (read : Place → Json → Except ShapeError α) (place : Place) :
    Nat → List Json → Except ShapeError (List α)
  | _, [] => .ok []
  | index, value :: rest => do
    let first ← read (place.item index) value
    let others ← readEach read place (index + 1) rest
    return first :: others

theorem sizeOf_readList_lt {place : Place} {members : List (Text × Json)} {name : String}
    {items : List Json} (read : readList place members name = .ok items) :
    sizeOf items < sizeOf (Json.object members) := by
  unfold readList at read
  split at read
  · cases read
  · rename_i found
    cases read
    have := Json.sizeOf_member?_lt found
    simp at this ⊢
    omega
  · cases read

end RobotCity
