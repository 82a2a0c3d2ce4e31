import RobotCity.Program.Basic
import RobotCity.Proofs.Documents.Members

/-!
# Canonical documents

A document is canonical if each of its objects has the members that are written for a part of a
program, all of them and no others, in whatever order they stand.
-/

namespace RobotCity
namespace Json

/-- The shape of an expression. -/
inductive IsExpression : Json → Prop
  | integer {document : Json} {value : Int} :
    document.Holds [("type", .string "LITERAL_INTEGER"), ("value", .integer value)] →
    IsExpression document
  | boolean {document : Json} {value : Bool} :
    document.Holds [("type", .string "LITERAL_BOOLEAN"), ("value", .boolean value)] →
    IsExpression document
  | variable {document : Json} {name : Text} :
    document.Holds [("type", .string "VARIABLE"), ("identifier", .string name)] →
    IsExpression document
  | query {document : Json} {name : Text} :
    document.Holds [("type", .string "STATE_METHOD"), ("identifier", .string name)] →
    IsExpression document
  | unary {document operand : Json} {operator : Text} : IsExpression operand →
    document.Holds
      [("type", .string "UNARY_OPERATION"), ("operator", .string operator), ("rhs", operand)] →
    IsExpression document
  | binary {document left right : Json} {operator : Text} :
    IsExpression left → IsExpression right →
    document.Holds
      [ ("type", .string "BINARY_OPERATION"), ("operator", .string operator)
      , ("lhs", left), ("rhs", right) ] →
    IsExpression document

/-- The shape of what `Informar` shows first. -/
inductive IsNotice : Json → Prop
  | text {document : Json} {content : Text} :
    document.Holds [("type", .string "STRING_LITERAL"), ("value", .string content)] →
    IsNotice document
  | value {document : Json} : IsExpression document → IsNotice document

/-- The shape of a statement. -/
inductive IsStatement : Json → Prop
  | assign {document value : Json} {target : Text} : IsExpression value →
    document.Holds
      [("type", .string "STATEMENT_ASSIGN"), ("identifier", .string target), ("value", value)] →
    IsStatement document
  | block {document : Json} {body : List Json} : (∀ item ∈ body, IsStatement item) →
    document.Holds [("type", .string "STATEMENT_BLOCK"), ("body", .array body)] →
    IsStatement document
  | ifThen {document condition body : Json} : IsExpression condition → IsStatement body →
    document.Holds [("type", .string "IF"), ("condition", condition), ("body", body)] →
    IsStatement document
  | ifElse {document condition body otherwise : Json} :
    IsExpression condition → IsStatement body → IsStatement otherwise →
    document.Holds
      [ ("type", .string "IF"), ("condition", condition), ("body", body)
      , ("else_body", otherwise) ] →
    IsStatement document
  | times {document count body : Json} : IsExpression count → IsStatement body →
    document.Holds [("type", .string "FOR"), ("condition", count), ("body", body)] →
    IsStatement document
  | loop {document condition body : Json} : IsExpression condition → IsStatement body →
    document.Holds [("type", .string "WHILE"), ("condition", condition), ("body", body)] →
    IsStatement document
  | inform {document notice : Json} : IsNotice notice →
    document.Holds [("type", .string "INFORM"), ("arg1", notice), ("arg2", .object [])] →
    IsStatement document
  | informValue {document notice value : Json} : IsNotice notice → IsExpression value →
    document.Holds [("type", .string "INFORM"), ("arg1", notice), ("arg2", value)] →
    IsStatement document
  | moveTo {document x y : Json} : IsExpression x → IsExpression y →
    document.Holds [("type", .string "CHANGE_POSITION"), ("x", x), ("y", y)] →
    IsStatement document
  | exchange {document value : Json} {mode recipient : Text} :
    mode ∈ (["SEND", "RECEIVE"] : List Text) → IsExpression value →
    document.Holds
      [ ("type", .string "MESSAGE"), ("mode", .string mode), ("value", value)
      , ("who", .string recipient) ] →
    IsStatement document
  | corner {document x y : Json} {mode : Text} :
    mode ∈ (["BLOCK", "FREE"] : List Text) → IsExpression x → IsExpression y →
    document.Holds
      [("type", .string "CONTROL_CORNER"), ("mode", .string mode), ("x", x), ("y", y)] →
    IsStatement document
  | call {document : Json} {procedure : Text} {arguments : List Json} :
    (∀ argument ∈ arguments, IsExpression argument) →
    document.Holds
      [ ("type", .string "CALL_PROCEDURE"), ("identifier", .string procedure)
      , ("parameters", .array arguments) ] →
    IsStatement document

/-- The word for the type of a variable. -/
def IsType (word : Text) : Prop :=
  word ∈ (["numero", "boolean"] : List Text)

/-- The shape of the declaration of a local variable. -/
def IsVariable (document : Json) : Prop :=
  ∃ name type, IsType type ∧
    document.Holds [("identifier", .string name), ("type_value", .string type)]

/-- The shape of the declaration of a parameter. -/
def IsParameter (document : Json) : Prop :=
  ∃ passing name type, passing ∈ (["E", "ES"] : List Text) ∧ IsType type ∧
    document.Holds
      [ ("type_parameter", .string passing), ("identifier", .string name)
      , ("type_value", .string type) ]

/-- The shape of the declaration of a procedure. -/
def IsProcedure (document : Json) : Prop :=
  ∃ name parameters locals body, (∀ item ∈ parameters, IsParameter item) ∧
    (∀ item ∈ locals, IsVariable item) ∧ (∀ item ∈ body, IsStatement item) ∧
    document.Holds
      [ ("identifier", .string name), ("parameters", .array parameters)
      , ("local_variables", .array locals), ("body", .array body) ]

/-- The shape of the declaration of a robot type. -/
def IsRobotType (document : Json) : Prop :=
  ∃ name locals body, (∀ item ∈ locals, IsVariable item) ∧ (∀ item ∈ body, IsStatement item) ∧
    document.Holds
      [("identifier", .string name), ("local_variables", .array locals), ("body", .array body)]

/-- The shape of a corner of the city. -/
def IsPoint (document : Json) : Prop :=
  ∃ x y, document.Holds [("x", .integer x), ("y", .integer y)]

/-- The shape of the declaration of an area. -/
def IsArea (document : Json) : Prop :=
  ∃ name occupancy low high, occupancy ∈ (["SHARED", "SEMI_PRIVATE", "PRIVATE"] : List Text) ∧
    IsPoint low ∧ IsPoint high ∧
    document.Holds
      [("identifier", .string name), ("type", .string occupancy), ("a", low), ("b", high)]

/-- The shape of the declaration of a robot. -/
def IsRobot (document : Json) : Prop :=
  ∃ name type, document.Holds [("identifier", .string name), ("type", .string type)]

/-- The shape of the record of an area given to a robot. -/
def IsGrant (document : Json) : Prop :=
  ∃ robot area, document.Holds [("identifier", .string robot), ("type", .string area)]

/-- The shape of the record of items given to a robot. -/
def IsSupply (document : Json) : Prop :=
  ∃ robot, ∃ kinds : List Text, ∃ quantity,
    document.Holds
      [ ("identifier", .string robot), ("type", .array (kinds.map .string))
      , ("value", .integer quantity) ]

/-- The shape of the record of the corner at which a robot starts. -/
def IsOrigin (document : Json) : Prop :=
  ∃ robot x y,
    document.Holds [("identifier", .string robot), ("x", .integer x), ("y", .integer y)]

/-- The shape of a setup. -/
def IsSetup (document : Json) : Prop :=
  ∃ grants supplies origins, (∀ item ∈ grants, IsGrant item) ∧
    (∀ item ∈ supplies, IsSupply item) ∧ (∀ item ∈ origins, IsOrigin item) ∧
    document.Holds
      [ ("assign_areas", .array grants), ("assign_items", .array supplies)
      , ("assign_origins", .array origins) ]

/-- A program may have the empty text or whatever counts as given as its name. -/
def IsName (value : Json) : Prop :=
  value = .string .empty ∨ value.isGiven

/-- The shape of a program without an envelope. -/
def IsBareProgram (document : Json) : Prop :=
  ∃ label name procedures areas robotTypes robots setup, IsName name ∧
    label.Holds [("type", .string "NAME"), ("identifier", name)] ∧
    (∀ item ∈ procedures, IsProcedure item) ∧ (∀ item ∈ areas, IsArea item) ∧
    (∀ item ∈ robotTypes, IsRobotType item) ∧ (∀ item ∈ robots, IsRobot item) ∧ IsSetup setup ∧
    document.Holds
      [ ("NAME", label), ("PROCEDURES", .array procedures), ("AREAS", .array areas)
      , ("ROBOT_TYPES", .array robotTypes), ("INSTANCES", .array robots), ("INITS", setup) ]

/-- The shape of a program with an envelope or without. -/
def IsProgram (enveloped : Bool) (document : Json) : Prop :=
  if enveloped then
    ∃ program, program.IsBareProgram ∧
      document.Holds [("type", .string "PROGRAM"), ("value", program)]
  else document.IsBareProgram

end Json
end RobotCity
