import Mathlib.Logic.Relation
import RobotCity.Program.OfJson

/-!
# Forms of objects

What a program document has to hold is said by a table: for each form of object the names under
which something is read, in reading order, and what is read there.  From this table come the spots
of a document, that is the values that are read as objects, and the defects of each spot.
-/

namespace RobotCity

/-- The forms of the objects in a program document. -/
inductive Form where
  | program
  | procedure
  | parameter
  | variable
  | robotType
  | area
  | point
  | robot
  | setup
  | grant
  | supply
  | origin
  | statement
  /-- What `Informar` shows first. -/
  | notice
  | expression
  deriving DecidableEq, Repr

/-- When an object under a name is read. -/
inductive Presence where
  /-- Always; null stands for what is missing. -/
  | always
  /-- If its value counts as given. -/
  | ifGiven
  /-- If its name occurs. -/
  | ifNamed
  deriving DecidableEq, Repr

/-- What is read under a name of an object. -/
inductive Slot where
  | text
  | integer
  | boolean
  | token (words : List Text)
  /-- A list of texts, which has to be there. -/
  | texts
  /-- A list of objects. -/
  | list (isRequired : Bool) (form : Form)
  /-- An object. -/
  | part (presence : Presence) (form : Form)
  deriving DecidableEq

/-- What is read of an expression. -/
def ExpressionTag.slots : ExpressionTag → List (String × Slot)
  | .integer => [("value", .integer)]
  | .boolean => [("value", .boolean)]
  | .variable => [("identifier", .text)]
  | .query => [("identifier", .text)]
  | .unary => [("operator", .text), ("rhs", .part .always .expression)]
  | .binary =>
    [ ("operator", .text), ("lhs", .part .always .expression)
    , ("rhs", .part .always .expression) ]

/-- What is read of a statement. -/
def StatementTag.slots : StatementTag → List (String × Slot)
  | .assign => [("identifier", .text), ("value", .part .always .expression)]
  | .block => [("body", .list true .statement)]
  | .branch =>
    [ ("condition", .part .always .expression), ("body", .part .always .statement)
    , ("else_body", .part .ifGiven .statement) ]
  | .times => [("condition", .part .always .expression), ("body", .part .always .statement)]
  | .loop => [("condition", .part .always .expression), ("body", .part .always .statement)]
  | .inform => [("arg1", .part .always .notice), ("arg2", .part .ifGiven .expression)]
  | .moveTo => [("x", .part .always .expression), ("y", .part .always .expression)]
  | .exchange =>
    [ ("mode", .token (MessageMode.tokens.map (·.1))), ("value", .part .always .expression)
    , ("who", .text) ]
  | .corner =>
    [ ("mode", .token (CornerMode.tokens.map (·.1))), ("x", .part .always .expression)
    , ("y", .part .always .expression) ]
  | .call => [("identifier", .text), ("parameters", .list false .expression)]

namespace Form

/-- What is read of an expression, unless its tag is unknown. -/
def expressionSlots (members : List (Text × Json)) :
    Except ShapeDefect (List (String × Slot)) :=
  match findTag ExpressionTag.ofToken? members with
  | some tag => .ok tag.slots
  | none => .error (.unknownExpression (tagOf members))

/-- What is read of a statement, unless its tag is unknown. -/
def statementSlots (members : List (Text × Json)) :
    Except ShapeDefect (List (String × Slot)) :=
  match findTag StatementTag.ofToken? members with
  | some tag => .ok tag.slots
  | none => .error (.unknownStatement (tagOf members))

/-- What is read of an object of a form, in reading order, unless its tag is unknown. -/
def slots : Form → List (Text × Json) → Except ShapeDefect (List (String × Slot))
  | .program, _ => .ok
    [ ("PROCEDURES", .list false .procedure), ("AREAS", .list false .area)
    , ("ROBOT_TYPES", .list false .robotType), ("INSTANCES", .list false .robot)
    , ("INITS", .part .ifNamed .setup) ]
  | .procedure, _ => .ok
    [ ("parameters", .list false .parameter), ("identifier", .text)
    , ("local_variables", .list false .variable), ("body", .list true .statement) ]
  | .parameter, _ => .ok
    [ ("type_parameter", .token (Passing.tokens.map (·.1))), ("identifier", .text)
    , ("type_value", .token (ValueType.tokens.map (·.1))) ]
  | .variable, _ => .ok
    [("identifier", .text), ("type_value", .token (ValueType.tokens.map (·.1)))]
  | .robotType, _ => .ok
    [ ("identifier", .text), ("local_variables", .list false .variable)
    , ("body", .list true .statement) ]
  | .area, _ => .ok
    [ ("identifier", .text), ("type", .token (Occupancy.tokens.map (·.1)))
    , ("a", .part .always .point), ("b", .part .always .point) ]
  | .point, _ => .ok [("x", .integer), ("y", .integer)]
  | .robot, _ => .ok [("identifier", .text), ("type", .text)]
  | .setup, _ => .ok
    [ ("assign_areas", .list false .grant), ("assign_items", .list false .supply)
    , ("assign_origins", .list false .origin) ]
  | .grant, _ => .ok [("identifier", .text), ("type", .text)]
  | .supply, _ => .ok [("type", .texts), ("identifier", .text), ("value", .integer)]
  | .origin, _ => .ok [("identifier", .text), ("x", .integer), ("y", .integer)]
  | .statement, members => statementSlots members
  | .notice, members =>
    if tagOf members = .string textTag then .ok [("value", .text)] else expressionSlots members
  | .expression, members => expressionSlots members

/-- Whether the tag of an object counts. -/
def isTagged : Form → Bool
  | .statement | .notice | .expression => true
  | _ => false

/-- A slot is read of an object of a form. -/
def HasSlot (form : Form) (members : List (Text × Json)) (name : String) (slot : Slot) : Prop :=
  ∃ slots, form.slots members = .ok slots ∧ (name, slot) ∈ slots

theorem slots_congr {form : Form} {members others : List (Text × Json)}
    (same_tag : form.isTagged → tagOf members = tagOf others) :
    form.slots members = form.slots others := by
  cases form <;>
    simp_all [slots, isTagged, expressionSlots, statementSlots, findTag]

end Form

theorem Json.sizeOf_item_lt {members : List (Text × Json)} {name : Text} {items : List Json}
    {item : Json} (found : Json.member? members name = some (.array items))
    (item_member : item ∈ items) :
    sizeOf item < sizeOf (Json.object members) := by
  have item_lt := List.sizeOf_lt_of_mem item_member
  have items_lt := Json.sizeOf_member?_lt found
  rw [Json.array.sizeOf_spec] at items_lt
  rw [Json.object.sizeOf_spec]
  omega

/-- A value of a document that is read as an object, and its place. -/
structure Spot where
  form : Form
  place : Place
  value : Json

namespace Slot

/-- What is wrong with a member itself, whatever the objects in it are. -/
def defect? (slot : Slot) (members : List (Text × Json)) (name : String) : Option ShapeDefect :=
  match slot with
  | .text =>
    match Json.member members name with
    | .string _ => none
    | _ => some (.notText name)
  | .integer =>
    match Json.member members name with
    | .integer _ => none
    | _ => some (.notInteger name)
  | .boolean =>
    match Json.member members name with
    | .boolean _ => none
    | _ => some (.notBoolean name)
  | .token words =>
    match Json.member members name with
    | .string word => if word ∈ words then none else some (.unknownToken name word words)
    | _ => some (.notText name)
  | .texts =>
    match Json.member? members name with
    | none => some (.missing name)
    | some (.array items) => if (texts? items).isSome then none else some (.notTexts name)
    | some _ => some (.notList name)
  | .list isRequired _ =>
    match Json.member? members name with
    | none => if isRequired then some (.missing name) else none
    | some (.array _) => none
    | some _ => some (.notList name)
  | .part _ _ => none

/-- The spots under a name of an object at a place. -/
def spots (slot : Slot) (place : Place) (members : List (Text × Json)) (name : String) :
    List Spot :=
  match slot with
  | .list _ form =>
    match Json.member? members name with
    | some (.array items) => items.zipIdx.map fun (item, index) =>
      { form, place := (place.field name).item index, value := item }
    | _ => []
  | .part presence form =>
    let spot : Spot := { form, place := place.field name, value := Json.member members name }
    match presence with
    | .always => [spot]
    | .ifGiven => if (Json.member members name).isGiven then [spot] else []
    | .ifNamed => if (Json.member? members name).isSome then [spot] else []
  | _ => []

variable {place : Place} {members : List (Text × Json)} {name : String} {spot : Spot}

theorem mem_spots_list_iff {isRequired : Bool} {form : Form} :
    spot ∈ (list isRequired form).spots place members name ↔ ∃ items index item,
      Json.member? members name = some (.array items) ∧ items[index]? = some item ∧
        spot = { form, place := (place.field name).item index, value := item } := by
  rw [spots]
  split
  · rename_i items found
    simp only [List.mem_map, Prod.exists, List.mem_zipIdx_iff_getElem?]
    constructor
    · rintro ⟨item, index, there, rfl⟩
      exact ⟨items, index, item, found, there, rfl⟩
    · rintro ⟨others, index, item, found_others, there, rfl⟩
      cases found.symm.trans found_others
      exact ⟨item, index, there, rfl⟩
  · rename_i not_list
    constructor
    · intro member
      cases member
    · rintro ⟨items, index, item, found, -⟩
      exact absurd found (not_list items)

theorem eq_of_mem_spots_part {presence : Presence} {form : Form}
    (member : spot ∈ (part presence form).spots place members name) :
    spot = { form, place := place.field name, value := Json.member members name } := by
  cases presence with
  | always => simpa [spots] using member
  | ifGiven =>
      rw [spots] at member
      split at member <;> simp_all
  | ifNamed =>
      rw [spots] at member
      split at member <;> simp_all

theorem sizeOf_lt_of_mem_spots {slot : Slot} (member : spot ∈ slot.spots place members name) :
    sizeOf spot.value < sizeOf (Json.object members) := by
  cases slot with
  | list isRequired form =>
      obtain ⟨items, index, item, found, there, rfl⟩ := mem_spots_list_iff.mp member
      exact Json.sizeOf_item_lt found (List.mem_of_getElem? there)
  | part presence form =>
      obtain rfl := eq_of_mem_spots_part member
      exact Json.sizeOf_member_lt members _
  | _ => cases member

end Slot

namespace Spot

/-- What is wrong with a spot itself. -/
def ownDefects (spot : Spot) : List ShapeDefect :=
  match spot.value with
  | .object members =>
    match spot.form.slots members with
    | .error defect => [defect]
    | .ok slots => slots.filterMap fun (name, slot) => slot.defect? members name
  | value => [.notObject value.kind]

/-- The spots right below a spot, in reading order. -/
def children (spot : Spot) : List Spot :=
  match spot.value with
  | .object members =>
    match spot.form.slots members with
    | .error _ => []
    | .ok slots => slots.flatMap fun (name, slot) => slot.spots spot.place members name
  | _ => []

/-- The defects of a spot and of all spots below it, in reading order. -/
def defects (spot : Spot) : List ShapeError :=
  match _ : spot.value with
  | .object members =>
    match spot.form.slots members with
    | .error defect => [⟨defect, spot.place⟩]
    | .ok slots => slots.flatMap fun (name, slot) =>
      (slot.defect? members name).toList.map (⟨·, spot.place⟩) ++
        (slot.spots spot.place members name).attach.flatMap fun ⟨child, _⟩ => child.defects
  | value => [⟨.notObject value.kind, spot.place⟩]
termination_by sizeOf spot.value
decreasing_by
  rename_i found member
  rw [found]
  exact Slot.sizeOf_lt_of_mem_spots member

end Spot

/-- The defects under a name of an object at a place, in reading order. -/
def Slot.defects (slot : Slot) (place : Place) (members : List (Text × Json)) (name : String) :
    List ShapeError :=
  (slot.defect? members name).toList.map (⟨·, place⟩) ++
    (slot.spots place members name).flatMap Spot.defects

namespace Spot

variable {form : Form} {place : Place} {members : List (Text × Json)}

theorem defects_of_slots {slots : List (String × Slot)} (known : form.slots members = .ok slots) :
    defects ⟨form, place, .object members⟩ =
      slots.flatMap fun (name, slot) => slot.defects place members name := by
  rw [defects]
  simp only [known]
  congr 1
  funext ⟨name, slot⟩
  rw [Slot.defects, List.flatMap_subtype (g := defects) (by simp), List.unattach_attach]

theorem defects_of_unknown {defect : ShapeDefect} (unknown : form.slots members = .error defect) :
    defects ⟨form, place, .object members⟩ = [⟨defect, place⟩] := by
  rw [defects]
  simp only [unknown]

theorem defects_congr {other : Form} (same : form.slots members = other.slots members) :
    defects ⟨form, place, .object members⟩ = defects ⟨other, place, .object members⟩ := by
  rw [defects, defects]
  simp only [same]

theorem defects_of_not_object {value : Json} (not_object : ∀ members, value ≠ .object members) :
    defects ⟨form, place, value⟩ = [⟨.notObject value.kind, place⟩] := by
  rw [defects]
  cases value <;> simp_all

/-- A spot is reached from another one by going down. -/
def Reaches : Spot → Spot → Prop :=
  Relation.ReflTransGen fun spot child => child ∈ spot.children

end Spot
end RobotCity
