import RobotCity.Binary64
import RobotCity.Text.Basic

/-!
# JSON values

Programs and settings arrive as JSON.  Integers are unbounded and distinct from doubles, and an
object keeps its members in the order in which their names first appeared.
-/

namespace RobotCity

/-- A JSON value. -/
inductive Json where
  | null
  | boolean (value : Bool)
  | integer (value : Int)
  | float (value : Binary64)
  | string (text : Text)
  | array (items : List Json)
  | object (members : List (Text × Json))

namespace Json

/-- The seven kinds of JSON values. -/
inductive Kind where
  | null
  | boolean
  | integer
  | float
  | string
  | array
  | object
  deriving DecidableEq, Repr

/-- The name of a kind in messages. -/
def Kind.name : Kind → String
  | .null => "NoneType"
  | .boolean => "bool"
  | .integer => "int"
  | .float => "float"
  | .string => "str"
  | .array => "list"
  | .object => "dict"

/-- The kind of a value. -/
def kind : Json → Kind
  | .null => .null
  | .boolean _ => .boolean
  | .integer _ => .integer
  | .float _ => .float
  | .string _ => .string
  | .array _ => .array
  | .object _ => .object

/-- Whether a value counts as given: null, false, zero and everything empty do not. -/
def isGiven : Json → Bool
  | .null => false
  | .boolean value => value
  | .integer value => value != 0
  | .float value => !value.isZero
  | .string text => !text.isEmpty
  | .array items => !items.isEmpty
  | .object members => !members.isEmpty

/-- The value under a name, if the name occurs. -/
def member? (members : List (Text × Json)) (name : Text) : Option Json :=
  members.lookup name

/-- The value under a name, null if the name does not occur. -/
def member (members : List (Text × Json)) (name : Text) : Json :=
  (member? members name).getD .null

/-- Set the value under a name, which keeps its place if it occurs already. -/
def setMember (name : Text) (value : Json) : List (Text × Json) → List (Text × Json)
  | [] => [(name, value)]
  | (other, old) :: rest =>
    if other = name then (name, value) :: rest else (other, old) :: setMember name value rest

theorem sizeOf_member?_lt {members : List (Text × Json)} {name : Text} {value : Json}
    (found : member? members name = some value) : sizeOf value < sizeOf members := by
  unfold member? at found
  induction members with
  | nil => simp at found
  | cons entry rest ih =>
    obtain ⟨other, old⟩ := entry
    rw [List.lookup_cons] at found
    split at found
    · cases found
      simp
      omega
    · have := ih found
      simp
      omega

theorem sizeOf_member_lt (members : List (Text × Json)) (name : Text) :
    sizeOf (member members name) < sizeOf (Json.object members) := by
  unfold member
  cases found : member? members name with
  | none =>
    cases members with
    | nil => decide
    | cons entry rest =>
      rw [Option.getD_none, null.sizeOf_spec, object.sizeOf_spec, List.cons.sizeOf_spec]
      omega
  | some value =>
    have := sizeOf_member?_lt found
    simp
    omega

mutual

/-- The integers that stand in a value. -/
def integers : Json → List Int
  | .integer value => [value]
  | .array items => itemIntegers items
  | .object members => memberIntegers members
  | _ => []

/-- The integers that stand in items. -/
def itemIntegers : List Json → List Int
  | [] => []
  | item :: rest => integers item ++ itemIntegers rest

/-- The integers that stand in members. -/
def memberIntegers : List (Text × Json) → List Int
  | [] => []
  | (_, value) :: rest => integers value ++ memberIntegers rest

end

mutual

/-- Whether two values are the same. -/
def same : Json → Json → Bool
  | .null, .null => true
  | .boolean a, .boolean b => a == b
  | .integer a, .integer b => a == b
  | .float a, .float b => a == b
  | .string a, .string b => a == b
  | .array a, .array b => sameItems a b
  | .object a, .object b => sameMembers a b
  | _, _ => false

/-- Whether two arrays hold the same items. -/
def sameItems : List Json → List Json → Bool
  | [], [] => true
  | a :: as, b :: bs => same a b && sameItems as bs
  | _, _ => false

/-- Whether two objects hold the same members in the same order. -/
def sameMembers : List (Text × Json) → List (Text × Json) → Bool
  | [], [] => true
  | (name, a) :: as, (other, b) :: bs => name == other && same a b && sameMembers as bs
  | _, _ => false

end

mutual

theorem same_iff (a b : Json) : same a b = true ↔ a = b := by
  cases a with
  | array items =>
    cases b with
    | array others => simpa [same] using sameItems_iff items others
    | _ => simp [same]
  | object members =>
    cases b with
    | object others => simpa [same] using sameMembers_iff members others
    | _ => simp [same]
  | _ => cases b <;> simp [same]

theorem sameItems_iff (a b : List Json) : sameItems a b = true ↔ a = b := by
  cases a with
  | nil => cases b <;> simp [sameItems]
  | cons item items =>
    cases b with
    | nil => simp [sameItems]
    | cons other others => simp [sameItems, same_iff item other, sameItems_iff items others]

theorem sameMembers_iff (a b : List (Text × Json)) : sameMembers a b = true ↔ a = b := by
  match a, b with
  | [], [] => simp [sameMembers]
  | [], _ :: _ => simp [sameMembers]
  | _ :: _, [] => simp [sameMembers]
  | (name, value) :: members, (other, otherValue) :: others =>
    simp [sameMembers, same_iff value otherValue, sameMembers_iff members others, and_assoc]

end

instance : DecidableEq Json := fun a b => decidable_of_iff _ (same_iff a b)

/-- A value as a key of a table, where numbers count by their size alone: true is one, false is
zero, and a whole double is the integer that it denotes. -/
def asKey : Json → Json
  | .boolean value => .integer (if value then 1 else 0)
  | .float value => (value.toInt?.map .integer).getD (.float value)
  | value => value

/-- Whether a value can be a key of a table: arrays and objects cannot. -/
def isKey : Json → Bool
  | .array _ => false
  | .object _ => false
  | _ => true

end Json
end RobotCity
