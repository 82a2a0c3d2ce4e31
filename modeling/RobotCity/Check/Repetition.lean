import RobotCity.NameTable
import RobotCity.Text.Decimal

/-!
# Repeated names

The first repetition in a list of names is the earliest place at which a name stands that has stood
before.
-/

namespace RobotCity

/-- A name that stands at two places, which are counted from one. -/
structure Repetition where
  name : Text
  /-- Where it stands first. -/
  first : Nat
  /-- Where it stands again. -/
  second : Nat
  deriving DecidableEq, Repr

/-- The two places of a repetition in words. -/
def Repetition.places (repetition : Repetition) : String :=
  s!"{Text.natText repetition.first} and {Text.natText repetition.second}"

/-- The first repetition among names that stand behind others, whose places are known. -/
def repetitionFrom? (seen : NameTable Nat) (position : Nat) : List Text → Option Repetition
  | [] => none
  | name :: rest =>
    match seen.find? name with
    | some first => some { name, first, second := position }
    | none => repetitionFrom? (seen.declare name position) (position + 1) rest

/-- The first repetition among names. -/
def repetition? (names : List Text) : Option Repetition :=
  repetitionFrom? .empty 1 names

end RobotCity
