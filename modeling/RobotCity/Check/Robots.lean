import RobotCity.Check.Repetition
import RobotCity.Program.Basic
import RobotCity.Verdict

/-!
# Robots

Robots have names of their own, and each is of a robot type that the program declares.
-/

namespace RobotCity

/-- Why the declaration of a robot is not accepted. -/
inductive RobotFault where
  | repeated (repetition : Repetition)
  /-- The position of the declaration, counted from one. -/
  | unknownType (type : Text) (position : Nat)
  deriving DecidableEq, Repr

namespace RobotFault

/-- The explanation of a fault. -/
def context : RobotFault → String
  | .repeated repetition =>
    s!"Identifier '{repetition.name}' is used in declaration {repetition.places} " ++
      "of the robot instances"
  | .unknownType type position =>
    s!"Robot type '{type}' was not declared and is used in " ++
      s!"instance declaration {Text.natText position}"

/-- A fault as it is reported. -/
def report (fault : RobotFault) : Report :=
  .fault "Invalid instance declaration" fault.context

end RobotFault

/-- The fault of a robot whose type is not among the declared ones. -/
def Robot.typeFault? (types : List Text) (robot : Robot × Nat) : Option RobotFault :=
  if robot.1.type ∈ types then none else some (.unknownType robot.1.type robot.2)

/-- The first fault of the robots of a program. -/
def robotsFault? (robots : List Robot) (robotTypes : List RobotType) : Option RobotFault :=
  match repetition? (robots.map (·.name)) with
  | some repetition => some (.repeated repetition)
  | none => (robots.zipIdx 1).findSome? (Robot.typeFault? (robotTypes.map (·.name)))

end RobotCity
