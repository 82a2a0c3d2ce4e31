import RobotCity.Program.Basic
import RobotCity.Text.Decimal
import RobotCity.Verdict

/-!
# Areas

Areas are checked in the order of their declarations.  Each has to lie in the city with its corners
in order, and must share neither its name nor a corner of the city with an area before it.  The bounds
of the city are put into words before any area is looked at, so that no areas at all are checked where a
bound is too long to be shown.
-/

namespace RobotCity

/-- The words for the coordinates in a city. -/
def Grid.boundsText (grid : Grid) : Except Text.ShowingDefect String := do
  let low ← Text.showInteger grid.low
  let high ← Text.showInteger grid.high
  return s!"between {low} and {high} on each axis"

/-- Which of the two corners of an area lie outside of the city. -/
inductive OutsideCorners where
  | first
  | second
  | both
  deriving DecidableEq, Repr

/-- Why an area is not accepted. -/
inductive AreaFault where
  /-- The bounds are those of the city, in words. -/
  | outside (corners : OutsideCorners) (area : Text) (bounds : String)
  | disordered (area : Text)
  /-- The two positions, counted from one, at which a name is declared. -/
  | repeated (area : Text) (first second : Nat)
  | overlapping (earlier later : Text)
  deriving DecidableEq, Repr

namespace AreaFault

/-- The words for the corners that lie outside. -/
def cornerWords (area : Text) : OutsideCorners → String
  | .first => s!"The first point of area '{area}'"
  | .second => s!"The second point of area '{area}'"
  | .both => s!"Both points of area '{area}'"

/-- The explanation of a fault. -/
def context : AreaFault → String
  | .outside corners area bounds =>
    s!"{cornerWords area corners} must have coordinates {bounds}"
  | .disordered area =>
    s!"The coordinates of the second point of area '{area}' must be " ++
      "greater than or equal to those of the first point"
  | .repeated area first second =>
    s!"Identifier '{area}' is used in the declaration of area {Text.natText first} " ++
      s!"and {Text.natText second}"
  | .overlapping earlier later => s!"Area '{earlier}' shares points with area '{later}'"

/-- A fault as it is reported. -/
def report (fault : AreaFault) : Report :=
  .fault "Invalid area declaration" fault.context

end AreaFault

/-- The fault of an area with its corners outside of the city. -/
def Area.outsideFault? (grid : Grid) (bounds : String) (area : Area) : Option AreaFault :=
  match grid.extent.contains area.extent.low, grid.extent.contains area.extent.high with
  | true, true => none
  | false, true => some (.outside .first area.name bounds)
  | true, false => some (.outside .second area.name bounds)
  | false, false => some (.outside .both area.name bounds)

/-- The fault of an area with its corners out of order. -/
def Area.orderFault? (area : Area) : Option AreaFault :=
  if area.extent.isOrdered then none else some (.disordered area.name)

/-- The fault of the area at a position with an earlier one. -/
def Area.clashFault? (position : Nat) (area : Area) (earlier : Area × Nat) : Option AreaFault :=
  if earlier.1.name = area.name then some (.repeated area.name (earlier.2 + 1) (position + 1))
  else if earlier.1.extent.overlaps area.extent then some (.overlapping earlier.1.name area.name)
  else none

/-- The fault of an area behind the areas before it. -/
def Area.fault? (grid : Grid) (bounds : String) (before : List Area) (area : Area) :
    Option AreaFault :=
  (area.outsideFault? grid bounds).or
    (area.orderFault?.or
      (before.zipIdx.findSome? (area.clashFault? before.length)))

/-- The first fault of areas that stand behind others. -/
def areasFaultFrom? (grid : Grid) (bounds : String) (before : List Area) :
    List Area → Option AreaFault
  | [] => none
  | area :: rest =>
    (area.fault? grid bounds before).or (areasFaultFrom? grid bounds (before ++ [area]) rest)

/-- The first fault of the areas of a program, unless a bound of the city is too long to be shown. -/
def areasFault? (grid : Grid) (areas : List Area) :
    Except Text.ShowingDefect (Option AreaFault) := do
  let bounds ← grid.boundsText
  return areasFaultFrom? grid bounds [] areas

end RobotCity
