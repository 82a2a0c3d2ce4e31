/-!
# The city

The corners of the city are the points of a grid.  Areas are rectangles with their edges; two of
them overlap as soon as they share a corner of the city, be it on their edges.
-/

namespace RobotCity

/-- A corner of the city. -/
structure Point where
  /-- The avenue. -/
  x : Int
  /-- The street. -/
  y : Int
  deriving DecidableEq, Repr

/-- Whether a corner is neither right of another one nor above it. -/
def Point.notAfter (point other : Point) : Bool :=
  point.x ≤ other.x && point.y ≤ other.y

/-- A rectangle of the city with its edges, from its lower left to its upper right corner. -/
structure Rectangle where
  /-- The lower left corner. -/
  low : Point
  /-- The upper right corner. -/
  high : Point
  deriving DecidableEq, Repr

namespace Rectangle

/-- Whether a corner lies in a rectangle. -/
def contains (rectangle : Rectangle) (point : Point) : Bool :=
  rectangle.low.x ≤ point.x && point.x ≤ rectangle.high.x &&
    (rectangle.low.y ≤ point.y && point.y ≤ rectangle.high.y)

/-- Whether the two corners of a rectangle are in order. -/
def isOrdered (rectangle : Rectangle) : Bool :=
  rectangle.low.notAfter rectangle.high

/-- Whether two rectangles overlap: neither lies wholly to one side of the other. -/
def overlaps (rectangle other : Rectangle) : Bool :=
  if rectangle.high.x < other.low.x then false
  else if other.high.y < rectangle.low.y then false
  else if other.high.x < rectangle.low.x then false
  else if rectangle.high.y < other.low.y then false
  else true

end Rectangle

/-- The grid of the city: the least and the greatest number of an avenue or a street. -/
structure Grid where
  /-- The least number. -/
  low : Int
  /-- The greatest number. -/
  high : Int
  deriving DecidableEq, Repr

namespace Grid

/-- The grid of a city that is not described otherwise. -/
def standard : Grid := { low := 1, high := 100 }

/-- The rectangle of all corners of the city. -/
def extent (grid : Grid) : Rectangle :=
  { low := { x := grid.low, y := grid.low }, high := { x := grid.high, y := grid.high } }

end Grid
end RobotCity
