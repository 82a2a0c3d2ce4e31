/-!
# Line ends

A line may end in a line feed, a carriage return or both; all three count as one line feed.
-/

namespace RobotCity
namespace Text

/-- A text with every line end written as a line feed. -/
def unifyNewlines : List Char → List Char
  | [] => []
  | '\r' :: '\n' :: rest => '\n' :: unifyNewlines rest
  | '\r' :: rest => '\n' :: unifyNewlines rest
  | c :: rest => c :: unifyNewlines rest

end Text
end RobotCity
