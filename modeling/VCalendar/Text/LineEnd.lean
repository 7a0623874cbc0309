/-!
# Line ends

A line ends with a carriage return and a line feed, or with either of them alone.
-/

namespace VCalendar.Text

/-- Writes every line end as a line feed. -/
def normalizeEnds : List Char → List Char
  | [] => []
  | '\r' :: '\n' :: rest => '\n' :: normalizeEnds rest
  | '\r' :: rest => '\n' :: normalizeEnds rest
  | c :: rest => c :: normalizeEnds rest

end VCalendar.Text
