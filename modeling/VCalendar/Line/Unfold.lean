import VCalendar.Text.LineEnd

/-!
# Logical lines

A text is a sequence of logical lines.  A logical line may be folded: a carriage
return, a line feed and a space inside it stand for nothing.  Folds are taken out
before the line ends are looked at.
-/

namespace VCalendar.Line

/-- Takes out the folds. -/
def joinFolds : List Char → List Char
  | [] => []
  | '\r' :: '\n' :: ' ' :: rest => joinFolds rest
  | c :: rest => c :: joinFolds rest

/-- The logical lines of a text; there is always at least one. -/
def unfoldChars (cs : List Char) : List (List Char) :=
  (Text.normalizeEnds (joinFolds cs)).splitOn '\n'

def unfold (text : String) : List String :=
  (unfoldChars text.toList).map String.ofList

end VCalendar.Line
