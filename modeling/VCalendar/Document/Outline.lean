import VCalendar.Document.Walk
import VCalendar.Value

/-!
# The outline of a document

A document is shown as one line for each visited node, indented by its depth,
and the fields of its summary.  Of a property only the name is shown.
-/

namespace VCalendar

/-- The label of a node in an outline. -/
def Node.label (n : Node) : String :=
  if n.isBlock then n.name ++ ":" ++ n.value else n.name

/-- Two spaces for each level of depth. -/
def indent (depth : Nat) : String :=
  String.ofList (List.replicate (2 * depth) ' ')

def Visit.line (v : Visit) : String :=
  indent v.depth ++ v.node.label

def Summary.lines (s : Summary) : List String :=
  ["dtstart=" ++ Text.quote? s.dtstart,
    "tzid=" ++ Text.quote? s.tzid,
    "duration=" ++ Text.quote? s.duration,
    "rrule=" ++ Text.quote? s.rrule,
    "all_day=" ++ Value.boolText s.allDay]

def Document.outline (d : Document) : Except NavigationError (List String) :=
  d.walk.map fun visits => visits.map Visit.line ++ d.summary.lines

end VCalendar
