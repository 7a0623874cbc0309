import VCalendar.Line.Token

/-!
# Nodes

A document is an arena of nodes that refer to each other by position.  A node is
a property line, or the opening line of a block that owns the nodes up to its
closing line.
-/

namespace VCalendar

/-- What a node is: a property, or a block with its children in order. -/
inductive NodeKind where
  | property
  | block (children : List Int)
deriving DecidableEq, Repr

/-- A node of a document.  Positions are counted from the end if negative. -/
structure Node where
  id : Int
  kind : NodeKind
  name : String
  parameters : List Parameter := []
  value : String := ""
  values : List String := []
  parent : Option Int := none
  lineNumber : Int := 0
deriving DecidableEq, Repr

namespace Node

def isBlock (n : Node) : Bool :=
  n.kind ≠ .property

def children (n : Node) : List Int :=
  match n.kind with
  | .property => []
  | .block children => children

/-- The value of the first parameter of a name. -/
def parameter? (n : Node) (name : String) : Option String :=
  (n.parameters.find? (·.name = name)).map (·.value)

end Node

end VCalendar
