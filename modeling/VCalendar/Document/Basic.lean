import VCalendar.Node
import VCalendar.Time.Zone

/-!
# Documents

A document is an arena of nodes, the positions of its root-level nodes, and a
summary of its event.  Navigation fails where a position lies outside the arena,
which happens only in documents put together by hand.
-/

namespace VCalendar

/-- The event that a document describes. -/
structure Summary where
  dtstart : Option String := none
  tzid : Option String := none
  duration : Option String := none
  rrule : Option String := none
  allDay : Bool := false
  start : Option Instant := none
deriving DecidableEq, Repr

structure Document where
  nodes : Array Node := #[]
  root : List Int := []
  summary : Summary := {}
deriving DecidableEq, Repr

/-- Why a step through a document leads nowhere. -/
inductive NavigationError where
  | outOfRange
  /-- The position is out of range for every arena. -/
  | unindexable
  /-- The parent of a node is not a block. -/
  | parentNotBlock (id parent : Int)
  /-- A property has no block name. -/
  | notBlock
deriving DecidableEq, Repr

def NavigationError.message : NavigationError → String
  | .outOfRange => "tuple index out of range"
  | .unindexable => "cannot fit 'int' into an index-sized integer"
  | .parentNotBlock id parent =>
    "Node " ++ toString id ++ " names node " ++ toString parent ++
      " as parent, which is not a BEGIN"
  | .notBlock => "'VCalProperty' object has no attribute 'block_name'"

/-- Why there is no node at a position: an arena is indexed by 64-bit words. -/
def NavigationError.nothingAt (position : Int) : NavigationError :=
  if -Int.pow 2 63 ≤ position ∧ position < Int.pow 2 63 then .outOfRange else .unindexable

namespace Document

/-- The node at a position; a negative one counts from the end. -/
def node (d : Document) (position : Int) : Except NavigationError Node :=
  let index := if position < 0 then position + d.nodes.size else position
  if index < 0 then .error (.nothingAt position)
  else
    match d.nodes[index.toNat]? with
    | some n => .ok n
    | none => .error (.nothingAt position)

/-- The nodes at several positions. -/
def nodesAt (d : Document) (positions : List Int) : Except NavigationError (List Node) :=
  positions.mapM d.node

/-- The root-level nodes in order. -/
def properties (d : Document) : Except NavigationError (List Node) :=
  d.nodesAt d.root

/-- The root-level nodes of a name. -/
def find (d : Document) (name : String) : Except NavigationError (List Node) :=
  d.properties.map fun nodes => nodes.filter (·.name = name)

def childrenOf (d : Document) (n : Node) : Except NavigationError (List Node) :=
  d.nodesAt n.children

/-- The block that a node lies in. -/
def parentOf (d : Document) (n : Node) : Except NavigationError (Option Node) :=
  match n.parent with
  | none => .ok none
  | some position =>
    match d.node position with
    | .error e => .error e
    | .ok p => if p.isBlock then .ok (some p) else .error (.parentNotBlock n.id position)

end Document

/-- The name of the block that a node opens. -/
def Node.blockName (n : Node) : Except NavigationError String :=
  if n.isBlock then .ok n.value else .error .notBlock

end VCalendar
