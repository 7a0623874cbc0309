import VCalendar.Reader

/-!
# Open blocks as a stack

Proofs look at the open blocks as a stack of their own, kept beside the tokens that have
been placed, and find the links between nodes from the parents alone.  This is what the
builder amounts to: it keeps the links as they arise and finds the open blocks from the
innermost one outwards.
-/

namespace VCalendar

/-- A token in its place: the position of the block around it, and its line. -/
structure Placed where
  token : Token
  parent : Option Nat
  line : Nat
deriving DecidableEq, Repr

/-- A block that is still open, with its position among the placed tokens. -/
structure OpenBlock where
  position : Nat
  opening : OpenLine
deriving DecidableEq, Repr

/-- The tokens placed so far and the open blocks, innermost first. -/
structure Nesting where
  placed : Array Placed := #[]
  opened : List OpenBlock := []
deriving DecidableEq, Repr

namespace Nesting

/-- Places a token that is not an END. -/
def place (n : Nesting) (token : Token) (line : Nat) : Nesting :=
  let opened :=
    if token.name = beginName then ⟨n.placed.size, ⟨token.value, line⟩⟩ :: n.opened
    else n.opened
  { placed := n.placed.push ⟨token, n.opened.head?.map (·.position), line⟩, opened }

/-- Closes the innermost block with an END token from a numbered line. -/
def close (strict : Bool) (n : Nesting) (token : Token) (number : Nat) (line : String) :
    Report Imbalance Nesting :=
  match n.opened with
  | [] =>
    if strict then Report.fail (.stray number line token.value)
    else do
      Report.note (.strayEnd token.value number)
      pure n
  | block :: outer =>
    if strict ∧ block.opening.name ≠ token.value then
      Report.fail (.mismatched number line token.value block.opening)
    else pure { n with opened := outer }

/-- Takes a token from a numbered line. -/
def add (strict : Bool) (n : Nesting) (token : Token) (number : Nat) (line : String) :
    Report Imbalance Nesting :=
  if token.name = endName then n.close strict token number line
  else pure (n.place token number)

/-- Ends the text. -/
def finish (strict : Bool) (n : Nesting) : Report Imbalance Unit :=
  match n.opened with
  | [] => pure ()
  | block :: outer =>
    if strict then Report.fail (.unclosed block.opening (outer.map (·.opening)))
    else Report.note (.stillOpen ((block :: outer).map (·.opening)))

/-- The open blocks as messages show them. -/
def blocks (n : Nesting) : List OpenLine :=
  n.opened.map (·.opening)

/-! ## The arena -/

/-- The positions of the tokens that lie in a given block, or in none, in increasing
order. -/
def within (n : Nesting) (parent : Option Nat) : List Nat :=
  n.placed.toList.zipIdx.filterMap fun (x, i) => if x.parent = parent then some i else none

/-- The node of a placed token. -/
def nodeOf (children : List Int) (position : Nat) (x : Placed) : Node where
  id := position
  kind := if x.token.name = beginName then .block children else .property
  name := x.token.name
  parameters := x.token.parameters
  value := x.token.value
  values := x.token.values
  parent := x.parent.map Int.ofNat
  lineNumber := x.line

/-- The nodes of the placed tokens. -/
def nodes (n : Nesting) : Array Node :=
  n.placed.mapIdx fun position x =>
    nodeOf ((n.within (some position)).map Int.ofNat) position x

/-- The positions of the tokens that lie in no block. -/
def roots (n : Nesting) : List Int :=
  (n.within none).map Int.ofNat

end Nesting

/-! ## Lines -/

namespace Reader

/-- Cuts a line into its pieces and takes them into the nesting. -/
def addLine (strict : Bool) (n : Nesting) (line : String) (number : Nat) :
    Report ReadError Nesting :=
  match Line.tokenize line with
  | .error flaw => Report.fail (.malformed ⟨number, line, flaw⟩)
  | .ok token => (n.add strict token number line).mapError .unbalanced

/-- Takes lines with their numbers into the nesting; empty ones are passed over. -/
def addLines (strict : Bool) (n : Nesting) : List (String × Nat) → Report ReadError Nesting
  | [] => pure n
  | (line, number) :: rest =>
    if line = "" then addLines strict n rest
    else do
      let n ← addLine strict n line number
      addLines strict n rest

/-- The nesting of all lines of a text. -/
def nest (strict : Bool) (lines : List String) : Report ReadError Nesting := do
  let n ← addLines strict {} (lines.zipIdx 1)
  (n.finish strict).mapError .unbalanced
  pure n

/-- The document of a finished nesting. -/
def documentOf (zones : Zones) (n : Nesting) : Report ReadError Document :=
  documentFrom zones n.nodes n.roots

end Reader

end VCalendar
