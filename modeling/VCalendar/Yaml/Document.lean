import VCalendar.Yaml.Node
import VCalendar.Yaml.Scalar

/-!
# Documents as values

The node of a document stands for a value.  Plain scalars are resolved by their
shape, quoted ones are texts.  A later entry of a mapping replaces an earlier one
of the same key, in its place.  A node is flawed if it is a numeral that names no
integer, or a collection in the place of a key; flaws are looked for level by
level, so of several the least deep counts.
-/

namespace VCalendar.Yaml

/-! ## Values -/

mutual

def Node.value : Node → Value
  | .plain s => plainValue s
  | .quoted s => .text (String.ofList s)
  | .sequence items => .list (itemValues items)
  | .mapping entries => .map (putEntries [] entries)

def itemValues : List Node → List Value
  | [] => []
  | item :: rest => item.value :: itemValues rest

/-- Sets entries of a mapping one after the other. -/
def putEntries (m : Mapping) : List (Node × Node) → Mapping
  | [] => m
  | (key, content) :: rest => putEntries (m.put key.value content.value) rest

end

/-! ## Flaws -/

/-- A flaw and the number of collections around it. -/
structure DeepFlaw where
  depth : Nat
  flaw : Error
deriving DecidableEq, Repr

mutual

/-- The flaws of a node that lies at a depth, in the order of the text. -/
def Node.flaws (depth : Nat) : Node → List DeepFlaw
  | .plain s => (numeralFlaw? s).toList.map fun flaw => ⟨depth, .numeral flaw⟩
  | .quoted _ => []
  | .sequence items => itemFlaws (depth + 1) items
  | .mapping entries => entryFlaws (depth + 1) entries

def itemFlaws (depth : Nat) : List Node → List DeepFlaw
  | [] => []
  | item :: rest => item.flaws depth ++ itemFlaws depth rest

/-- The flaws of entries; what is inside of a key that is a collection does not matter. -/
def entryFlaws (depth : Nat) : List (Node × Node) → List DeepFlaw
  | [] => []
  | (key, content) :: rest =>
    (if key.isCollection then [⟨depth, .badKey⟩] else key.flaws depth) ++
      (content.flaws depth ++ entryFlaws depth rest)

end

/-- The least deep of some flaws; of equally deep ones the first. -/
def shallowest? : List DeepFlaw → Option DeepFlaw
  | [] => none
  | f :: rest =>
    match shallowest? rest with
    | some g => if g.depth < f.depth then some g else some f
    | none => some f

/-- Reads a document from its text, in which line feeds end the lines.  Its nodes are
looked at when its structure is known to be sound. -/
def read (cs : List Char) : Except Error Value := do
  let ts ← tokenize cs
  let n ← document ts
  match shallowest? (n.flaws 0) with
  | some f => throw f.flaw
  | none => pure n.value

end VCalendar.Yaml
