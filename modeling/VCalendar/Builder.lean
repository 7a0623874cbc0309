import VCalendar.Error
import VCalendar.Node

/-!
# Building the arena

Tokens are taken one after the other.  A BEGIN token opens a block and an END token
closes the innermost open one, whatever its name; every other token lies in the
innermost open block.  Strict building refuses an END token that has nothing to close
or another name than the block it closes, and blocks left open at the end; otherwise
such tokens are passed over and such blocks kept, with a warning.

The builder keeps drafts of nodes.  A draft names the block around it, the draft of a
block lists what lies in it, and the builder itself lists what lies in no block.  The
open blocks are not listed anywhere: they are found from the innermost one outwards.
-/

namespace VCalendar

/-- The name of the lines that open a block. -/
def beginName : String := "BEGIN"

/-- The name of the lines that close a block. -/
def endName : String := "END"

/-- A node under construction: its token, the position of the block around it, its line
and, if it opens a block, the positions of what lies in the block so far. -/
structure Draft where
  token : Token
  parent : Option Nat
  line : Nat
  children : Option (Array Nat)
deriving DecidableEq, Repr

namespace Draft

/-- Lists a further position in a block. -/
def adopt (d : Draft) (child : Nat) : Draft :=
  { d with children := d.children.map (·.push child) }

/-- The opening of a block as messages show it. -/
def opening (d : Draft) : OpenLine :=
  ⟨d.token.value, d.line⟩

end Draft

/-! ## Drafts -/

namespace Drafts

variable {drafts : Array Draft} {i p : Nat} {d : Draft}

/-- A position holds the draft of a block. -/
def BlockAt (drafts : Array Draft) (i : Nat) : Prop :=
  ∃ d, drafts[i]? = some d ∧ d.children.isSome = true

/-- Every draft lies in an earlier block, or in none. -/
def Grounded (drafts : Array Draft) : Prop :=
  ∀ i d p, drafts[i]? = some d → d.parent = some p → p < i ∧ BlockAt drafts p

/-- Lists a position in the block around it, if there is one. -/
def link (drafts : Array Draft) (parent : Option Nat) (child : Nat) : Array Draft :=
  match parent with
  | none => drafts
  | some p => drafts.modify p (·.adopt child)

theorem BlockAt.lt (h : BlockAt drafts i) : i < drafts.size := by
  obtain ⟨d, hd, -⟩ := h
  exact (Array.getElem?_eq_some_iff.mp hd).1

theorem getElem?_push_of_lt (hi : i < drafts.size) : (drafts.push d)[i]? = drafts[i]? := by
  rw [Array.getElem?_push, if_neg (Nat.ne_of_lt hi)]

theorem BlockAt.push (h : BlockAt drafts i) : BlockAt (drafts.push d) i := by
  unfold BlockAt
  rw [getElem?_push_of_lt h.lt]
  exact h

theorem getElem?_link (parent : Option Nat) (child i : Nat) :
    (link drafts parent child)[i]? =
      drafts[i]?.map fun d => if parent = some i then d.adopt child else d := by
  cases parent with
  | none => simp [link]
  | some p =>
      rw [link, Array.getElem?_modify]
      by_cases hp : p = i
      · simp [hp]
      · simp [hp]

theorem BlockAt.link (h : BlockAt drafts i) (parent : Option Nat) (child : Nat) :
    BlockAt (Drafts.link drafts parent child) i := by
  obtain ⟨d, hd, hblock⟩ := h
  refine ⟨_, by rw [getElem?_link, hd]; rfl, ?_⟩
  split
  · exact Option.isSome_map.trans hblock
  · exact hblock

/-- What is pushed into an earlier block, or into none, leaves the drafts grounded. -/
theorem Grounded.push (h : Grounded drafts) (hd : ∀ p, d.parent = some p → BlockAt drafts p) :
    Grounded (drafts.push d) := by
  intro i d' p hi hp
  rw [Array.getElem?_push] at hi
  split at hi
  · rename_i hsize
    cases hi
    exact ⟨hsize ▸ (hd p hp).lt, (hd p hp).push⟩
  · obtain ⟨hlt, hblock⟩ := h i d' p hi hp
    exact ⟨hlt, hblock.push⟩

theorem Grounded.link (h : Grounded drafts) (parent : Option Nat) (child : Nat) :
    Grounded (Drafts.link drafts parent child) := by
  intro i d' p hi hp
  rw [getElem?_link] at hi
  obtain ⟨d, hd, rfl⟩ := Option.map_eq_some_iff.mp hi
  have hparent : d.parent = some p := by
    split at hp <;> exact hp
  obtain ⟨hlt, hblock⟩ := h i d p hd hparent
  exact ⟨hlt, hblock.link parent child⟩

end Drafts

/-! ## The builder -/

/-- The drafts so far, the positions of those that lie in no block, and the position of
the innermost open block. -/
structure Builder where
  drafts : Array Draft := #[]
  root : Array Nat := #[]
  current : Option Nat := none
  grounded : Drafts.Grounded drafts
  inside : ∀ p, current = some p → Drafts.BlockAt drafts p

namespace Builder

/-- Nothing has been taken yet. -/
def empty : Builder where
  grounded := by
    intro i d p h
    cases h
  inside := by
    intro p h
    cases h

/-- Takes a token that is not an END. -/
def place (b : Builder) (token : Token) (line : Nat) : Builder :=
  let position := b.drafts.size
  let children := if token.name = beginName then some #[] else none
  let drafts := b.drafts.push ⟨token, b.current, line, children⟩
  { drafts := Drafts.link drafts b.current position
    root := if b.current.isNone then b.root.push position else b.root
    current := if token.name = beginName then some position else b.current
    grounded := (b.grounded.push b.inside).link _ _
    inside := by
      intro p hp
      refine Drafts.BlockAt.link ?_ _ _
      split at hp
      · rename_i hbegin
        cases hp
        exact ⟨_, Array.getElem?_push_size, by simp [children, hbegin]⟩
      · exact (b.inside p hp).push }

/-- Closes the innermost open block with an END token from a numbered line. -/
def close (strict : Bool) (b : Builder) (token : Token) (number : Nat) (line : String) :
    Report Imbalance Builder :=
  match h : b.current with
  | none =>
    if strict then Report.fail (.stray number line token.value)
    else do
      Report.note (.strayEnd token.value number)
      pure b
  | some i =>
    have hi := (b.inside i h).lt
    let opened := b.drafts[i]
    if strict ∧ opened.token.value ≠ token.value then
      Report.fail (.mismatched number line token.value opened.opening)
    else pure
      { b with
        current := opened.parent
        inside := fun p hp => (b.grounded i _ p (Array.getElem?_eq_getElem hi) hp).2 }

/-- Takes a token from a numbered line. -/
def add (strict : Bool) (b : Builder) (token : Token) (number : Nat) (line : String) :
    Report Imbalance Builder :=
  if token.name = endName then b.close strict token number line
  else pure (b.place token number)

/-- The drafts from a position outwards, each followed by that of the block around it. -/
def outwards (b : Builder) (i : Nat) (hi : i < b.drafts.size) : List Draft :=
  match h : b.drafts[i].parent with
  | none => [b.drafts[i]]
  | some p =>
    have hp := b.grounded i _ p (Array.getElem?_eq_getElem hi) h
    b.drafts[i] :: b.outwards p hp.2.lt
termination_by i
decreasing_by exact hp.1

/-- The drafts of the open blocks, innermost first. -/
def unclosed (b : Builder) : List Draft :=
  match h : b.current with
  | none => []
  | some i => b.outwards i (b.inside i h).lt

/-- Ends the text. -/
def finish (strict : Bool) (b : Builder) : Report Imbalance Unit :=
  match b.unclosed.map Draft.opening with
  | [] => pure ()
  | innermost :: outer =>
    if strict then Report.fail (.unclosed innermost outer)
    else Report.note (.stillOpen (innermost :: outer))

/-- The node of a draft. -/
def nodeOf (position : Nat) (d : Draft) : Node where
  id := position
  kind := match d.children with
    | none => .property
    | some children => .block (children.toList.map Int.ofNat)
  name := d.token.name
  parameters := d.token.parameters
  value := d.token.value
  values := d.token.values
  parent := d.parent.map Int.ofNat
  lineNumber := d.line

/-- The nodes of the drafts. -/
def nodes (b : Builder) : Array Node :=
  b.drafts.mapIdx nodeOf

/-- The positions of the nodes that lie in no block. -/
def roots (b : Builder) : List Int :=
  b.root.toList.map Int.ofNat

end Builder

end VCalendar
