import Mathlib.Data.List.Induction
import VCalendar.Proofs.Nesting.Simulation

/-!
# The arena of a document

The nodes of a document that has been read number themselves, and their links
agree: a node names the block it lies in, that block lists it among its children,
and the root lists the nodes that lie in no block. Main statement: every document
that can be read is such an arena, and all steps through it lead somewhere.
-/

namespace VCalendar

/-! ## Positions by parent -/

/-- The positions of the nodes that name a given parent, in increasing order. -/
def Document.positionsIn (d : Document) (parent : Option Int) : List Int :=
  ((List.range d.nodes.size).filter fun i => d.nodes[i]?.any (·.parent = parent)).map Int.ofNat

theorem Document.mem_positionsIn {d : Document} {parent : Option Int} {x : Int} :
    x ∈ d.positionsIn parent ↔
      ∃ (i : Nat) (n : Node), x = i ∧ d.nodes[i]? = some n ∧ n.parent = parent := by
  unfold Document.positionsIn
  simp only [List.mem_map, List.mem_filter, List.mem_range, Option.any_eq_true,
    decide_eq_true_eq]
  constructor
  · rintro ⟨i, ⟨-, n, hn, hparent⟩, rfl⟩
    exact ⟨i, n, rfl, hn, hparent⟩
  · rintro ⟨i, n, rfl, hn, hparent⟩
    exact ⟨i, ⟨(Array.getElem?_eq_some_iff.mp hn).1, n, hn, hparent⟩, rfl⟩

theorem Document.positionsIn_sorted (d : Document) (parent : Option Int) :
    (d.positionsIn parent).Pairwise (· < ·) := by
  unfold Document.positionsIn
  rw [List.pairwise_map]
  exact (List.pairwise_lt_range.filter _).imp Int.ofNat_lt.mpr

/-- Picking out entries with their positions picks out positions. -/
theorem filterMap_zipIdx {α : Type} (q : α → Bool) (xs : List α) :
    (xs.zipIdx.filterMap fun (x, i) => if q x then some i else none) =
      (List.range xs.length).filter fun i => xs[i]?.any q := by
  induction xs using List.reverseRecOn with
  | nil => rfl
  | append_singleton xs x ih =>
      have hbefore : (List.range xs.length).filter (fun i => (xs ++ [x])[i]?.any q) =
          (List.range xs.length).filter (fun i => xs[i]?.any q) := by
        apply List.filter_congr
        intro i hi
        rw [List.getElem?_append_left (List.mem_range.mp hi)]
      rw [List.zipIdx_append, List.filterMap_append, ih, List.length_append, List.length_singleton,
        List.range_succ, List.filter_append, hbefore]
      cases hq : q x <;> simp [hq]

namespace Nesting

theorem getElem?_nodes (n : Nesting) (i : Nat) :
    n.nodes[i]? = n.placed[i]?.map (nodeOf ((n.within (some i)).map Int.ofNat) i) := by
  rw [nodes, Array.getElem?_mapIdx]

theorem nodes_size (n : Nesting) : n.nodes.size = n.placed.size := by
  rw [nodes, Array.size_mapIdx]

/-- The document of a nesting has the parents of the placed tokens. -/
theorem any_parent_nodes (n : Nesting) (i : Nat) (parent : Option Nat) :
    n.nodes[i]?.any (·.parent = parent.map Int.ofNat) = n.placed[i]?.any (·.parent = parent) := by
  rw [getElem?_nodes]
  cases hx : n.placed[i]? with
  | none => rfl
  | some x =>
      have hinj : x.parent.map Int.ofNat = parent.map Int.ofNat ↔ x.parent = parent :=
        Option.map_inj_right fun _ _ h => Int.ofNat.inj h
      simp only [Option.map_some, Option.any_some, nodeOf, hinj]

variable {n : Nesting} {d : Document}

/-- The nodes that name a parent are the tokens that lie in it. -/
theorem positionsIn_eq (hnodes : d.nodes = n.nodes) (parent : Option Nat) :
    d.positionsIn (parent.map Int.ofNat) = (n.within parent).map Int.ofNat := by
  have hpick := filterMap_zipIdx (fun x : Placed => decide (x.parent = parent)) n.placed.toList
  simp only [decide_eq_true_eq, Array.length_toList, Array.getElem?_toList] at hpick
  simp only [Document.positionsIn, hnodes, nodes_size, any_parent_nodes, within, hpick]

theorem roots_eq_positionsIn (hnodes : d.nodes = n.nodes) : n.roots = d.positionsIn none :=
  (positionsIn_eq hnodes none).symm

theorem within_eq_positionsIn (hnodes : d.nodes = n.nodes) (p : Nat) :
    (n.within (some p)).map Int.ofNat = d.positionsIn (some p) :=
  (positionsIn_eq hnodes (some p)).symm

/-- A node is the placed token at its position, with the positions inside it. -/
theorem eq_nodeOf_of_getElem? (hnodes : d.nodes = n.nodes) {i : Nat} {node : Node}
    (h : d.nodes[i]? = some node) :
    ∃ x, n.placed[i]? = some x ∧ node = nodeOf (d.positionsIn (some i)) i x := by
  rw [hnodes, getElem?_nodes] at h
  obtain ⟨x, hx, rfl⟩ := Option.map_eq_some_iff.mp h
  refine ⟨x, hx, ?_⟩
  rw [within_eq_positionsIn hnodes]

theorem getElem?_nodes_of_placed (hnodes : d.nodes = n.nodes) {i : Nat} {x : Placed}
    (hx : n.placed[i]? = some x) :
    d.nodes[i]? = some (nodeOf (d.positionsIn (some i)) i x) := by
  rw [hnodes, getElem?_nodes, hx, Option.map_some, within_eq_positionsIn hnodes]

@[simp] theorem isBlock_nodeOf (children : List Int) (i : Nat) (x : Placed) :
    (nodeOf children i x).isBlock = true ↔ x.token.name = beginName := by
  unfold nodeOf Node.isBlock
  split <;> simp [*]

end Nesting

/-! ## The representation invariant -/

/-- The links of a document agree with each other and with the order of its lines. -/
structure Document.Arena (d : Document) : Prop where
  id : ∀ {i : Nat} {n : Node}, d.nodes[i]? = some n → n.id = i
  name_ne_end : ∀ {i : Nat} {n : Node}, d.nodes[i]? = some n → n.name ≠ endName
  isBlock_iff : ∀ {i : Nat} {n : Node},
    d.nodes[i]? = some n → (n.isBlock = true ↔ n.name = beginName)
  /-- A parent is an earlier block. -/
  parent : ∀ {i : Nat} {n : Node} {p : Int}, d.nodes[i]? = some n → n.parent = some p →
    ∃ (q : Nat) (m : Node), p = q ∧ q < i ∧ d.nodes[q]? = some m ∧ m.isBlock = true
  root : d.root = d.positionsIn none
  children : ∀ {i : Nat} {n : Node},
    d.nodes[i]? = some n → n.isBlock = true → n.children = d.positionsIn (some i)
  one_le_line : ∀ {i : Nat} {n : Node}, d.nodes[i]? = some n → 1 ≤ n.lineNumber
  line_lt : ∀ {i j : Nat} {n m : Node}, i < j → d.nodes[i]? = some n →
    d.nodes[j]? = some m → n.lineNumber < m.lineNumber

/-- A coherent nesting of tokens in line order makes an arena. -/
theorem Nesting.Coherent.arena {n : Nesting} {d : Document} (h : n.Coherent)
    (hnodes : d.nodes = n.nodes) (hroot : d.root = n.roots)
    (hname : ∀ x ∈ n.placed, x.token.name ≠ endName) (hfirst : ∀ x ∈ n.placed, 1 ≤ x.line)
    (hsorted : n.placed.toList.Pairwise (·.line < ·.line)) : d.Arena where
  id hi := by
    obtain ⟨x, -, rfl⟩ := eq_nodeOf_of_getElem? hnodes hi
    rfl
  name_ne_end hi := by
    obtain ⟨x, hx, rfl⟩ := eq_nodeOf_of_getElem? hnodes hi
    exact hname x (Array.mem_of_getElem? hx)
  isBlock_iff hi := by
    obtain ⟨x, -, rfl⟩ := eq_nodeOf_of_getElem? hnodes hi
    exact isBlock_nodeOf _ _ x
  parent hi hp := by
    obtain ⟨x, hx, rfl⟩ := eq_nodeOf_of_getElem? hnodes hi
    obtain ⟨q, hq, rfl⟩ := Option.map_eq_some_iff.mp hp
    obtain ⟨y, hy, hbegin⟩ := h.parent_begin hx hq
    exact ⟨q, _, rfl, h.parent_lt hx hq, getElem?_nodes_of_placed hnodes hy, by simpa using hbegin⟩
  root := hroot.trans (roots_eq_positionsIn hnodes)
  children hi hblock := by
    obtain ⟨x, -, rfl⟩ := eq_nodeOf_of_getElem? hnodes hi
    rw [isBlock_nodeOf] at hblock
    simp [Node.children, nodeOf, hblock]
  one_le_line hi := by
    obtain ⟨x, hx, rfl⟩ := eq_nodeOf_of_getElem? hnodes hi
    exact Int.ofNat_le.mpr (hfirst x (Array.mem_of_getElem? hx))
  line_lt hij hi hj := by
    obtain ⟨x, hx, rfl⟩ := eq_nodeOf_of_getElem? hnodes hi
    obtain ⟨y, hy, rfl⟩ := eq_nodeOf_of_getElem? hnodes hj
    obtain ⟨hi', rfl⟩ := Array.getElem?_eq_some_iff.mp hx
    obtain ⟨hj', rfl⟩ := Array.getElem?_eq_some_iff.mp hy
    exact Int.ofNat_lt.mpr (List.pairwise_iff_getElem.mp hsorted _ _ _ _ hij)

/-- A document that has been read is an arena. -/
theorem arena_of_read {r : Reader} {content : Content} {d : Document}
    (h : (r.read content).outcome = .ok d) : d.Arena := by
  obtain ⟨ts, hts, hnodes, hroot⟩ := Reader.read_eq_ok h
  obtain ⟨hfirst, hsorted⟩ := tokensOf_sorted hts
  have hplaced := Nesting.numbered_run ts
  have hmem : ∀ x ∈ (Nesting.acceptAll {} ts).placed,
      x.numbered ∈ ts ∧ x.token.name ≠ endName := by
    intro x hx
    have hnumbered := List.mem_map_of_mem (Array.mem_toList_iff.mpr hx) (f := Placed.numbered)
    rw [hplaced, List.mem_filter] at hnumbered
    exact ⟨hnumbered.1, of_decide_eq_true hnumbered.2⟩
  refine (Nesting.coherent_acceptAll ts).arena hnodes hroot ?_ ?_ ?_
  · intro x hx
    exact (hmem x hx).2
  · intro x hx
    exact hfirst _ (hmem x hx).1
  · -- what has been placed is a part of the tokens in their order
    have hlines := hsorted.filter (·.token.name ≠ endName)
    rw [← hplaced, List.pairwise_map] at hlines
    exact hlines

end VCalendar
