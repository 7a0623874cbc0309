import Mathlib.Algebra.Order.BigOperators.Group.List
import Mathlib.Algebra.Order.Ring.Nat
import Mathlib.Data.Finset.Card
import Mathlib.Logic.Relation
import VCalendar.Document.Walk
import VCalendar.Proofs.Document.Navigation

/-!
# Walking documents put together by hand

A document that was not read need not be an arena: blocks may share children, numbers and
parents may be wrong, and children may stand in front of their block. As long as every
link leads to a node and no block contains itself, the walk is defined by recursion: a
node, then its children one level deeper. Main statement: the walk with its agenda visits
exactly these nodes in this order, a shared one each time it is met, and it stops.

What decreases on the way down is the number of nodes below the current one. It bounds the
recursion, and with it the number of visits.
-/

namespace VCalendar

namespace Document

variable {d : Document}

/-! ## Documents without cycles -/

/-- A position that counts from the front and leads to a node. -/
def Inside (d : Document) (position : Int) : Prop :=
  0 ≤ position ∧ position < d.nodes.size

instance (d : Document) (position : Int) : Decidable (d.Inside position) := by
  unfold Inside
  infer_instance

theorem Inside.node_eq_ok {position : Int} (h : d.Inside position) :
    ∃ n, d.nodes[position.toNat]? = some n ∧ d.node position = .ok n := by
  obtain ⟨hnonneg, hlt⟩ := h
  obtain ⟨i, rfl⟩ := Int.eq_ofNat_of_zero_le hnonneg
  have hn := Array.getElem?_eq_getElem (Int.ofNat_lt.mp hlt)
  exact ⟨_, hn, Document.node_eq_ok hn⟩

/-- The node at position `i` lists position `j` among its children. -/
def Lists (d : Document) (i j : Nat) : Prop :=
  ∃ n, d.nodes[i]? = some n ∧ (j : Int) ∈ n.children

/-- Every link leads to a node, and no node contains itself. -/
structure Acyclic (d : Document) : Prop where
  root : ∀ position ∈ d.root, d.Inside position
  children : ∀ n ∈ d.nodes, ∀ position ∈ n.children, d.Inside position
  irreflexive : ∀ i, ¬ Relation.TransGen d.Lists i i

/-- If every child is lower than its block, there are no cycles. -/
theorem acyclic_of_height (height : Nat → Nat) (hroot : ∀ position ∈ d.root, d.Inside position)
    (hchildren : ∀ i (hi : i < d.nodes.size), ∀ position ∈ d.nodes[i].children,
      d.Inside position ∧ height position.toNat < height i) : d.Acyclic := by
  have hlower : ∀ i j, Relation.TransGen d.Lists i j → height j < height i := by
    intro i j hpath
    induction hpath with
    | single hstep =>
        obtain ⟨n, hn, hchild⟩ := hstep
        obtain ⟨hi, rfl⟩ := Array.getElem?_eq_some_iff.mp hn
        exact (hchildren i hi _ hchild).2
    | tail _ hstep ih =>
        obtain ⟨n, hn, hchild⟩ := hstep
        obtain ⟨hi, rfl⟩ := Array.getElem?_eq_some_iff.mp hn
        exact Nat.lt_trans (hchildren _ hi _ hchild).2 ih
  refine ⟨hroot, ?_, ?_⟩
  · intro n hn position hposition
    obtain ⟨i, hi, rfl⟩ := Array.mem_iff_getElem.mp hn
    exact (hchildren i hi position hposition).1
  · intro i hcycle
    exact Nat.lt_irrefl _ (hlower i i hcycle)

/-- Documents that have been read are among them: children stand behind their block. -/
theorem Arena.acyclic (h : d.Arena) : d.Acyclic := by
  have hinside : ∀ parent, ∀ position ∈ d.positionsIn parent, d.Inside position := by
    intro parent position hposition
    obtain ⟨i, n, rfl, hi, -⟩ := mem_positionsIn.mp hposition
    exact ⟨Int.natCast_nonneg i, Int.ofNat_lt.mpr (Array.getElem?_eq_some_iff.mp hi).1⟩
  refine acyclic_of_height (d.nodes.size - ·) ?_ ?_
  · rw [h.root]
    exact hinside none
  · intro i hi position hposition
    rw [h.children_eq (Array.getElem?_eq_getElem hi)] at hposition
    refine ⟨hinside _ position hposition, ?_⟩
    obtain ⟨j, n, rfl, hj, hparent⟩ := mem_positionsIn.mp hposition
    obtain ⟨q, -, hq, hlt, -⟩ := h.parent hj hparent
    rw [Int.toNat_natCast]
    omega

/-! ## The nodes below a node -/

open Classical in
/-- The positions that lie inside the node at a position, at any depth. -/
noncomputable def below (d : Document) (i : Nat) : Finset Nat :=
  (Finset.range d.nodes.size).filter (Relation.TransGen d.Lists i)

theorem mem_below {i j : Nat} :
    j ∈ d.below i ↔ j < d.nodes.size ∧ Relation.TransGen d.Lists i j := by
  simp [below]

namespace Acyclic

variable (h : d.Acyclic) {i j : Nat} {n : Node}

include h

/-- Below a child there are fewer nodes. -/
theorem card_below_lt (hlists : d.Lists i j) (hj : j < d.nodes.size) :
    (d.below j).card < (d.below i).card := by
  apply Finset.card_lt_card
  rw [Finset.ssubset_iff_of_subset]
  · refine ⟨j, mem_below.mpr ⟨hj, .single hlists⟩, ?_⟩
    intro hself
    exact h.irreflexive j (mem_below.mp hself).2
  · intro k hk
    obtain ⟨hlt, hpath⟩ := mem_below.mp hk
    exact mem_below.mpr ⟨hlt, .head hlists hpath⟩

theorem card_below_lt_size (hi : i < d.nodes.size) : (d.below i).card < d.nodes.size := by
  have hproper : d.below i ⊂ Finset.range d.nodes.size := by
    rw [Finset.ssubset_iff_of_subset]
    · refine ⟨i, Finset.mem_range.mpr hi, ?_⟩
      intro hself
      exact h.irreflexive i (mem_below.mp hself).2
    · intro j hj
      exact Finset.mem_range.mpr (mem_below.mp hj).1
  simpa using Finset.card_lt_card hproper

theorem card_below_child_lt (hn : d.nodes[i]? = some n) {position : Int}
    (hposition : position ∈ n.children) :
    (d.below position.toNat).card < (d.below i).card := by
  obtain ⟨hnonneg, hlt⟩ := h.children n (mem_nodes_iff.mpr ⟨i, hn⟩) position hposition
  apply h.card_below_lt
  · exact ⟨n, hn, by rwa [Int.toNat_of_nonneg hnonneg]⟩
  · exact (Int.toNat_lt hnonneg).mpr hlt

end Acyclic

/-! ## The walk by recursion -/

/-- The visits to a node and to everything inside it: first the node, then its children
one level deeper, each with everything inside it. -/
def unrolled (h : d.Acyclic) (depth i : Nat) : List Visit :=
  match hn : d.nodes[i]? with
  | none => []
  | some n =>
      ⟨depth, n⟩ ::
        n.children.attach.flatMap fun position => unrolled h (depth + 1) position.val.toNat
termination_by (d.below i).card
decreasing_by exact h.card_below_child_lt hn position.property

/-- The visits to some positions at a depth, one after the other. -/
def unrolledAt (h : d.Acyclic) (depth : Nat) (positions : List Int) : List Visit :=
  positions.flatMap fun position => unrolled h depth position.toNat

/-- The visits to the root-level nodes and everything inside them. -/
def preorder (h : d.Acyclic) : List Visit :=
  unrolledAt h 0 d.root

variable (h : d.Acyclic)

theorem unrolled_eq {i : Nat} {n : Node} (hn : d.nodes[i]? = some n) (depth : Nat) :
    unrolled h depth i = ⟨depth, n⟩ :: unrolledAt h (depth + 1) n.children := by
  rw [unrolled]
  split
  · rename_i hnone
    rw [hnone] at hn
    cases hn
  · rename_i m hm
    obtain rfl : m = n := Option.some.inj (hm.symm.trans hn)
    rw [unrolledAt, List.flatMap_subtype (g := fun p => unrolled h (depth + 1) p.toNat)]
    · simp
    · intros
      rfl

/-! ## The agenda -/

/-- What is visited from an agenda. -/
def unrolledAgenda (agenda : Agenda) : List Visit :=
  agenda.flatMap fun (depth, position) => unrolled h depth position.toNat

theorem unrolledAgenda_append (agenda agenda' : Agenda) :
    unrolledAgenda h (agenda ++ agenda') = unrolledAgenda h agenda ++ unrolledAgenda h agenda' :=
  List.flatMap_append

theorem unrolledAgenda_agendaAt (depth : Nat) (positions : List Int) :
    unrolledAgenda h (agendaAt depth positions) = unrolledAt h depth positions := by
  rw [unrolledAgenda, agendaAt, List.flatMap_map, unrolledAt]

/-- One step takes a node off the agenda and puts its children in front of the others,
which is how the recursion goes on. -/
theorem unrolledAgenda_cons {depth : Nat} {position : Int} {agenda : Agenda} {n : Node}
    (hn : d.nodes[position.toNat]? = some n) :
    unrolledAgenda h ((depth, position) :: agenda) =
      ⟨depth, n⟩ :: unrolledAgenda h (agendaAt (depth + 1) n.children ++ agenda) := by
  rw [unrolledAgenda_append, unrolledAgenda_agendaAt, ← List.cons_append, ← unrolled_eq h hn]
  rfl

/-- From an agenda of nodes, so many visits are the first ones of the recursion. -/
theorem visits_eq_take (count : Nat) {agenda : Agenda} (hagenda : ∀ x ∈ agenda, d.Inside x.2) :
    d.visits count agenda = .ok ((unrolledAgenda h agenda).take count) := by
  induction count generalizing agenda with
  | zero => rfl
  | succ count ih =>
      match agenda with
      | [] => rfl
      | (depth, position) :: agenda =>
          obtain ⟨hposition, hrest⟩ := List.forall_mem_cons.mp hagenda
          obtain ⟨n, hn, hnode⟩ := hposition.node_eq_ok
          have hnext : ∀ x ∈ agendaAt (depth + 1) n.children ++ agenda, d.Inside x.2 := by
            intro x hx
            rcases List.mem_append.mp hx with hx | hx
            · obtain ⟨child, hchild, rfl⟩ := List.mem_map.mp hx
              exact h.children n (mem_nodes_iff.mpr ⟨_, hn⟩) child hchild
            · exact hrest x hx
          rw [visits, hnode]
          simp only
          rw [ih hnext, unrolledAgenda_cons h hn, List.take_succ_cons]
          rfl

theorem walkTake_eq_take (count : Nat) :
    d.walkTake count = .ok ((preorder h).take count) := by
  rw [walkTake, visits_eq_take h, unrolledAgenda_agendaAt]
  · rfl
  · intro x hx
    obtain ⟨position, hposition, rfl⟩ := List.mem_map.mp hx
    exact h.root position hposition

/-! ## The number of visits -/

theorem length_flatMap_le {α β : Type} {xs : List α} {f : α → List β} {bound : Nat}
    (hbound : ∀ x ∈ xs, (f x).length ≤ bound) : (xs.flatMap f).length ≤ xs.length * bound := by
  have hsum := List.sum_le_card_nsmul (xs.map fun x => (f x).length) bound (by simpa using hbound)
  rw [List.length_flatMap]
  simpa using hsum

theorem length_root_le_links (d : Document) : d.root.length ≤ d.links :=
  Nat.le_add_right _ _

theorem length_children_le_links {i : Nat} {n : Node} (hn : d.nodes[i]? = some n) :
    n.children.length ≤ d.links := by
  have hmem : n ∈ d.nodes.toList := Array.mem_toList_iff.mpr (mem_nodes_iff.mpr ⟨i, hn⟩)
  have hsub := (List.sublist_flatten_of_mem (List.mem_map_of_mem (f := Node.children) hmem)).length_le
  rw [← List.flatMap_def] at hsub
  exact Nat.le_trans hsub (Nat.le_add_left _ _)

/-- Every node multiplies the visits by the number of its children at most, and there are
no more nodes on the way down than below the first one. -/
theorem length_unrolled_lt {i : Nat} (hi : i < d.nodes.size) (depth : Nat) :
    (unrolled h depth i).length < (d.links + 2) ^ ((d.below i).card + 1) := by
  induction hcard : (d.below i).card using Nat.strongRecOn generalizing i depth with
  | ind card ih =>
      have hn := Array.getElem?_eq_getElem hi
      have hchild : ∀ position ∈ d.nodes[i].children,
          (unrolled h (depth + 1) position.toNat).length ≤ (d.links + 2) ^ card := by
        intro position hposition
        have hlower := h.card_below_child_lt hn hposition
        obtain ⟨hnonneg, hlt⟩ := h.children _ (mem_nodes_iff.mpr ⟨i, hn⟩) position hposition
        rw [hcard] at hlower
        have hlength := ih _ hlower ((Int.toNat_lt hnonneg).mpr hlt) (depth + 1) rfl
        exact Nat.le_trans hlength.le (Nat.pow_le_pow_right (by omega) hlower)
      have hinside := length_flatMap_le hchild
      have hfew : d.nodes[i].children.length * (d.links + 2) ^ card ≤
          d.links * (d.links + 2) ^ card :=
        Nat.mul_le_mul_right _ (length_children_le_links hn)
      have hpos : 0 < (d.links + 2) ^ card := Nat.pow_pos (by omega)
      rw [unrolled_eq h hn, List.length_cons, Nat.pow_succ', Nat.add_mul]
      unfold unrolledAt
      omega

theorem length_preorder_lt : (preorder h).length < d.visitBound := by
  have hroot : ∀ position ∈ d.root,
      (unrolled h 0 position.toNat).length ≤ (d.links + 2) ^ d.nodes.size := by
    intro position hposition
    obtain ⟨hnonneg, hlt⟩ := h.root position hposition
    have hi := (Int.toNat_lt hnonneg).mpr hlt
    exact Nat.le_trans (length_unrolled_lt h hi 0).le
      (Nat.pow_le_pow_right (by omega) (h.card_below_lt_size hi))
  have hlength := length_flatMap_le hroot
  have hfew : d.root.length * (d.links + 2) ^ d.nodes.size ≤
      d.links * (d.links + 2) ^ d.nodes.size :=
    Nat.mul_le_mul_right _ d.length_root_le_links
  have hpos : 0 < (d.links + 2) ^ d.nodes.size := Nat.pow_pos (by omega)
  have hbound : d.visitBound = (d.links + 2) * (d.links + 2) ^ d.nodes.size := Nat.pow_succ'
  rw [hbound, Nat.add_mul]
  unfold preorder unrolledAt
  omega

/-- **The walk is the recursive one on every document without cycles.** It stops after as
many visits as the recursion makes, and when it is stopped earlier, the visits made so far
are the first ones of the recursion. -/
theorem walk_of_acyclic :
    d.walk = .ok (preorder h) ∧
      (∀ count, d.walkTake count = .ok ((preorder h).take count)) ∧
      (preorder h).length < d.visitBound := by
  have hlength := length_preorder_lt h
  refine ⟨?_, walkTake_eq_take h, hlength⟩
  rw [walk_eq_walkTake, walkTake_eq_take h, List.take_of_length_le hlength.le]

/-- Blocks under other names that share their children, one of them twice, with numbers and
parents that are wrong. -/
def sharingDocument : Document where
  nodes := #[
    { id := 7, kind := .property, name := "A" },
    { id := 7, kind := .block [3, 0], name := "B", parent := some 0 },
    { id := 0, kind := .block [1, 0, 1], name := "C", parent := some 9 },
    { id := 1, kind := .block [0], name := "D" }]
  root := [2, 0, 3]

/-- The names of the nodes as they are visited, with their depths. -/
def sharingVisits : List (Nat × String) :=
  [(0, "C"), (1, "B"), (2, "D"), (3, "A"), (2, "A"), (1, "A"), (1, "B"), (2, "D"), (3, "A"),
    (2, "A"), (0, "A"), (0, "D"), (1, "A")]

theorem walk_of_acyclic_sharing :
    ∃ h : sharingDocument.Acyclic,
      sharingDocument.walk = .ok (preorder h) ∧
        ((preorder h).map fun v => (v.depth, v.node.name)) = sharingVisits ∧
        sharingDocument.walkTake 3 = .ok ((preorder h).take 3) := by
  have hacyclic : sharingDocument.Acyclic :=
    acyclic_of_height (fun i => [0, 2, 3, 1].getD i 0) (by decide) (by decide)
  obtain ⟨hwalk, htake, -⟩ := walk_of_acyclic hacyclic
  have hshown : (sharingDocument.walk.map fun visits =>
      visits.map fun v => (v.depth, v.node.name)) = .ok sharingVisits := by decide +kernel
  rw [hwalk] at hshown
  exact ⟨hacyclic, hwalk, Except.ok.inj hshown, htake 3⟩

end Document

end VCalendar
