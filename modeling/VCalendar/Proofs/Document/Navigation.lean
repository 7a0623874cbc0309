import Mathlib.Logic.ExistsUnique
import VCalendar.Proofs.Document.Arena

/-!
# Steps through an arena

In an arena every link leads to a node: no step is out of range and no parent is a
property. The way up and the way down undo each other, every node lies in exactly
one container, and the way up ends at the root.
-/

namespace VCalendar

namespace Document

variable {d : Document}

/-! ## Single nodes and lists of them -/

theorem node_eq_ok {i : Nat} {n : Node} (h : d.nodes[i]? = some n) : d.node i = .ok n := by
  unfold node
  have hnonneg : ¬ (i : Int) < 0 := by omega
  simp only [hnonneg, if_false, Int.toNat_natCast, h]

theorem mem_nodes_iff {n : Node} : n ∈ d.nodes ↔ ∃ i : Nat, d.nodes[i]? = some n :=
  Array.mem_iff_getElem?

/-- Nodes are where their numbers say. -/
theorem Arena.getElem?_of_mem (h : d.Arena) {n : Node} (hn : n ∈ d.nodes) :
    ∃ i : Nat, n.id = i ∧ d.nodes[i]? = some n := by
  obtain ⟨i, hi⟩ := mem_nodes_iff.mp hn
  exact ⟨i, h.id hi, hi⟩

theorem Arena.eq_of_id_eq (h : d.Arena) {n m : Node} (hn : n ∈ d.nodes) (hm : m ∈ d.nodes)
    (hid : n.id = m.id) : n = m := by
  obtain ⟨i, hni, hi⟩ := h.getElem?_of_mem hn
  obtain ⟨j, hmj, hj⟩ := h.getElem?_of_mem hm
  obtain rfl : i = j := by omega
  exact Option.some.inj (hi.symm.trans hj)

/-- Positions of nodes lead to just these nodes. -/
theorem Arena.nodesAt_eq_ok (h : d.Arena) {xs : List Int}
    (hxs : ∀ x ∈ xs, ∃ (i : Nat) (n : Node), x = i ∧ d.nodes[i]? = some n) :
    ∃ ns, d.nodesAt xs = .ok ns ∧ ns.map (·.id) = xs ∧ ∀ n ∈ ns, n ∈ d.nodes := by
  induction xs with
  | nil => exact ⟨[], rfl, rfl, by simp⟩
  | cons x xs ih =>
      obtain ⟨⟨i, n, rfl, hi⟩, hrest⟩ := List.forall_mem_cons.mp hxs
      obtain ⟨ns, hns, hids, hmem⟩ := ih hrest
      refine ⟨n :: ns, ?_, ?_, ?_⟩
      · unfold nodesAt at hns ⊢
        rw [List.mapM_cons, node_eq_ok hi, hns]
        rfl
      · rw [List.map_cons, hids, h.id hi]
      · exact List.forall_mem_cons.mpr ⟨mem_nodes_iff.mpr ⟨i, hi⟩, hmem⟩

theorem Arena.nodesAt_positionsIn (h : d.Arena) (parent : Option Int) :
    ∃ ns, d.nodesAt (d.positionsIn parent) = .ok ns ∧
      ns.map (·.id) = d.positionsIn parent ∧ ∀ n ∈ ns, n ∈ d.nodes := by
  apply h.nodesAt_eq_ok
  intro x hx
  obtain ⟨i, n, rfl, hi, -⟩ := mem_positionsIn.mp hx
  exact ⟨i, n, rfl, hi⟩

/-! ## Down -/

theorem children_of_not_isBlock {n : Node} (h : n.isBlock ≠ true) : n.children = [] := by
  cases hkind : n.kind with
  | property => simp [Node.children, hkind]
  | block children => simp [Node.isBlock, hkind] at h

/-- Properties have no children, and no node names one as its parent. -/
theorem Arena.children_eq (h : d.Arena) {i : Nat} {n : Node} (hi : d.nodes[i]? = some n) :
    n.children = d.positionsIn (some i) := by
  by_cases hblock : n.isBlock = true
  · exact h.children hi hblock
  · rw [children_of_not_isBlock hblock, eq_comm, List.eq_nil_iff_forall_not_mem]
    intro x hx
    obtain ⟨j, m, -, hj, hp⟩ := mem_positionsIn.mp hx
    obtain ⟨q, n', hq, -, hn', hblock'⟩ := h.parent hj hp
    obtain rfl : i = q := Int.ofNat.inj hq
    obtain rfl : n' = n := Option.some.inj (hn'.symm.trans hi)
    exact hblock hblock'

theorem Arena.childrenOf_eq_ok (h : d.Arena) {n : Node} (hn : n ∈ d.nodes) :
    ∃ ms, d.childrenOf n = .ok ms ∧ ms.map (·.id) = n.children ∧ ∀ m ∈ ms, m ∈ d.nodes := by
  obtain ⟨i, hi⟩ := mem_nodes_iff.mp hn
  unfold childrenOf
  rw [h.children_eq hi]
  exact h.nodesAt_positionsIn (some i)

/-! ## Up -/

theorem parentOf_of_none {n : Node} (h : n.parent = none) : d.parentOf n = .ok none := by
  rw [parentOf, h]

theorem Arena.parentOf_of_some (h : d.Arena) {n : Node} (hn : n ∈ d.nodes) {p : Int}
    (hp : n.parent = some p) :
    ∃ m ∈ d.nodes, d.parentOf n = .ok (some m) ∧ m.id = p ∧ m.isBlock = true ∧ p < n.id := by
  obtain ⟨i, hi⟩ := mem_nodes_iff.mp hn
  obtain ⟨q, m, rfl, hlt, hq, hblock⟩ := h.parent hi hp
  refine ⟨m, mem_nodes_iff.mpr ⟨q, hq⟩, ?_, h.id hq, hblock, ?_⟩
  · rw [parentOf, hp]
    simp only [node_eq_ok hq, hblock, if_true]
  · rw [h.id hi]
    exact Int.ofNat_lt.mpr hlt

theorem Arena.parentOf_eq_ok (h : d.Arena) {n : Node} (hn : n ∈ d.nodes) :
    ∃ m?, d.parentOf n = .ok m? ∧ m?.map (·.id) = n.parent := by
  cases hp : n.parent with
  | none => exact ⟨none, parentOf_of_none hp, rfl⟩
  | some p =>
      obtain ⟨m, -, hparent, hid, -, -⟩ := h.parentOf_of_some hn hp
      exact ⟨some m, hparent, by rw [Option.map_some, hid]⟩

/-- **Up and down are inverse.** -/
theorem Arena.parentOf_iff_mem_childrenOf (h : d.Arena) {n m : Node} (hn : n ∈ d.nodes)
    (hm : m ∈ d.nodes) :
    d.parentOf n = .ok (some m) ↔ ∃ ms, d.childrenOf m = .ok ms ∧ n ∈ ms := by
  obtain ⟨i, hni, hi⟩ := h.getElem?_of_mem hn
  obtain ⟨j, hmj, hj⟩ := h.getElem?_of_mem hm
  obtain ⟨ms, hms, hids, hmem⟩ := h.childrenOf_eq_ok hm
  constructor
  · intro hparent
    cases hp : n.parent with
    | none =>
        rw [parentOf_of_none hp] at hparent
        cases hparent
    | some p =>
        obtain ⟨m', -, hparent', hid, -, -⟩ := h.parentOf_of_some hn hp
        obtain rfl : m' = m := by
          rw [hparent'] at hparent
          exact Option.some.inj (Except.ok.inj hparent)
        -- the number of `n` is listed, and only `n` has it
        have hlisted : n.id ∈ ms.map (·.id) := by
          rw [hids, h.children_eq hj]
          exact mem_positionsIn.mpr ⟨i, n, hni, hi, by rw [hp, ← hid, hmj]⟩
        obtain ⟨n', hn', hsame⟩ := List.mem_map.mp hlisted
        rw [h.eq_of_id_eq (hmem n' hn') hn hsame] at hn'
        exact ⟨ms, hms, hn'⟩
  · rintro ⟨ms', hms', hmem'⟩
    obtain rfl : ms' = ms := Except.ok.inj (hms'.symm.trans hms)
    have hlisted : n.id ∈ m.children := hids ▸ List.mem_map_of_mem hmem'
    rw [h.children_eq hj] at hlisted
    obtain ⟨i', n', hi', hn', hp⟩ := mem_positionsIn.mp hlisted
    obtain rfl : i' = i := by omega
    obtain rfl : n' = n := Option.some.inj (hn'.symm.trans hi)
    obtain ⟨m', hm', hparent, hid, -, -⟩ := h.parentOf_of_some hn hp
    rwa [h.eq_of_id_eq hm' hm (hid.trans hmj.symm)] at hparent

/-- The way up from a node ends at the root. -/
inductive ReachesRoot (d : Document) : Node → Prop where
  | root {n : Node} : d.parentOf n = .ok none → ReachesRoot d n
  | step {n m : Node} : d.parentOf n = .ok (some m) → ReachesRoot d m → ReachesRoot d n

theorem Arena.reachesRoot (h : d.Arena) : ∀ {i : Nat} {n : Node},
    d.nodes[i]? = some n → d.ReachesRoot n := by
  intro i
  -- parents have smaller numbers
  induction i using Nat.strongRecOn with
  | ind i ih =>
      intro n hi
      cases hp : n.parent with
      | none => exact .root (parentOf_of_none hp)
      | some p =>
          have hn := mem_nodes_iff.mpr ⟨i, hi⟩
          obtain ⟨m, hm, hparent, hid, -, hlt⟩ := h.parentOf_of_some hn hp
          obtain ⟨j, hmj, hj⟩ := h.getElem?_of_mem hm
          have hji : j < i := by
            rw [← hid, hmj, h.id hi] at hlt
            exact Int.ofNat_lt.mp hlt
          exact .step hparent (ih j hji hj)

/-! ## Containers -/

/-- Where a number is listed: in the root, or among the children of a node. -/
def Holds (d : Document) (x : Int) : Option Nat → Prop
  | none => x ∈ d.root
  | some p => ∃ m, d.nodes[p]? = some m ∧ x ∈ m.children

theorem Arena.holds_iff (h : d.Arena) {i : Nat} {n : Node} (hi : d.nodes[i]? = some n)
    (container : Option Nat) :
    d.Holds i container ↔ n.parent = container.map Int.ofNat := by
  have hpositions : ∀ parent, (i : Int) ∈ d.positionsIn parent ↔ n.parent = parent := by
    intro parent
    rw [mem_positionsIn]
    constructor
    · rintro ⟨i', n', hi', hn', hp⟩
      obtain rfl : i' = i := by omega
      obtain rfl : n' = n := Option.some.inj (hn'.symm.trans hi)
      exact hp
    · intro hp
      exact ⟨i, n, rfl, hi, hp⟩
  cases container with
  | none =>
      show (i : Int) ∈ d.root ↔ _
      rw [h.root]
      exact hpositions none
  | some p =>
      constructor
      · rintro ⟨m, hm, hlisted⟩
        rw [h.children_eq hm] at hlisted
        exact (hpositions (some p)).mp hlisted
      · intro hp
        obtain ⟨q, m, hq, -, hm, -⟩ := h.parent hi hp
        obtain rfl : p = q := Int.ofNat.inj hq
        refine ⟨m, hm, ?_⟩
        rw [h.children_eq hm]
        exact (hpositions (some p)).mpr hp

theorem Arena.existsUnique_holds (h : d.Arena) {i : Nat} (hi : i < d.nodes.size) :
    ∃! container, d.Holds i container := by
  have hn : d.nodes[i]? = some d.nodes[i] := Array.getElem?_eq_getElem hi
  have hinj : Function.Injective (Option.map Int.ofNat) :=
    Option.map_injective fun _ _ => Int.ofNat.inj
  cases hp : d.nodes[i].parent with
  | none =>
      refine ⟨none, (h.holds_iff hn none).mpr hp, ?_⟩
      intro container hholds
      exact hinj (((h.holds_iff hn container).mp hholds).symm.trans hp)
  | some p =>
      obtain ⟨q, -, rfl, -⟩ := h.parent hn hp
      refine ⟨some q, (h.holds_iff hn (some q)).mpr hp, ?_⟩
      intro container hholds
      exact hinj (((h.holds_iff hn container).mp hholds).symm.trans hp)

/-! ## Documents that have been read -/

/-- What an arena offers to those who walk through it. -/
structure Navigable (d : Document) : Prop where
  root_sorted : d.root.Pairwise (· < ·)
  children_sorted : ∀ n ∈ d.nodes, n.children.Pairwise (· < ·)
  container : ∀ i < d.nodes.size, ∃! container, d.Holds i container
  reachesRoot : ∀ n ∈ d.nodes, d.ReachesRoot n
  node : ∀ (i : Nat) (h : i < d.nodes.size), d.node i = .ok d.nodes[i]
  properties : ∃ ns, d.properties = .ok ns ∧ ns.map (·.id) = d.root
  childrenOf : ∀ n ∈ d.nodes, ∃ ms, d.childrenOf n = .ok ms ∧ ms.map (·.id) = n.children
  parentOf : ∀ n ∈ d.nodes, ∃ m?, d.parentOf n = .ok m? ∧ m?.map (·.id) = n.parent
  inverse : ∀ n ∈ d.nodes, ∀ m ∈ d.nodes,
    d.parentOf n = .ok (some m) ↔ ∃ ms, d.childrenOf m = .ok ms ∧ n ∈ ms

theorem Arena.navigable (h : d.Arena) : d.Navigable where
  root_sorted := by
    rw [h.root]
    exact d.positionsIn_sorted none
  children_sorted n hn := by
    obtain ⟨i, hi⟩ := mem_nodes_iff.mp hn
    rw [h.children_eq hi]
    exact d.positionsIn_sorted (some i)
  container _ hi := h.existsUnique_holds hi
  reachesRoot n hn := by
    obtain ⟨i, hi⟩ := mem_nodes_iff.mp hn
    exact h.reachesRoot hi
  node i hi := node_eq_ok (Array.getElem?_eq_getElem hi)
  properties := by
    obtain ⟨ns, hns, hids, -⟩ := h.nodesAt_positionsIn none
    exact ⟨ns, by rw [properties, h.root, hns], by rw [hids, h.root]⟩
  childrenOf n hn := by
    obtain ⟨ms, hms, hids, -⟩ := h.childrenOf_eq_ok hn
    exact ⟨ms, hms, hids⟩
  parentOf _ hn := h.parentOf_eq_ok hn
  inverse _ hn _ hm := h.parentOf_iff_mem_childrenOf hn hm

/-- **Every document that can be read is an arena**, and all steps through it lead
somewhere, whatever the settings, the zones and the text. -/
theorem arena_and_navigable_of_read {r : Reader} {content : Content}
    (h : (r.read content).outcome = .ok d) : d.Arena ∧ d.Navigable :=
  ⟨arena_of_read h, (arena_of_read h).navigable⟩

end Document

/-! ## An unbalanced text -/

/-- An END without a block, an END under another name, and a block left open. -/
def unbalancedText : String :=
  "END:X\r\nBEGIN:A\r\nP;Q=\"r;s\":1,2\r\nEND:B\r\n\nDTSTART:20230615\nBEGIN:C\rD:\nBEGIN:E\n"

def unbalancedDocument : Document where
  nodes := #[
    { id := 0, kind := .block [1], name := "BEGIN", value := "A", values := ["A"], lineNumber := 2 },
    { id := 1, kind := .property, name := "P", parameters := [⟨"Q", "r;s"⟩], value := "1,2",
      values := ["1", "2"], parent := some 0, lineNumber := 3 },
    { id := 2, kind := .property, name := "DTSTART", value := "20230615",
      values := ["20230615"], lineNumber := 6 },
    { id := 3, kind := .block [4, 5], name := "BEGIN", value := "C", values := ["C"],
      lineNumber := 7 },
    { id := 4, kind := .property, name := "D", values := [""], parent := some 3, lineNumber := 8 },
    { id := 5, kind := .block [], name := "BEGIN", value := "E", values := ["E"],
      parent := some 3, lineNumber := 9 }]
  root := [0, 2, 3]
  summary := {
    dtstart := some "20230615"
    allDay := true
    start := some ⟨⟨⟨2023, 6, 15, by decide⟩, .midnight⟩, .fixed 0⟩ }

theorem read_unbalancedText :
    ((Reader.zoneless {}).read (.text unbalancedText)).outcome = .ok unbalancedDocument := by
  apply eq_ok_of_toOption
  decide +kernel

namespace Document

theorem arena_and_navigable_unbalanced :
    ((Reader.zoneless {}).read (.text unbalancedText)).outcome = .ok unbalancedDocument ∧
      unbalancedDocument.Arena ∧ unbalancedDocument.Navigable :=
  ⟨read_unbalancedText, arena_and_navigable_of_read read_unbalancedText⟩

end Document

end VCalendar
