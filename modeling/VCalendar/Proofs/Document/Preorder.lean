import VCalendar.Document.Walk
import VCalendar.Proofs.Document.Navigation

/-!
# The walk in line order

A single counter tells how deep each line lies: it goes up behind a BEGIN line and
down, but not below zero, at an END line. Main statement: walking a document that
has been read visits its nodes in the order of their lines, each once, at the depth
that the counter has there.

The counter is related to the nesting, whose open blocks it counts, and the nesting
to the walk, whose agenda holds exactly the nodes that are still to come and whose
parent has been visited.
-/

namespace VCalendar

/-! ## One counter -/

/-- A line that is no END line, and how deep it lies. -/
structure Entry where
  depth : Nat
  token : Token
  line : Nat
deriving DecidableEq, Repr

def Entry.numbered (e : Entry) : NumberedToken :=
  ⟨e.token, e.line⟩

/-- The lines that are no END lines, with the counter at each of them. -/
def entries (depth : Nat) : List NumberedToken → List Entry
  | [] => []
  | t :: ts =>
      if t.token.name = endName then entries (depth - 1) ts
      else
        ⟨depth, t.token, t.line⟩ ::
          entries (if t.token.name = beginName then depth + 1 else depth) ts

theorem numbered_entries (depth : Nat) (ts : List NumberedToken) :
    (entries depth ts).map Entry.numbered = ts.filter (·.token.name ≠ endName) := by
  induction ts generalizing depth with
  | nil => rfl
  | cons t ts ih =>
      by_cases hend : t.token.name = endName
      · simp [entries, hend, ih]
      · simp [entries, hend, ih, Entry.numbered]

/-! ## The counter counts the open blocks -/

namespace Nesting

/-- The depth below a parent. -/
def depthBelow (depths : List Nat) : Option Nat → Nat
  | none => 0
  | some p => depths.getD p 0 + 1

/-- An open block is as deep as there are blocks open around it. -/
def OpenDepths (depths : List Nat) : List OpenBlock → Prop
  | [] => True
  | b :: outer => depths[b.position]? = some outer.length ∧ OpenDepths depths outer

/-- Depths of the placed tokens that go with their parents. -/
structure Depths (n : Nesting) (depths : List Nat) : Prop where
  length_eq : depths.length = n.placed.size
  depth : ∀ {i : Nat} {x : Placed},
    n.placed[i]? = some x → depths[i]? = some (depthBelow depths x.parent)
  opened : OpenDepths depths n.opened

variable {n : Nesting} {depths : List Nat} {opened : List OpenBlock}

theorem depths_empty : Depths {} [] where
  length_eq := rfl
  depth h := by simp at h
  opened := trivial

theorem OpenDepths.append (h : OpenDepths depths opened) (more : List Nat) :
    OpenDepths (depths ++ more) opened := by
  induction opened with
  | nil => trivial
  | cons b outer ih =>
      obtain ⟨hb, houter⟩ := h
      have hlt := (List.getElem?_eq_some_iff.mp hb).1
      exact ⟨by rw [List.getElem?_append_left hlt, hb], ih houter⟩

theorem OpenDepths.depthBelow_head (h : OpenDepths depths opened) :
    depthBelow depths (opened.head?.map (·.position)) = opened.length := by
  cases opened with
  | nil => rfl
  | cons b outer => simp [depthBelow, h.1]

theorem depthBelow_append {parent : Option Nat} (h : ∀ p, parent = some p → p < depths.length)
    (more : List Nat) : depthBelow (depths ++ more) parent = depthBelow depths parent := by
  cases parent with
  | none => rfl
  | some p => simp [depthBelow, List.getElem?_append_left (h p rfl)]

theorem Depths.place (h : n.Depths depths) (hcoherent : n.Coherent) (token : Token) (line : Nat) :
    (n.place token line).Depths (depths ++ [n.opened.length]) := by
  have hnew : (depths ++ [n.opened.length])[n.placed.size]? = some n.opened.length := by
    rw [← h.length_eq]
    simp
  refine ⟨?_, ?_, ?_⟩
  · simp [Nesting.place, h.length_eq]
  · intro i x hx
    rcases getElem?_place hx with hx | ⟨rfl, rfl⟩
    · -- the depth of an older token does not see the new one
      have hi : i < depths.length := h.length_eq ▸ (Array.getElem?_eq_some_iff.mp hx).1
      rw [List.getElem?_append_left hi, h.depth hx, depthBelow_append]
      intro p hp
      exact Nat.lt_trans (hcoherent.parent_lt hx hp) hi
    · -- the new token is as deep as there are open blocks
      rw [hnew, depthBelow_append, h.opened.depthBelow_head]
      intro p hp
      obtain ⟨b, hb, rfl⟩ := Option.map_eq_some_iff.mp hp
      rw [h.length_eq]
      exact hcoherent.chain.position_lt_size (List.mem_of_mem_head? hb)
  · change OpenDepths _ (if token.name = beginName then _ else _)
    split
    · exact ⟨hnew, h.opened.append _⟩
    · exact h.opened.append _

theorem Depths.close (h : n.Depths depths) : Depths { n with opened := n.opened.tail } depths where
  length_eq := h.length_eq
  depth := h.depth
  opened := by
    have hopened := h.opened
    cases hcase : n.opened with
    | nil => trivial
    | cons b outer =>
        rw [hcase] at hopened
        exact hopened.2

theorem Depths.acceptAll (h : n.Depths depths) (hcoherent : n.Coherent)
    (ts : List NumberedToken) :
    (n.acceptAll ts).Depths (depths ++ (entries n.opened.length ts).map (·.depth)) := by
  induction ts generalizing n depths with
  | nil => simpa [entries] using h
  | cons t ts ih =>
      rw [acceptAll_cons]
      have hstep := hcoherent.accept t
      by_cases hend : t.token.name = endName
      · rw [accept_end hend] at hstep ⊢
        rw [entries, if_pos hend, ← List.length_tail]
        exact ih h.close hstep
      · rw [accept_place hend] at hstep ⊢
        have hlength : (n.place t.token t.line).opened.length =
            if t.token.name = beginName then n.opened.length + 1 else n.opened.length := by
          simp only [Nesting.place]
          split <;> rfl
        rw [entries, if_neg hend, List.map_cons, List.append_cons, ← hlength]
        exact ih (h.place hcoherent t.token t.line) hstep

end Nesting

/-! ## Documents in pre-order -/

namespace Document

/-- Between a block and a node inside it there are only nodes inside it, and the
depths count the blocks around each node. -/
structure Preordered (d : Document) (depth : Nat → Nat) : Prop where
  enclosed : ∀ {i j k : Nat} {n m : Node}, d.nodes[k]? = some m → m.parent = some (i : Int) →
    i < j → j < k → d.nodes[j]? = some n → ∃ p : Nat, n.parent = some (p : Int) ∧ i ≤ p
  depth_root : ∀ {i : Nat} {n : Node}, d.nodes[i]? = some n → n.parent = none → depth i = 0
  depth_child : ∀ {i p : Nat} {n : Node},
    d.nodes[i]? = some n → n.parent = some (p : Int) → depth i = depth p + 1

theorem preordered_of_coherent {d : Document} {n : Nesting} {depths : List Nat}
    (hcoherent : n.Coherent) (hdepths : n.Depths depths) (hnodes : d.nodes = n.nodes) :
    d.Preordered (depths.getD · 0) := by
  have hdepth : ∀ {i : Nat} {x : Placed}, n.placed[i]? = some x →
      depths.getD i 0 = Nesting.depthBelow depths x.parent := by
    intro i x hx
    rw [List.getD_eq_getElem?_getD, hdepths.depth hx, Option.getD_some]
  refine ⟨?_, ?_, ?_⟩
  · intro i j k n' m hm hp hij hjk hn
    obtain ⟨y, hy, rfl⟩ := Nesting.eq_nodeOf_of_getElem? hnodes hm
    obtain ⟨x, hx, rfl⟩ := Nesting.eq_nodeOf_of_getElem? hnodes hn
    obtain ⟨i', hi', hsame⟩ := Option.map_eq_some_iff.mp hp
    obtain rfl : i' = i := Int.ofNat.inj hsame
    obtain ⟨p, hparent, hle⟩ := hcoherent.enclosed hy hi' hij hjk hx
    exact ⟨p, congrArg (Option.map Int.ofNat) hparent, hle⟩
  · intro i n' hi hnone
    obtain ⟨x, hx, rfl⟩ := Nesting.eq_nodeOf_of_getElem? hnodes hi
    rw [hdepth hx, Option.map_eq_none_iff.mp hnone]
    rfl
  · intro i p n' hi hp
    obtain ⟨x, hx, rfl⟩ := Nesting.eq_nodeOf_of_getElem? hnodes hi
    obtain ⟨p', hp', hsame⟩ := Option.map_eq_some_iff.mp hp
    obtain rfl : p' = p := Int.ofNat.inj hsame
    rw [hdepth hx, hp']
    rfl

/-- A document that has been read is in pre-order. -/
theorem preordered_of_read {r : Reader} {content : Content} {d : Document}
    (h : (r.read content).outcome = .ok d) : ∃ depth, d.Preordered depth := by
  obtain ⟨ts, -, hnodes, -⟩ := Reader.read_eq_ok h
  have hdepths := Nesting.depths_empty.acceptAll Nesting.coherent_empty ts
  exact ⟨_, preordered_of_coherent (Nesting.coherent_acceptAll ts) hdepths hnodes⟩

/-! ## The agenda of the walk -/

/-- A filter by two tests one after the other, where no element of the second kind
stands before one of the first. -/
theorem filter_or_of_pairwise {α : Type} {p q : α → Bool} {xs : List α}
    (hdisjoint : ∀ x ∈ xs, p x = true → q x = false)
    (hordered : xs.Pairwise fun x y => q x = true → p y = false) :
    xs.filter (fun x => p x || q x) = xs.filter p ++ xs.filter q := by
  induction xs with
  | nil => rfl
  | cons x xs ih =>
      obtain ⟨hx, hxs⟩ := List.forall_mem_cons.mp hdisjoint
      obtain ⟨hafter, hrest⟩ := List.pairwise_cons.mp hordered
      cases hp : p x with
      | true => simp [hp, hx hp, ih hxs hrest]
      | false =>
          cases hq : q x with
          | false => simp [hp, hq, ih hxs hrest]
          | true =>
              -- from here on the first test holds of nothing
              have hnone : xs.filter p = [] := by
                rw [List.filter_eq_nil_iff]
                intro y hy
                simp [hafter y hy hq]
              simpa [hp, hq, hnone] using ih hxs hrest

/-- Whether a node is at the root or its parent lies before position `i`. -/
def reached (d : Document) (i j : Nat) : Bool :=
  d.nodes[j]?.any fun n => n.parent.all (· < (i : Int))

/-- Whether a node lies in the block at position `i`. -/
def isChild (d : Document) (i j : Nat) : Bool :=
  d.nodes[j]?.any (·.parent = some (i : Int))

/-- The positions from `first` on. -/
def positionsFrom (d : Document) (first : Nat) : List Nat :=
  List.range' first (d.nodes.size - first)

/-- The nodes from `first` on whose parent lies before `i`, with their depths. -/
def waiting (d : Document) (depth : Nat → Nat) (i first : Nat) : Agenda :=
  ((d.positionsFrom first).filter (d.reached i)).map fun j => (depth j, (j : Int))

variable {d : Document} {depth : Nat → Nat}

theorem positionsFrom_of_lt {i : Nat} (hi : i < d.nodes.size) :
    d.positionsFrom i = i :: d.positionsFrom (i + 1) := by
  unfold positionsFrom
  obtain ⟨k, hk⟩ : ∃ k, d.nodes.size - i = k + 1 := ⟨d.nodes.size - i - 1, by omega⟩
  rw [hk, List.range'_succ, show d.nodes.size - (i + 1) = k by omega]

theorem isChild_iff {i j : Nat} :
    d.isChild i j = true ↔ ∃ n, d.nodes[j]? = some n ∧ n.parent = some (i : Int) := by
  simp [isChild, Option.any_eq_true]

theorem reached_iff {i j : Nat} :
    d.reached i j = true ↔ ∃ n, d.nodes[j]? = some n ∧ ∀ p, n.parent = some p → p < (i : Int) := by
  simp [reached, Option.any_eq_true, Option.all_eq_true]

theorem reached_succ (i j : Nat) : d.reached (i + 1) j = (d.isChild i j || d.reached i j) := by
  unfold reached isChild
  cases d.nodes[j]? with
  | none => rfl
  | some n =>
      cases hp : n.parent with
      | none => simp [hp]
      | some p =>
          rw [Bool.eq_iff_iff]
          simp only [Option.any_some, hp, Option.all_some, Option.some.injEq, Bool.or_eq_true,
            decide_eq_true_eq]
          omega

/-- The children of a node are listed in the order of their positions behind it. -/
theorem Arena.children_eq_filter (h : d.Arena) {i : Nat} {n : Node} (hi : d.nodes[i]? = some n) :
    n.children = ((d.positionsFrom (i + 1)).filter (d.isChild i)).map Int.ofNat := by
  have hlt : i < d.nodes.size := (Array.getElem?_eq_some_iff.mp hi).1
  have hsplit : List.range d.nodes.size = List.range' 0 (i + 1) ++ d.positionsFrom (i + 1) := by
    have happend : List.range' 0 (i + 1) ++ List.range' (0 + (i + 1)) (d.nodes.size - (i + 1)) =
        List.range' 0 (i + 1 + (d.nodes.size - (i + 1))) := List.range'_append_1
    rw [Nat.zero_add, Nat.add_sub_cancel' hlt] at happend
    rw [List.range_eq_range']
    exact happend.symm
  have hbefore : (List.range' 0 (i + 1)).filter (d.isChild i) = [] := by
    rw [List.filter_eq_nil_iff]
    intro j hj hchild
    obtain ⟨m, hm, hp⟩ := isChild_iff.mp hchild
    obtain ⟨q, _, hq, hqj, -, -⟩ := h.parent hm hp
    rw [List.mem_range'_1] at hj
    omega
  rw [h.children_eq hi]
  change ((List.range d.nodes.size).filter (d.isChild i)).map Int.ofNat = _
  rw [hsplit, List.filter_append, hbefore, List.nil_append]

theorem Arena.reached_self (h : d.Arena) {i : Nat} {n : Node} (hi : d.nodes[i]? = some n) :
    d.reached i i = true := by
  refine reached_iff.mpr ⟨n, hi, ?_⟩
  intro p hp
  obtain ⟨q, _, rfl, hlt, -, -⟩ := h.parent hi hp
  exact Int.ofNat_lt.mpr hlt

/-- The next node to visit waits in front. -/
theorem Arena.waiting_eq_cons (h : d.Arena) {i : Nat} {n : Node} (hi : d.nodes[i]? = some n) :
    d.waiting depth i i = (depth i, (i : Int)) :: d.waiting depth i (i + 1) := by
  unfold waiting
  rw [positionsFrom_of_lt (Array.getElem?_eq_some_iff.mp hi).1, List.filter_cons,
    if_pos (h.reached_self hi), List.map_cons]

/-- After a visit the children of the node wait in front of all others. -/
theorem Preordered.waiting_succ (h : d.Preordered depth) (harena : d.Arena) {i : Nat} {n : Node}
    (hi : d.nodes[i]? = some n) :
    d.waiting depth (i + 1) (i + 1) =
      agendaAt (depth i + 1) n.children ++ d.waiting depth i (i + 1) := by
  have hdisjoint : ∀ j ∈ d.positionsFrom (i + 1), d.isChild i j = true → d.reached i j = false := by
    intro j _ hchild
    obtain ⟨m, hm, hp⟩ := isChild_iff.mp hchild
    simp [reached, hm, hp]
  -- nothing that waited before stands in front of a child
  have hordered : (d.positionsFrom (i + 1)).Pairwise
      fun j k => d.reached i j = true → d.isChild i k = false := by
    unfold positionsFrom
    refine (List.pairwise_lt_range' (s := i + 1) (n := d.nodes.size - (i + 1))).imp_of_mem ?_
    intro j k hj _ hjk hreached
    by_contra hchild
    obtain ⟨m, hm, hp⟩ := isChild_iff.mp (Bool.not_eq_false _ ▸ hchild)
    obtain ⟨n', hn', hbefore⟩ := reached_iff.mp hreached
    rw [List.mem_range'_1] at hj
    obtain ⟨q, hq, hle⟩ := h.enclosed hm hp (by omega) hjk hn'
    have hlt := hbefore q hq
    omega
  have hdepths : ((d.positionsFrom (i + 1)).filter (d.isChild i)).map
      (fun j => (depth j, (j : Int))) = agendaAt (depth i + 1) n.children := by
    rw [harena.children_eq_filter hi, agendaAt, List.map_map]
    apply List.map_congr_left
    intro j hj
    obtain ⟨m, hm, hp⟩ := isChild_iff.mp (List.mem_filter.mp hj).2
    rw [h.depth_child hm hp]
    rfl
  unfold waiting
  rw [show d.reached (i + 1) = fun j => d.isChild i j || d.reached i j from
      funext (reached_succ i), filter_or_of_pairwise hdisjoint hordered, List.map_append, hdepths]

/-- At first the root-level nodes wait. -/
theorem Preordered.waiting_zero (h : d.Preordered depth) (harena : d.Arena) :
    d.waiting depth 0 0 = agendaAt 0 d.root := by
  have hreached : ∀ j, d.reached 0 j = d.nodes[j]?.any (·.parent = none) := by
    intro j
    cases hj : d.nodes[j]? with
    | none => simp [reached, hj]
    | some n =>
        cases hp : n.parent with
        | none => simp [reached, hj, hp]
        | some p =>
            obtain ⟨q, _, rfl, -⟩ := harena.parent hj hp
            simp [reached, hj, hp]
  rw [harena.root]
  unfold waiting positionsIn agendaAt positionsFrom
  rw [Nat.sub_zero, ← List.range_eq_range', List.map_map, List.filter_congr fun j _ => hreached j]
  apply List.map_congr_left
  intro j hj
  obtain ⟨n, hn, hp⟩ := Option.any_eq_true _ _ |>.mp (List.mem_filter.mp hj).2
  rw [h.depth_root hn (of_decide_eq_true hp)]
  rfl

/-! ## The walk -/

/-- A visit to each node in the order of their positions. -/
def visitsInOrder (d : Document) (depth : Nat → Nat) : List Visit :=
  d.nodes.toList.zipIdx.map fun (n, i) => ⟨depth i, n⟩

theorem getElem?_visitsInOrder (i : Nat) :
    (d.visitsInOrder depth)[i]? = d.nodes[i]?.map fun n => ⟨depth i, n⟩ := by
  unfold visitsInOrder
  rw [List.getElem?_map, List.getElem?_zipIdx, Nat.zero_add, Array.getElem?_toList]
  cases d.nodes[i]? <;> rfl

theorem length_visitsInOrder : (d.visitsInOrder depth).length = d.nodes.size := by
  simp [visitsInOrder]

theorem node_visitsInOrder : (d.visitsInOrder depth).map (·.node) = d.nodes.toList := by
  unfold visitsInOrder
  rw [List.map_map]
  exact List.zipIdx_map_fst 0 d.nodes.toList

/-- From the nodes that wait at a position on, the walk goes through the positions. -/
theorem Preordered.visits_waiting (h : d.Preordered depth) (harena : d.Arena) (count : Nat)
    {i : Nat} (hi : i ≤ d.nodes.size) :
    d.visits count (d.waiting depth i i) = .ok (((d.visitsInOrder depth).drop i).take count) := by
  induction count generalizing i with
  | zero => rfl
  | succ count ih =>
      by_cases hlast : i = d.nodes.size
      · have hdone : d.waiting depth i i = [] := by
          simp [waiting, positionsFrom, hlast]
        have hdrop : (d.visitsInOrder depth).drop i = [] := by
          rw [List.drop_eq_nil_iff, length_visitsInOrder]
          exact Nat.le_of_eq hlast.symm
        rw [hdone, hdrop]
        rfl
      · have hlt : i < d.nodes.size := by omega
        have hn : d.nodes[i]? = some d.nodes[i] := Array.getElem?_eq_getElem hlt
        have hvisit : (d.visitsInOrder depth)[i]? = some ⟨depth i, d.nodes[i]⟩ := by
          rw [getElem?_visitsInOrder, hn, Option.map_some]
        obtain ⟨hbound, hget⟩ := List.getElem?_eq_some_iff.mp hvisit
        rw [harena.waiting_eq_cons hn, visits, node_eq_ok hn]
        simp only
        rw [← h.waiting_succ harena hn, ih hlt, List.drop_eq_getElem_cons hbound, hget]
        rfl

theorem Preordered.walkTake_eq (h : d.Preordered depth) (harena : d.Arena) (count : Nat) :
    d.walkTake count = .ok ((d.visitsInOrder depth).take count) := by
  unfold walkTake
  rw [← h.waiting_zero harena, h.visits_waiting harena count (Nat.zero_le _), List.drop_zero]

theorem Preordered.walk_eq (h : d.Preordered depth) (harena : d.Arena) :
    d.walk = .ok (d.visitsInOrder depth) := by
  have htake : (d.visitsInOrder depth).take (d.nodes.size + 1) = d.visitsInOrder depth :=
    List.take_of_length_le (by rw [length_visitsInOrder]; omega)
  unfold walk
  rw [h.walkTake_eq harena, htake]
  simp only
  rw [if_pos (Nat.le_of_eq length_visitsInOrder)]

end Document

/-- A visit shows an entry: its depth and the pieces and the line of its token, in the
node that is numbered like the entry. -/
structure Visit.Shows (v : Visit) (e : Entry) (i : Nat) : Prop where
  depth : v.depth = e.depth
  id : v.node.id = i
  line : v.node.lineNumber = e.line
  name : v.node.name = e.token.name
  parameters : v.node.parameters = e.token.parameters
  value : v.node.value = e.token.value
  values : v.node.values = splitValues e.token.value

/-- The walk shows the entries of some tokens one for one and in order. It visits
every node once, and each first part of it is a first part of the whole walk. -/
structure Document.WalkShows (d : Document) (ts : List NumberedToken) (visits : List Visit) :
    Prop where
  walk : d.walk = .ok visits
  walkTake : ∀ count, d.walkTake count = .ok (visits.take count)
  nodes : visits.map (·.node) = d.nodes.toList
  length_eq : visits.length = (entries 0 ts).length
  shows : ∀ (i : Nat) (v : Visit) (e : Entry),
    visits[i]? = some v → (entries 0 ts)[i]? = some e → v.Shows e i

/-- **The walk follows the counter.** Whatever END lines are missing, stray or under
another name, walking a document that has been read shows the entries of its text. -/
theorem Document.walk_of_read {r : Reader} {content : Content} {d : Document}
    (h : (r.read content).outcome = .ok d) :
    ∃ ts visits, content.tokens = .ok ts ∧ d.WalkShows ts visits := by
  obtain ⟨ts, hts, hnodes, -⟩ := Reader.read_eq_ok h
  have harena := arena_of_read h
  have hcoherent := Nesting.coherent_acceptAll ts
  have hdepths := Nesting.depths_empty.acceptAll Nesting.coherent_empty ts
  simp only [List.nil_append, List.length_nil] at hdepths
  have hpreordered := preordered_of_coherent hcoherent hdepths hnodes
  refine ⟨ts, _, hts, hpreordered.walk_eq harena, hpreordered.walkTake_eq harena,
    node_visitsInOrder, ?_, ?_⟩
  · rw [length_visitsInOrder, hnodes, Nesting.nodes_size, ← hdepths.length_eq, List.length_map]
  · intro i v e hv he
    rw [getElem?_visitsInOrder] at hv
    obtain ⟨n, hn, rfl⟩ := Option.map_eq_some_iff.mp hv
    obtain ⟨x, hx, rfl⟩ := Nesting.eq_nodeOf_of_getElem? hnodes hn
    -- the placed token and the entry come from the same line
    have hsame : x.numbered = e.numbered := by
      have hplaced : ((Nesting.acceptAll {} ts).placed.toList.map Placed.numbered)[i]? =
          ((entries 0 ts).map Entry.numbered)[i]? := by
        rw [Nesting.numbered_run, numbered_entries]
      rw [List.getElem?_map, List.getElem?_map, Array.getElem?_toList, hx, he] at hplaced
      exact Option.some.inj hplaced
    have htoken : x.token = e.token := congrArg NumberedToken.token hsame
    have hline : x.line = e.line := congrArg NumberedToken.line hsame
    refine ⟨?_, rfl, ?_, ?_, ?_, ?_, ?_⟩
    · simp [he]
    · exact congrArg Int.ofNat hline
    · exact congrArg Token.name htoken
    · exact congrArg Token.parameters htoken
    · exact congrArg Token.value htoken
    · exact congrArg Token.values htoken

theorem Document.walk_of_read_unbalanced :
    ((Reader.zoneless {}).read (.text unbalancedText)).outcome = .ok unbalancedDocument ∧
      ∃ ts visits, (Content.text unbalancedText).tokens = .ok ts ∧
        unbalancedDocument.WalkShows ts visits :=
  ⟨read_unbalancedText, walk_of_read read_unbalancedText⟩

end VCalendar
