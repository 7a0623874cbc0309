import VCalendar.Proofs.Document.Arena
import VCalendar.Proofs.Line.Grammar
import VCalendar.Proofs.Line.Terminated

/-!
# Forests of items

A forest is what a document is about: properties, and blocks with forests inside.
It is written line by line, and numbered node by node in pre-order. Main statement:
reading what a forest is written as gives the numbered forest back, in strict and in
lenient nesting, and without a warning.
-/

namespace VCalendar

open Line

inductive Item where
  | property (line : WrittenLine)
  | block (parameters : List WrittenParameter) (value : String) (items : List Item)

namespace Item

/-! ## The lines of a forest -/

/-- The line that opens a block. -/
def opening (parameters : List WrittenParameter) (value : String) : WrittenLine :=
  ⟨beginName, parameters, value⟩

/-- The line that closes a block. -/
def closing (value : String) : WrittenLine :=
  ⟨endName, [], value⟩

mutual
def lines : Item → List WrittenLine
  | .property w => [w]
  | .block ps value items => opening ps value :: (forestLines items ++ [closing value])
def forestLines : List Item → List WrittenLine
  | [] => []
  | item :: rest => item.lines ++ forestLines rest
end

mutual
/-- Every line can be cut into its pieces, and only blocks open and close. -/
def WellFormed : Item → Prop
  | .property w => w.WellFormed ∧ w.name ≠ beginName ∧ w.name ≠ endName
  | .block ps _ items => (∀ p ∈ ps, p.WellFormed) ∧ ForestWellFormed items
def ForestWellFormed : List Item → Prop
  | [] => True
  | item :: rest => item.WellFormed ∧ ForestWellFormed rest
end

mutual
instance decidableWellFormed : DecidablePred WellFormed
  | .property w => inferInstanceAs
      (Decidable (w.WellFormed ∧ w.name ≠ beginName ∧ w.name ≠ endName))
  | .block ps _ items =>
      have := decidableForestWellFormed items
      inferInstanceAs (Decidable ((∀ p ∈ ps, p.WellFormed) ∧ ForestWellFormed items))
instance decidableForestWellFormed : DecidablePred ForestWellFormed
  | [] => isTrue trivial
  | item :: rest =>
      have := decidableWellFormed item
      have := decidableForestWellFormed rest
      inferInstanceAs (Decidable (item.WellFormed ∧ ForestWellFormed rest))
end

/-- A forest as a text, each line ended by a carriage return and a line feed. -/
def forestText (items : List Item) : String :=
  String.ofList (terminated ((forestLines items).map (·.chars)))

/-! ## The nodes of a forest -/

mutual
/-- The number of nodes. -/
def size : Item → Nat
  | .property _ => 1
  | .block _ _ items => forestSize items + 1
def forestSize : List Item → Nat
  | [] => 0
  | item :: rest => item.size + forestSize rest
end

/-- The numbers of the items of a forest whose first node has the number `id`. -/
def forestRoots (id : Nat) : List Item → List Int
  | [] => []
  | item :: rest => (id : Int) :: forestRoots (id + item.size) rest

/-- The node of a line that has been written. -/
def nodeOfLine (w : WrittenLine) (kind : NodeKind) (parent : Option Int) (id line : Nat) :
    Node where
  id
  kind
  name := w.name
  parameters := w.parameters.map (·.parameter)
  value := w.value
  values := splitValues w.value
  parent
  lineNumber := line

mutual
/-- The nodes of an item, numbered in pre-order from `id` on lines from `line` on. -/
def nodes (parent : Option Int) (id line : Nat) : Item → List Node
  | .property w => [nodeOfLine w .property parent id line]
  | .block ps value items =>
      nodeOfLine (opening ps value) (.block (forestRoots (id + 1) items)) parent id line ::
        forestNodes (some id) (id + 1) (line + 1) items
def forestNodes (parent : Option Int) (id line : Nat) : List Item → List Node
  | [] => []
  | item :: rest =>
      item.nodes parent id line ++
        forestNodes parent (id + item.size) (line + item.lines.length) rest
end

mutual
theorem length_nodes (parent : Option Int) (id line : Nat) :
    ∀ item : Item, (item.nodes parent id line).length = item.size
  | .property w => rfl
  | .block ps value items => by rw [nodes, size, List.length_cons, length_forestNodes]
theorem length_forestNodes (parent : Option Int) (id line : Nat) :
    ∀ items : List Item, (forestNodes parent id line items).length = forestSize items
  | [] => rfl
  | item :: rest => by
      rw [forestNodes, forestSize, List.length_append, length_nodes, length_forestNodes]
end

/-! ## Placing a forest -/

mutual
/-- The tokens of an item as they are placed from position `id` on. -/
def placements (parent : Option Nat) (id line : Nat) : Item → List Placed
  | .property w => [⟨w.token, parent, line⟩]
  | .block ps value items =>
      ⟨(opening ps value).token, parent, line⟩ ::
        forestPlacements (some id) (id + 1) (line + 1) items
def forestPlacements (parent : Option Nat) (id line : Nat) : List Item → List Placed
  | [] => []
  | item :: rest =>
      item.placements parent id line ++
        forestPlacements parent (id + item.size) (line + item.lines.length) rest
end

mutual
theorem length_placements (parent : Option Nat) (id line : Nat) :
    ∀ item : Item, (item.placements parent id line).length = item.size
  | .property w => rfl
  | .block ps value items => by
      rw [placements, size, List.length_cons, length_forestPlacements]
theorem length_forestPlacements (parent : Option Nat) (id line : Nat) :
    ∀ items : List Item, (forestPlacements parent id line items).length = forestSize items
  | [] => rfl
  | item :: rest => by
      rw [forestPlacements, forestSize, List.length_append, length_placements,
        length_forestPlacements]
end

/-- The tokens of written lines, with the numbers of the lines. -/
def numberedTokens (first : Nat) (ws : List WrittenLine) : List NumberedToken :=
  (ws.zipIdx first).map fun (w, number) => ⟨w.token, number⟩

theorem numberedTokens_cons (first : Nat) (w : WrittenLine) (ws : List WrittenLine) :
    numberedTokens first (w :: ws) = ⟨w.token, first⟩ :: numberedTokens (first + 1) ws := rfl

theorem numberedTokens_append (first : Nat) (ws ws' : List WrittenLine) :
    numberedTokens first (ws ++ ws') =
      numberedTokens first ws ++ numberedTokens (first + ws.length) ws' := by
  simp [numberedTokens, List.zipIdx_append]

/-- A nesting with further placed tokens and the same open blocks. -/
def extend (n : Nesting) (more : List Placed) : Nesting :=
  { n with placed := n.placed ++ more.toArray }

theorem extend_extend (n : Nesting) (more more' : List Placed) :
    extend (extend n more) more' = extend n (more ++ more') := by
  simp [extend]

theorem place_property {n : Nesting} {token : Token} {line : Nat} (h : token.name ≠ beginName) :
    n.place token line = extend n [⟨token, n.opened.head?.map (·.position), line⟩] := by
  simp [Nesting.place, extend, h]

/-- A nesting with a further block that is open. -/
def openBlock (n : Nesting) (ps : List WrittenParameter) (value : String) (line : Nat) : Nesting :=
  { extend n [⟨(opening ps value).token, n.opened.head?.map (·.position), line⟩] with
    opened := ⟨n.placed.size, ⟨value, line⟩⟩ :: n.opened }

theorem place_opening (n : Nesting) (ps : List WrittenParameter) (value : String) (line : Nat) :
    n.place (opening ps value).token line = openBlock n ps value line := by
  simp [Nesting.place, openBlock, extend, opening, WrittenLine.token]

mutual
theorem accepts_item (strict : Bool) (line : Nat) : ∀ (item : Item) (n : Nesting),
    item.WellFormed →
      n.AdmitsAll strict (numberedTokens line item.lines) ∧
        n.acceptAll (numberedTokens line item.lines) =
          extend n (item.placements (n.opened.head?.map (·.position)) n.placed.size line)
  | .property w, n, h => by
      obtain ⟨-, hbegin, hend⟩ := h
      refine ⟨⟨fun hname => absurd hname hend, trivial⟩, ?_⟩
      show n.accept ⟨w.token, line⟩ = _
      rw [Nesting.accept_place hend, place_property hbegin]
      rfl
  | .block ps value items, n, h => by
      have hne : (opening ps value).token.name ≠ endName := by
        show beginName ≠ endName
        decide
      have hopen : n.accept ⟨(opening ps value).token, line⟩ = openBlock n ps value line :=
        (Nesting.accept_place hne).trans (place_opening n ps value line)
      -- inside, the block that has been opened is the innermost one
      obtain ⟨hadmits, haccept⟩ := accepts_forest strict (line + 1) items
        (openBlock n ps value line) h.2
      have hclosing : numberedTokens (line + 1 + (forestLines items).length) [closing value] =
          [⟨(closing value).token, line + 1 + (forestLines items).length⟩] := rfl
      rw [lines, numberedTokens_cons, numberedTokens_append, hclosing]
      refine ⟨⟨fun hname => absurd hname hne, ?_⟩, ?_⟩
      · -- it is open again when its END comes, which has its name
        rw [hopen, Nesting.admitsAll_append, haccept]
        exact ⟨hadmits, fun _ => ⟨_, _, rfl, fun _ => rfl⟩, trivial⟩
      · rw [Nesting.acceptAll_cons, hopen, Nesting.acceptAll_append, haccept,
          Nesting.acceptAll_cons, Nesting.acceptAll_nil, Nesting.accept_end rfl]
        simp [openBlock, extend, placements]
theorem accepts_forest (strict : Bool) (line : Nat) : ∀ (items : List Item) (n : Nesting),
    ForestWellFormed items →
      n.AdmitsAll strict (numberedTokens line (forestLines items)) ∧
        n.acceptAll (numberedTokens line (forestLines items)) =
          extend n (forestPlacements (n.opened.head?.map (·.position)) n.placed.size line items)
  | [], n, _ => ⟨trivial, by simp [numberedTokens, forestLines, forestPlacements, extend]⟩
  | item :: rest, n, h => by
      obtain ⟨hitem, hrest⟩ := h
      obtain ⟨hadmits, haccept⟩ := accepts_item strict line item n hitem
      obtain ⟨hadmits', haccept'⟩ := accepts_forest strict (line + item.lines.length) rest
        (extend n (item.placements (n.opened.head?.map (·.position)) n.placed.size line)) hrest
      have hsize : (extend n (item.placements (n.opened.head?.map (·.position)) n.placed.size
          line)).placed.size = n.placed.size + item.size := by
        simp [extend, length_placements]
      rw [forestLines, numberedTokens_append]
      refine ⟨Nesting.admitsAll_append.mpr ⟨hadmits, ?_⟩, ?_⟩
      · rw [haccept]
        exact hadmits'
      · rw [Nesting.acceptAll_append, haccept, haccept', extend_extend, forestPlacements, hsize]
        rfl
end

/-! ## What lies in a block -/

/-- The positions, counted from `first`, of the tokens placed in a given block. -/
def inside (first : Nat) (placed : List Placed) (parent : Option Nat) : List Int :=
  (placed.zipIdx first).filterMap fun (x, i) => if x.parent = parent then some (i : Int) else none

theorem inside_cons (first : Nat) (x : Placed) (placed : List Placed) (parent : Option Nat) :
    inside first (x :: placed) parent =
      if x.parent = parent then (first : Int) :: inside (first + 1) placed parent
      else inside (first + 1) placed parent := by
  unfold inside
  rw [List.zipIdx_cons, List.filterMap_cons]
  by_cases h : x.parent = parent <;> simp [h]

theorem inside_append (first : Nat) (placed placed' : List Placed) (parent : Option Nat) :
    inside first (placed ++ placed') parent =
      inside first placed parent ++ inside (first + placed.length) placed' parent := by
  unfold inside
  rw [List.zipIdx_append, List.filterMap_append]

mutual
/-- An item has nothing to do with blocks outside it, but for the one it lies in. -/
theorem inside_placements_outside {parent container : Option Nat} (hne : container ≠ parent) :
    ∀ (item : Item) (first line : Nat),
      (∀ p, container = some p → p < first ∨ first + item.size ≤ p) →
        inside first (item.placements parent first line) container = []
  | .property w, first, line, _ => by
      rw [placements, inside_cons, if_neg hne.symm]
      rfl
  | .block ps value items, first, line, hout => by
      -- the block itself is inside the bounds, so it is not the container either
      have hinner : container ≠ some first := by
        intro hcontainer
        have hsize := hout first hcontainer
        rw [size] at hsize
        omega
      rw [placements, inside_cons, if_neg hne.symm]
      apply inside_forestPlacements_outside hinner items
      intro p hp
      have hsize := hout p hp
      rw [size] at hsize
      omega
theorem inside_forestPlacements_outside {parent container : Option Nat}
    (hne : container ≠ parent) : ∀ (items : List Item) (first line : Nat),
      (∀ p, container = some p → p < first ∨ first + forestSize items ≤ p) →
        inside first (forestPlacements parent first line items) container = []
  | [], _, _, _ => rfl
  | item :: rest, first, line, hout => by
      rw [forestPlacements, inside_append, length_placements,
        inside_placements_outside hne item first line, inside_forestPlacements_outside hne rest]
      · rfl
      · intro p hp
        have hsize := hout p hp
        rw [forestSize] at hsize
        omega
      · intro p hp
        have hsize := hout p hp
        rw [forestSize] at hsize
        omega
end

theorem inside_placements_self {parent : Option Nat} {first : Nat}
    (hparent : ∀ p, parent = some p → p < first) (item : Item) (line : Nat) :
    inside first (item.placements parent first line) parent = [(first : Int)] := by
  cases item with
  | property w =>
      rw [placements, inside_cons, if_pos rfl]
      rfl
  | block ps value items =>
      have hne : parent ≠ some first := fun h => Nat.lt_irrefl first (hparent first h)
      rw [placements, inside_cons, if_pos rfl, inside_forestPlacements_outside hne]
      intro p hp
      have := hparent p hp
      omega

/-- In the block around a forest lie its items. -/
theorem inside_forestPlacements_self {parent : Option Nat} {first : Nat}
    (hparent : ∀ p, parent = some p → p < first) (items : List Item) (line : Nat) :
    inside first (forestPlacements parent first line items) parent = forestRoots first items := by
  induction items generalizing first line with
  | nil => rfl
  | cons item rest ih =>
      have hrest : ∀ p, parent = some p → p < first + item.size :=
        fun p hp => Nat.lt_of_lt_of_le (hparent p hp) (Nat.le_add_right first item.size)
      rw [forestPlacements, inside_append, inside_placements_self hparent, length_placements,
        ih hrest, forestRoots]
      rfl

/-! ## The nodes of placed tokens -/

/-- The nodes of placed tokens from position `first` on, with given children. -/
def nodesOfPlaced (children : Nat → List Int) (first : Nat) (placed : List Placed) : List Node :=
  (placed.zipIdx first).map fun (x, i) => Nesting.nodeOf (children i) i x

theorem nodesOfPlaced_cons (children : Nat → List Int) (first : Nat) (x : Placed)
    (placed : List Placed) :
    nodesOfPlaced children first (x :: placed) =
      Nesting.nodeOf (children first) first x :: nodesOfPlaced children (first + 1) placed := rfl

theorem nodesOfPlaced_append (children : Nat → List Int) (first : Nat)
    (placed placed' : List Placed) :
    nodesOfPlaced children first (placed ++ placed') =
      nodesOfPlaced children first placed ++
        nodesOfPlaced children (first + placed.length) placed' := by
  unfold nodesOfPlaced
  rw [List.zipIdx_append, List.map_append]

mutual
theorem nodesOfPlaced_placements (children : Nat → List Int) {parent : Option Nat} :
    ∀ (item : Item) (first line : Nat), item.WellFormed →
      (∀ p, parent = some p → p < first) →
      (∀ p, first ≤ p → p < first + item.size →
        children p = inside first (item.placements parent first line) (some p)) →
      nodesOfPlaced children first (item.placements parent first line) =
        item.nodes (parent.map Int.ofNat) first line
  | .property w, first, line, hwf, hparent, hchildren => by
      obtain ⟨-, hbegin, -⟩ := hwf
      have hkind : w.token.name ≠ beginName := hbegin
      simp only [placements, nodesOfPlaced, List.zipIdx_cons, List.zipIdx_nil, List.map_cons,
        List.map_nil, nodes, Nesting.nodeOf, if_neg hkind]
      rfl
  | .block ps value items, first, line, hwf, hparent, hchildren => by
      have hne : parent ≠ some first := fun h => Nat.lt_irrefl first (hparent first h)
      have hself : ∀ p, some first = some p → p < first + 1 := by
        rintro p ⟨⟩
        exact Nat.lt_succ_self first
      -- the children of the block itself are the items of its forest
      have hfirst : children first = forestRoots (first + 1) items := by
        rw [hchildren first (Nat.le_refl first) (by rw [size]; omega), placements, inside_cons,
          if_neg hne, inside_forestPlacements_self hself]
      have hforest := nodesOfPlaced_forestPlacements children items (first + 1)
        (line + 1) hwf.2 hself (by
          intro p hp hlt
          have hother : parent ≠ some p := by
            intro h
            have := hparent p h
            omega
          rw [hchildren p (by omega) (by rw [size]; omega), placements, inside_cons,
            if_neg hother])
      rw [placements, nodesOfPlaced_cons, hforest, hfirst]
      rfl
theorem nodesOfPlaced_forestPlacements (children : Nat → List Int) {parent : Option Nat} :
    ∀ (items : List Item) (first line : Nat), ForestWellFormed items →
      (∀ p, parent = some p → p < first) →
      (∀ p, first ≤ p → p < first + forestSize items →
        children p = inside first (forestPlacements parent first line items) (some p)) →
      nodesOfPlaced children first (forestPlacements parent first line items) =
        forestNodes (parent.map Int.ofNat) first line items
  | [], _, _, _, _, _ => rfl
  | item :: rest, first, line, hwf, hparent, hchildren => by
      obtain ⟨hitem, hrest⟩ := hwf
      have hother : ∀ p, first ≤ p → some p ≠ parent := by
        rintro p hp rfl
        exact Nat.not_lt_of_le hp (hparent p rfl)
      have hsplit : ∀ p, first ≤ p → p < first + (item.size + forestSize rest) →
          children p = inside first (item.placements parent first line) (some p) ++
            inside (first + item.size) (forestPlacements parent (first + item.size)
              (line + item.lines.length) rest) (some p) := by
        intro p hp hlt
        rw [hchildren p hp (by rwa [forestSize]), forestPlacements, inside_append,
          length_placements]
      rw [forestPlacements, nodesOfPlaced_append, length_placements, forestNodes,
        nodesOfPlaced_placements children item first line hitem hparent,
        nodesOfPlaced_forestPlacements children rest (first + item.size)
          (line + item.lines.length) hrest]
      · intro p hp
        exact Nat.lt_of_lt_of_le (hparent p hp) (Nat.le_add_right first item.size)
      · -- nothing of the first item lies in the blocks of the others
        intro p hp hlt
        rw [hsplit p (by omega) (by omega), inside_placements_outside (hother p (by omega))]
        · rfl
        · rintro q ⟨⟩
          exact Or.inr hp
      · -- nothing of the others lies in the blocks of the first item
        intro p hp hlt
        rw [hsplit p hp (by omega), inside_forestPlacements_outside (hother p hp),
          List.append_nil]
        rintro q ⟨⟩
        exact Or.inl hlt
end

theorem placed_extend_forest (items : List Item) :
    (extend {} (forestPlacements none 0 1 items)).placed.toList =
      forestPlacements none 0 1 items := by
  simp [extend]

/-- What lies in a block of a nesting is what lies in it among the tokens. -/
theorem within_extend_forest (items : List Item) (parent : Option Nat) :
    ((extend {} (forestPlacements none 0 1 items)).within parent).map Int.ofNat =
      inside 0 (forestPlacements none 0 1 items) parent := by
  rw [Nesting.within, placed_extend_forest, inside, List.map_filterMap]
  congr 1
  funext entry
  show (if entry.1.parent = parent then some entry.2 else none).map Int.ofNat =
    if entry.1.parent = parent then some (entry.2 : Int) else none
  split <;> rfl

/-- A nesting of the placed tokens of a forest has the nodes of the forest. -/
theorem nodes_extend_forest {items : List Item} (h : ForestWellFormed items) :
    (extend {} (forestPlacements none 0 1 items)).nodes.toList = forestNodes none 0 1 items := by
  rw [Nesting.nodes, Array.toList_mapIdx, List.mapIdx_eq_zipIdx_map, placed_extend_forest]
  exact nodesOfPlaced_forestPlacements _ items 0 1 h (by simp)
    fun p _ _ => within_extend_forest items (some p)

theorem roots_extend_forest (items : List Item) :
    (extend {} (forestPlacements none 0 1 items)).roots = forestRoots 0 items := by
  rw [Nesting.roots, within_extend_forest]
  exact inside_forestPlacements_self (by simp) items 1

end Item

end VCalendar
