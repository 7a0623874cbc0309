import VCalendar.Proofs.Nesting.Steps

/-!
# Coherent nestings

What holds of a nesting after every step, in either mode and for unbalanced text
too: the open blocks are a chain of placed BEGIN tokens, each lying in the next
one, a parent is a BEGIN token placed earlier, and what is placed behind a block
that is still open lies inside it. The last fact makes the placed tokens a
pre-order: once something outside a block is placed, nothing more goes into it.
-/

namespace VCalendar.Nesting

/-! ## The invariant -/

/-- The placed token that an open block refers to, and where that token lies. -/
structure Opens (placed : Array Placed) (b : OpenBlock) (outer : List OpenBlock)
    (x : Placed) : Prop where
  placed : placed[b.position]? = some x
  name : x.token.name = beginName
  value : x.token.value = b.opening.name
  line : x.line = b.opening.line
  parent : x.parent = outer.head?.map (·.position)

/-- Open blocks, innermost first, are placed tokens that lie in one another. -/
def Chain (placed : Array Placed) : List OpenBlock → Prop
  | [] => True
  | b :: outer => (∃ x, Opens placed b outer x) ∧ Chain placed outer

structure Coherent (n : Nesting) : Prop where
  chain : Chain n.placed n.opened
  /-- A parent was placed earlier. -/
  parent_lt : ∀ {i p : Nat} {x : Placed},
    n.placed[i]? = some x → x.parent = some p → p < i
  /-- A parent is a block. -/
  parent_begin : ∀ {i p : Nat} {x : Placed},
    n.placed[i]? = some x → x.parent = some p →
      ∃ y, n.placed[p]? = some y ∧ y.token.name = beginName
  /-- What lies between a block and something inside it is inside it, too. -/
  enclosed : ∀ {i j k : Nat} {x y : Placed},
    n.placed[k]? = some y → y.parent = some i → i < j → j < k →
      n.placed[j]? = some x → ∃ p, x.parent = some p ∧ i ≤ p
  /-- What lies behind an open block is inside it. -/
  open_enclosed : ∀ {b : OpenBlock} {j : Nat} {x : Placed},
    b ∈ n.opened → b.position < j → n.placed[j]? = some x →
      ∃ p, x.parent = some p ∧ b.position ≤ p

variable {n : Nesting} {placed : Array Placed} {opened : List OpenBlock}

theorem coherent_empty : Coherent {} where
  chain := trivial
  parent_lt h := by simp at h
  parent_begin h := by simp at h
  enclosed h := by simp at h
  open_enclosed h := by simp at h

/-! ## Placing a token -/

theorem getElem?_push_of_some {i : Nat} {x y : Placed} (h : placed[i]? = some x) :
    (placed.push y)[i]? = some x := by
  obtain ⟨hi, -⟩ := Array.getElem?_eq_some_iff.mp h
  rw [Array.getElem?_push, if_neg (Nat.ne_of_lt hi)]
  exact h

theorem Chain.push (h : Chain placed opened) (y : Placed) : Chain (placed.push y) opened := by
  induction opened with
  | nil => trivial
  | cons b outer ih =>
      obtain ⟨⟨x, hx⟩, houter⟩ := h
      exact ⟨⟨x, { hx with placed := getElem?_push_of_some hx.placed }⟩, ih houter⟩

theorem Chain.position_lt_size (h : Chain placed opened) {b : OpenBlock} (hb : b ∈ opened) :
    b.position < placed.size := by
  induction opened with
  | nil => cases hb
  | cons b' outer ih =>
      obtain ⟨⟨x, hx⟩, houter⟩ := h
      rcases List.mem_cons.mp hb with rfl | hb
      · exact (Array.getElem?_eq_some_iff.mp hx.placed).1
      · exact ih houter hb

theorem Chain.tail (h : Chain placed opened) : Chain placed opened.tail := by
  cases opened with
  | nil => trivial
  | cons b outer => exact h.2

/-- The innermost open block was opened last. -/
theorem Coherent.position_le_head (h : n.Coherent) {b head : OpenBlock}
    (hb : b ∈ n.opened) (hhead : n.opened.head? = some head) : b.position ≤ head.position := by
  -- by induction on the chain: each block lies in the next one and was placed behind it
  have aux : ∀ opened : List OpenBlock, Chain n.placed opened → b ∈ opened →
      ∀ head, opened.head? = some head → b.position ≤ head.position := by
    intro opened
    induction opened with
    | nil =>
        intro _ hb
        cases hb
    | cons b' outer ih =>
        rintro ⟨⟨x, hx⟩, houter⟩ hb head hhead
        cases hhead
        rcases List.mem_cons.mp hb with rfl | hb
        · exact Nat.le_refl _
        · cases outer with
          | nil => cases hb
          | cons next outer =>
              have hnext : b.position ≤ next.position := ih houter hb next rfl
              exact Nat.le_of_lt (Nat.lt_of_le_of_lt hnext (h.parent_lt hx.placed hx.parent))
  exact aux n.opened h.chain hb head hhead

/-- A token that is placed lies in the innermost open block. -/
theorem getElem?_place {i : Nat} {x : Placed} {token : Token} {line : Nat}
    (h : (n.place token line).placed[i]? = some x) :
    n.placed[i]? = some x ∨
      i = n.placed.size ∧ x = ⟨token, n.opened.head?.map (·.position), line⟩ := by
  change (n.placed.push _)[i]? = some x at h
  rw [Array.getElem?_push] at h
  split at h
  · rename_i hi
    cases h
    exact Or.inr ⟨hi, rfl⟩
  · exact Or.inl h

/-- A block that is open behind a token was open before or is opened by the token. -/
theorem mem_opened_place {b : OpenBlock} {token : Token} {line : Nat}
    (h : b ∈ (n.place token line).opened) : b ∈ n.opened ∨ b.position = n.placed.size := by
  change b ∈ (if token.name = beginName then _ else _) at h
  split at h
  · rcases List.mem_cons.mp h with rfl | h
    · exact Or.inr rfl
    · exact Or.inl h
  · exact Or.inl h

theorem Coherent.place (h : n.Coherent) (token : Token) (line : Nat) :
    (n.place token line).Coherent := by
  have hinnermost : ∀ {p}, n.opened.head?.map (·.position) = some p →
      ∃ b, n.opened.head? = some b ∧ b ∈ n.opened ∧ b.position = p := by
    intro p hp
    obtain ⟨b, hb, rfl⟩ := Option.map_eq_some_iff.mp hp
    exact ⟨b, hb, List.mem_of_mem_head? hb, rfl⟩
  have hlt : ∀ {i x}, n.placed[i]? = some x → i < n.placed.size :=
    fun hi => (Array.getElem?_eq_some_iff.mp hi).1
  refine ⟨?_, ?_, ?_, ?_, ?_⟩
  · -- only a BEGIN token becomes an open block
    change Chain (n.placed.push _) (if token.name = beginName then _ else _)
    split
    · rename_i hbegin
      exact ⟨⟨_, Array.getElem?_push_size, hbegin, rfl, rfl, rfl⟩, h.chain.push _⟩
    · exact h.chain.push _
  · -- the innermost open block has been placed before
    intro i p x hx hp
    rcases getElem?_place hx with hx | ⟨rfl, rfl⟩
    · exact h.parent_lt hx hp
    · obtain ⟨b, -, hb, rfl⟩ := hinnermost hp
      exact h.chain.position_lt_size hb
  · intro i p x hx hp
    rcases getElem?_place hx with hx | ⟨rfl, rfl⟩
    · obtain ⟨y, hy, hbegin⟩ := h.parent_begin hx hp
      exact ⟨y, getElem?_push_of_some hy, hbegin⟩
    · obtain ⟨b, hhead, -, rfl⟩ := hinnermost hp
      obtain ⟨outer, houter⟩ := List.head?_eq_some_iff.mp hhead
      have hchain := h.chain
      rw [houter] at hchain
      obtain ⟨⟨y, hy⟩, -⟩ := hchain
      exact ⟨y, getElem?_push_of_some hy.placed, hy.name⟩
  · -- between the innermost open block and the new token there is only what is inside
    intro i j k x y hy hi hij hjk hx
    rcases getElem?_place hy with hy | ⟨rfl, rfl⟩
    · have hjlt := Nat.lt_trans hjk (hlt hy)
      rcases getElem?_place hx with hx | ⟨rfl, -⟩
      · exact h.enclosed hy hi hij hjk hx
      · exact absurd hjlt (Nat.lt_irrefl _)
    · obtain ⟨b, -, hb, rfl⟩ := hinnermost hi
      rcases getElem?_place hx with hx | ⟨rfl, -⟩
      · exact h.open_enclosed hb hij hx
      · exact absurd hjk (Nat.lt_irrefl _)
  · -- the new token lies in the innermost open block, and that one in all the others
    intro b j x hb hj hx
    rcases mem_opened_place hb with hb | hb
    · rcases getElem?_place hx with hx | ⟨rfl, rfl⟩
      · exact h.open_enclosed hb hj hx
      · cases hhead : n.opened.head? with
        | none =>
            rw [List.head?_eq_none_iff.mp hhead] at hb
            cases hb
        | some head => exact ⟨head.position, rfl, h.position_le_head hb hhead⟩
    · rcases getElem?_place hx with hx | ⟨rfl, -⟩
      · have := hlt hx
        omega
      · omega

/-! ## Every run -/

theorem Coherent.close (h : n.Coherent) : Coherent { n with opened := n.opened.tail } where
  chain := h.chain.tail
  parent_lt := h.parent_lt
  parent_begin := h.parent_begin
  enclosed := h.enclosed
  open_enclosed hb := h.open_enclosed (List.mem_of_mem_tail hb)

theorem Coherent.accept (h : n.Coherent) (t : NumberedToken) : (n.accept t).Coherent := by
  by_cases hend : t.token.name = endName
  · rw [accept_end hend]
    exact h.close
  · rw [accept_place hend]
    exact h.place t.token t.line

/-- **Coherence of every run.** -/
theorem coherent_acceptAll (ts : List NumberedToken) : (acceptAll {} ts).Coherent :=
  acceptAll_induction coherent_empty fun _ h t _ => h.accept t

end VCalendar.Nesting
