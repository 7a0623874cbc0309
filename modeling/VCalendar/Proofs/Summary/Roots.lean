import VCalendar.Proofs.Document.Preorder
import VCalendar.Proofs.Nesting.Lenient
import VCalendar.Proofs.Summary.Reading

/-!
# Root-level lines

A summary looks at the lines that lie in no block, and of these at the name, the
parameters, the value and the number only. Main statement: what lenient reading makes of
a text depends on the lines where the counter of open blocks stands at zero.
-/

namespace VCalendar

/-! ## The counter -/

/-- The counter behind some tokens. -/
def depthAfter (depth : Nat) : List NumberedToken → Nat
  | [] => depth
  | t :: ts =>
    depthAfter
      (if t.token.name = endName then depth - 1
      else if t.token.name = beginName then depth + 1
      else depth) ts

theorem depthAfter_append (depth : Nat) (ts ts' : List NumberedToken) :
    depthAfter depth (ts ++ ts') = depthAfter (depthAfter depth ts) ts' := by
  induction ts generalizing depth with
  | nil => rfl
  | cons t ts ih => exact ih _

theorem entries_append (depth : Nat) (ts ts' : List NumberedToken) :
    entries depth (ts ++ ts') = entries depth ts ++ entries (depthAfter depth ts) ts' := by
  induction ts generalizing depth with
  | nil => rfl
  | cons t ts ih =>
      rw [List.cons_append, entries, entries, depthAfter]
      by_cases hend : t.token.name = endName
      · rw [if_pos hend, if_pos hend, if_pos hend]
        exact ih _
      · rw [if_neg hend, if_neg hend, if_neg hend, ih, List.cons_append]

/-- The tokens that lie in no block. -/
def rootTokens (depth : Nat) (ts : List NumberedToken) : List NumberedToken :=
  ((entries depth ts).filter (·.depth = 0)).map Entry.numbered

theorem rootTokens_append (depth : Nat) (ts ts' : List NumberedToken) :
    rootTokens depth (ts ++ ts') = rootTokens depth ts ++ rootTokens (depthAfter depth ts) ts' := by
  rw [rootTokens, entries_append, List.filter_append, List.map_append]
  rfl

/-! ## Root-level tokens of a nesting -/

namespace Nesting

/-- The placed tokens that lie in no block. -/
def rootPlaced (n : Nesting) : List NumberedToken :=
  (n.placed.toList.filter (·.parent.isNone)).map Placed.numbered

theorem length_opened_acceptAll (n : Nesting) (ts : List NumberedToken) :
    (n.acceptAll ts).opened.length = depthAfter n.opened.length ts := by
  induction ts generalizing n with
  | nil => rfl
  | cons t ts ih =>
      rw [acceptAll_cons, ih, depthAfter]
      congr 1
      by_cases hend : t.token.name = endName
      · rw [accept_end hend, if_pos hend, List.length_tail]
      · rw [accept_place hend, if_neg hend]
        simp only [place]
        split <;> rfl

theorem rootPlaced_acceptAll (n : Nesting) (ts : List NumberedToken) :
    (n.acceptAll ts).rootPlaced = n.rootPlaced ++ rootTokens n.opened.length ts := by
  induction ts generalizing n with
  | nil => simp [rootTokens, entries]
  | cons t ts ih =>
      rw [acceptAll_cons, ih, rootTokens, rootTokens, entries]
      by_cases hend : t.token.name = endName
      · rw [accept_end hend, if_pos hend, List.length_tail]
        rfl
      · -- a token lies in no block if none is open
        have hopened : (n.place t.token t.line).opened.length =
            if t.token.name = beginName then n.opened.length + 1 else n.opened.length := by
          simp only [place]
          split <;> rfl
        have hplaced : (n.place t.token t.line).rootPlaced =
            n.rootPlaced ++ if n.opened.length = 0 then [t] else [] := by
          cases hcase : n.opened with
          | nil => simp [rootPlaced, place, hcase, Placed.numbered]
          | cons b outer => simp [rootPlaced, place, hcase]
        rw [accept_place hend, if_neg hend, hopened, hplaced, List.append_assoc]
        by_cases hroot : n.opened.length = 0
        · simp [hroot, Entry.numbered]
        · simp [hroot]

end Nesting

/-! ## What a summary looks at -/

/-- A token as a node, as far as a summary looks at it. -/
def NumberedToken.node (t : NumberedToken) : Node where
  id := 0
  kind := .property
  name := t.token.name
  parameters := t.token.parameters
  value := t.token.value
  lineNumber := t.line

/-- A node as far as a summary looks at it. -/
def Node.bare (n : Node) : Node where
  id := 0
  kind := .property
  name := n.name
  parameters := n.parameters
  value := n.value
  lineNumber := n.lineNumber

theorem Summary.addAll_bare (zones : Zones) (s : Summary) (ns : List Node) :
    s.addAll zones (ns.map Node.bare) = s.addAll zones ns := by
  induction ns generalizing s with
  | nil => rfl
  | cons n ns ih =>
      have hadd : s.add zones n.bare = s.add zones n := rfl
      simp only [List.map_cons, addAll, hadd, ih]

theorem Nesting.bare_rootNodes (n : Nesting) :
    n.rootNodes.map Node.bare = n.rootPlaced.map NumberedToken.node := by
  -- the position of a placed token leads to its node
  have hnode : ∀ entry ∈ n.placed.toList.zipIdx,
      (if entry.1.parent = none then some entry.2 else none).bind
          ((fun i : Int => n.nodes[i.toNat]?.map Node.bare) ∘ Int.ofNat) =
        if entry.1.parent.isNone then some entry.1.numbered.node else none := by
    rintro ⟨p, position⟩ hentry
    have hp : n.placed[position]? = some p := by
      rw [← Array.getElem?_toList]
      exact List.mem_zipIdx_iff_getElem?.mp hentry
    by_cases hroot : p.parent = none
    · rw [if_pos hroot, if_pos (Option.isNone_iff_eq_none.mpr hroot), Option.bind_some,
        Function.comp_apply, Int.ofNat_eq_natCast, Int.toNat_natCast, getElem?_nodes, hp]
      rfl
    · rw [if_neg hroot, if_neg (mt Option.isNone_iff_eq_none.mp hroot)]
      rfl
  calc n.rootNodes.map Node.bare
      = n.placed.toList.zipIdx.filterMap fun entry =>
          if entry.1.parent.isNone then some entry.1.numbered.node else none := by
        rw [rootNodes, roots, within, List.map_filterMap, List.filterMap_map,
          List.filterMap_filterMap]
        exact List.filterMap_congr hnode
    _ = n.placed.toList.filterMap fun p =>
          if p.parent.isNone then some p.numbered.node else none := by
        conv_rhs => rw [← List.zipIdx_map_fst 0 n.placed.toList, List.filterMap_map]
        rfl
    _ = n.rootPlaced.map NumberedToken.node := by
        rw [rootPlaced, List.map_map, ← List.filterMap_eq_map, List.filterMap_filter]
        rfl

theorem Summary.addAll_rootNodes (zones : Zones) (ts : List NumberedToken) :
    addAll zones {} (Nesting.acceptAll {} ts).rootNodes =
      addAll zones {} ((rootTokens 0 ts).map NumberedToken.node) := by
  rw [← addAll_bare, Nesting.bare_rootNodes, Nesting.rootPlaced_acceptAll]
  rfl

/-! ## Lenient reading -/

/-- What lenient reading makes of numbered lines. -/
def summarize (zones : Zones) (lines : List (String × Nat)) : Except ReadError Summary := do
  let ts ← (tokenizeAll lines).mapError .malformed
  (Summary.addAll zones {} ((rootTokens 0 ts).map NumberedToken.node)).outcome

theorem Reader.summary_of_lenient_read {r : Reader} {content : Content}
    (hmode : r.settings.strictBlocks = false)
    (hfits : content.Fits r.settings.maxContentBytes) :
    (r.read content).outcome.map (·.summary) =
      summarize r.zones (content.lines.zipIdx 1) := by
  rw [outcome_read_of_fits hfits, hmode, outcome_nest_lenient, summarize]
  cases tokenizeAll (content.lines.zipIdx 1) with
  | error m => rfl
  | ok ts =>
      show (documentOf r.zones (Nesting.acceptAll {} ts)).outcome.map _ =
        (Summary.addAll r.zones {} _).outcome
      rw [outcome_documentOf, Summary.addAll_rootNodes]
      cases (Summary.addAll r.zones {} ((rootTokens 0 ts).map NumberedToken.node)).outcome <;> rfl

end VCalendar
