import VCalendar.Document.Basic

/-!
# Walking a document

A document is walked depth first: a block is visited before its children, which
lie one level deeper.  The walk keeps the positions still to visit on a stack and
can be stopped after any number of visits, so it also serves documents in which a
block contains itself.
-/

namespace VCalendar

/-- A visit to a node at a depth. -/
structure Visit where
  depth : Nat
  node : Node
deriving DecidableEq, Repr

namespace Document

/-- The positions still to visit with their depths, next one first. -/
abbrev Agenda := List (Nat × Int)

/-- Positions to be visited at one depth. -/
def agendaAt (depth : Nat) (positions : List Int) : Agenda :=
  positions.map (depth, ·)

/-- At most so many visits from an agenda. -/
def visits (d : Document) : Nat → Agenda → Except NavigationError (List Visit)
  | 0, _ => .ok []
  | _ + 1, [] => .ok []
  | count + 1, (depth, position) :: agenda =>
    match d.node position with
    | .error e => .error e
    | .ok n =>
      (d.visits count (agendaAt (depth + 1) n.children ++ agenda)).map (⟨depth, n⟩ :: ·)

/-- The first visits of the walk. -/
def walkTake (d : Document) (count : Nat) : Except NavigationError (List Visit) :=
  d.visits count (agendaAt 0 d.root)

/-- The number of positions that the root and the blocks name. -/
def links (d : Document) : Nat :=
  d.root.length + (d.nodes.toList.flatMap Node.children).length

/-- More than the number of visits of any document in which no block contains
itself: no path is longer than the arena, and no step has more choices than there
are links. -/
def visitBound (d : Document) : Nat :=
  Nat.pow (d.links + 2) (d.nodes.size + 1)

/-- The whole walk.  Most documents name each node once, so it is first tried with as
many visits as there are nodes; that it is at an end shows in one that was not used. -/
def walk (d : Document) : Except NavigationError (List Visit) :=
  match d.walkTake (d.nodes.size + 1) with
  | .error e => .error e
  | .ok visits => if visits.length ≤ d.nodes.size then .ok visits else d.walkTake d.visitBound

/-! ## More visits than needed change nothing -/

theorem visits_of_length_lt {d : Document} {count more : Nat} {agenda : Agenda}
    {visits : List Visit} (h : d.visits count agenda = .ok visits)
    (unused : visits.length < count) (enough : count ≤ more) :
    d.visits more agenda = .ok visits := by
  induction count generalizing more agenda visits with
  | zero => simp at unused
  | succ count ih =>
    obtain ⟨more, rfl⟩ : ∃ m, more = m + 1 := ⟨more - 1, by omega⟩
    match agenda with
    | [] => exact h
    | (depth, position) :: agenda =>
      simp only [Document.visits] at h ⊢
      split at h
      · cases h
      · next n _ =>
        cases hrest : d.visits count (agendaAt (depth + 1) n.children ++ agenda) with
        | error e => rw [hrest] at h; cases h
        | ok rest =>
          rw [hrest] at h
          cases h
          rw [ih hrest (Nat.lt_of_succ_lt_succ unused) (by omega)]
          rfl

theorem visits_of_error {d : Document} {count more : Nat} {agenda : Agenda}
    {e : NavigationError} (h : d.visits count agenda = .error e) (enough : count ≤ more) :
    d.visits more agenda = .error e := by
  induction count generalizing more agenda with
  | zero => cases h
  | succ count ih =>
    obtain ⟨more, rfl⟩ : ∃ m, more = m + 1 := ⟨more - 1, by omega⟩
    match agenda with
    | [] => cases h
    | (depth, position) :: agenda =>
      simp only [Document.visits] at h ⊢
      split at h
      · exact h
      · next n _ =>
        cases hrest : d.visits count (agendaAt (depth + 1) n.children ++ agenda) with
        | ok rest => rw [hrest] at h; cases h
        | error e' =>
          rw [hrest] at h
          cases h
          rw [ih hrest (by omega)]
          rfl

theorem nodes_size_lt_visitBound (d : Document) : d.nodes.size + 1 ≤ d.visitBound :=
  Nat.le_trans (Nat.le_of_lt Nat.lt_two_pow_self) (Nat.pow_le_pow_left (by omega) _)

/-- The whole walk is as many visits as any document needs. -/
theorem walk_eq_walkTake (d : Document) : d.walk = d.walkTake d.visitBound := by
  rw [walk]
  split
  next e h => exact (visits_of_error h d.nodes_size_lt_visitBound).symm
  next visits h =>
    split
    next short => exact (visits_of_length_lt h (by omega) d.nodes_size_lt_visitBound).symm
    next => rfl

end Document

end VCalendar
