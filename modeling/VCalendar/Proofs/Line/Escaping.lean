import Mathlib.Algebra.Group.Nat.Even
import Mathlib.Data.List.TakeWhile
import Mathlib.Order.Bounds.Basic
import VCalendar.Proofs.Line.Grammar

/-!
# Which characters are escaped

A scan takes two characters at a time where it meets a backslash. What it takes for an
escaped character can be told by looking back instead: there is an odd number of
backslashes right before it. Main statement: the scan finds the first stop with an even
number of backslashes before it, counted from the position where the scan began.
-/

namespace VCalendar.Line

variable {stops cs : List Char} {c : Char} {start i j : Nat}

/-! ## Backslashes at the end of a text -/

/-- How many backslashes a text ends in. -/
def finalBackslashes (cs : List Char) : Nat :=
  (cs.reverse.takeWhile (· = '\\')).length

theorem finalBackslashes_append_of_all (h : ∀ d ∈ cs, d = '\\') (front : List Char) :
    finalBackslashes (front ++ cs) = finalBackslashes front + cs.length := by
  unfold finalBackslashes
  rw [List.reverse_append, List.takeWhile_append_of_pos (by simpa using h), List.length_append,
    List.length_reverse, Nat.add_comm]

theorem finalBackslashes_append_of_not_all (h : ¬ ∀ d ∈ cs, d = '\\') (front : List Char) :
    finalBackslashes (front ++ cs) = finalBackslashes cs := by
  unfold finalBackslashes
  rw [List.reverse_append, List.takeWhile_append, if_neg]
  intro hlength
  have hself := (List.takeWhile_prefix (· = '\\')).eq_of_length hlength
  exact h (by simpa using List.takeWhile_eq_self_iff.mp hself)

/-- A character that is no backslash changes nothing for what stands behind it. -/
theorem finalBackslashes_plain (hne : c ≠ '\\') (cs : List Char) :
    finalBackslashes (c :: cs) = finalBackslashes cs := by
  rw [← List.singleton_append]
  by_cases hall : ∀ d ∈ cs, d = '\\'
  · have hcs := finalBackslashes_append_of_all hall []
    rw [finalBackslashes_append_of_all hall, ← List.nil_append cs, hcs]
    simp [finalBackslashes, hne]
  · exact finalBackslashes_append_of_not_all hall [c]

/-- Nor does a pair that begins with a backslash, up to parity: both of its characters or
none of them belong to a run behind it. -/
theorem even_finalBackslashes_pair (c : Char) (cs : List Char) :
    Even (finalBackslashes ('\\' :: c :: cs)) ↔ Even (finalBackslashes cs) := by
  have hsplit : '\\' :: c :: cs = ['\\', c] ++ cs := rfl
  rw [hsplit]
  by_cases hall : ∀ d ∈ cs, d = '\\'
  · have hcs := finalBackslashes_append_of_all hall []
    have hpair : Even (finalBackslashes ['\\', c]) := by
      by_cases hc : c = '\\'
      · rw [hc]
        decide
      · have hlast : finalBackslashes ['\\', c] = 0 := by simp [finalBackslashes, hc]
        rw [hlast]
        exact Even.zero
    have hnone : finalBackslashes [] = 0 := rfl
    rw [List.nil_append, hnone, Nat.zero_add] at hcs
    rw [finalBackslashes_append_of_all hall, Nat.even_add, hcs]
    exact iff_true_left hpair
  · rw [finalBackslashes_append_of_not_all hall]

/-! ## Stops that are not escaped -/

/-- A stop at a position that no odd number of backslashes stands right before. -/
structure IsStop (stops cs : List Char) (i : Nat) : Prop where
  mem : ∃ c ∈ stops, cs[i]? = some c
  even : Even (finalBackslashes (cs.take i))

theorem not_isStop_nil : ¬ IsStop stops [] i := by
  rintro ⟨⟨c, _, hc⟩, _⟩
  simp at hc

theorem isStop_zero : IsStop stops (c :: cs) 0 ↔ c ∈ stops := by
  constructor
  · rintro ⟨⟨d, hd, hc⟩, -⟩
    simp only [List.getElem?_cons_zero, Option.some.injEq] at hc
    exact hc ▸ hd
  · intro hc
    exact ⟨⟨c, hc, rfl⟩, by simp [finalBackslashes]⟩

theorem isStop_plain_succ (hne : c ≠ '\\') :
    IsStop stops (c :: cs) (i + 1) ↔ IsStop stops cs i := by
  constructor
  · rintro ⟨hmem, heven⟩
    rw [List.take_succ_cons, finalBackslashes_plain hne] at heven
    exact ⟨hmem, heven⟩
  · rintro ⟨hmem, heven⟩
    refine ⟨hmem, ?_⟩
    rwa [List.take_succ_cons, finalBackslashes_plain hne]

/-- The character behind a backslash is no stop, nor is the backslash. -/
theorem not_isStop_escaped (hstops : '\\' ∉ stops) (hi : i < 2) :
    ¬ IsStop stops ('\\' :: cs) i := by
  intro h
  match i, hi with
  | 0, _ => exact hstops (isStop_zero.mp h)
  | 1, _ =>
      have hodd : ¬ Even (finalBackslashes ['\\']) := by decide
      exact hodd h.even

theorem isStop_pair : IsStop stops ('\\' :: c :: cs) (i + 2) ↔ IsStop stops cs i := by
  constructor
  · rintro ⟨hmem, heven⟩
    rw [List.take_succ_cons, List.take_succ_cons, even_finalBackslashes_pair] at heven
    exact ⟨hmem, heven⟩
  · rintro ⟨hmem, heven⟩
    refine ⟨hmem, ?_⟩
    rwa [List.take_succ_cons, List.take_succ_cons, even_finalBackslashes_pair]

/-! ## The first stop -/

theorem isLeast_of_scanTo (hstops : '\\' ∉ stops) {segment after : List Char} {stop : Char}
    (h : scanTo stops cs = some (segment, stop, after)) :
    IsLeast {i | IsStop stops cs i} segment.length := by
  fun_induction scanTo stops cs generalizing segment stop after with
  | case1 => cases h
  | case2 => cases h
  | case3 c rest ih =>
      obtain ⟨⟨s, d, a⟩, hfound, hsame⟩ := Option.map_eq_some_iff.mp h
      cases hsame
      obtain ⟨hstop, hleast⟩ := ih hfound
      refine ⟨isStop_pair.mpr hstop, fun i hi => ?_⟩
      -- neither the backslash nor what it escapes is a stop
      rcases Nat.lt_or_ge i 2 with hlt | hge
      · exact absurd hi (not_isStop_escaped hstops hlt)
      · obtain ⟨j, rfl⟩ := Nat.exists_eq_add_of_le' hge
        exact Nat.add_le_add_right (hleast (isStop_pair.mp hi)) 2
  | case4 c rest _ _ hstop =>
      cases h
      exact ⟨isStop_zero.mpr (by simpa using hstop), fun i _ => Nat.zero_le i⟩
  | case5 c rest hdangling hescape hplain ih =>
      obtain ⟨⟨s, d, a⟩, hfound, hsame⟩ := Option.map_eq_some_iff.mp h
      cases hsame
      obtain ⟨hstop, hleast⟩ := ih hfound
      have hne : c ≠ '\\' := ne_backslash_of_unpaired hdangling hescape
      refine ⟨(isStop_plain_succ hne).mpr hstop, fun i hi => ?_⟩
      cases i with
      | zero => exact absurd (isStop_zero.mp hi) (by simpa using hplain)
      | succ i => exact Nat.succ_le_succ (hleast ((isStop_plain_succ hne).mp hi))

theorem not_isStop_of_scanTo (hstops : '\\' ∉ stops) (h : scanTo stops cs = none) :
    ¬ IsStop stops cs i := by
  fun_induction scanTo stops cs generalizing i with
  | case1 => exact not_isStop_nil
  | case2 =>
      intro hi
      rcases Nat.lt_or_ge i 2 with hlt | hge
      · exact not_isStop_escaped hstops hlt hi
      · obtain ⟨c, _, hc⟩ := hi.mem
        rw [List.getElem?_eq_none (Nat.le_of_succ_le hge)] at hc
        cases hc
  | case3 c rest ih =>
      intro hi
      rcases Nat.lt_or_ge i 2 with hlt | hge
      · exact not_isStop_escaped hstops hlt hi
      · obtain ⟨j, rfl⟩ := Nat.exists_eq_add_of_le' hge
        exact ih (Option.map_eq_none_iff.mp h) (isStop_pair.mp hi)
  | case4 => cases h
  | case5 c rest hdangling hescape hplain ih =>
      have hne : c ≠ '\\' := ne_backslash_of_unpaired hdangling hescape
      intro hi
      cases i with
      | zero => exact absurd (isStop_zero.mp hi) (by simpa using hplain)
      | succ i => exact ih (Option.map_eq_none_iff.mp h) ((isStop_plain_succ hne).mp hi)

/-! ## Searching from a position on -/

/-- A stop at or behind `start` that no odd number of backslashes stands right before; a
run of backslashes reaches back to `start` at most. -/
structure IsStopFrom (stops cs : List Char) (start i : Nat) : Prop where
  start_le : start ≤ i
  mem : ∃ c ∈ stops, cs[i]? = some c
  even : Even (finalBackslashes ((cs.take i).drop start))

theorem isStopFrom_add_iff :
    IsStopFrom stops cs start (start + j) ↔ IsStop stops (cs.drop start) j := by
  have hchar : (cs.drop start)[j]? = cs[start + j]? := List.getElem?_drop
  have hfront : (cs.drop start).take j = (cs.take (start + j)).drop start := List.take_drop
  constructor
  · rintro ⟨-, hmem, heven⟩
    exact ⟨hchar ▸ hmem, hfront ▸ heven⟩
  · rintro ⟨hmem, heven⟩
    exact ⟨Nat.le_add_right start j, hchar ▸ hmem, hfront ▸ heven⟩

theorem IsStopFrom.exists_add (h : IsStopFrom stops cs start i) :
    ∃ j, i = start + j ∧ IsStop stops (cs.drop start) j := by
  obtain ⟨j, rfl⟩ := Nat.exists_eq_add_of_le h.start_le
  exact ⟨j, rfl, isStopFrom_add_iff.mp h⟩

theorem isLeast_of_findUnescaped (hstops : '\\' ∉ stops)
    (h : findUnescaped cs start stops = some i) : IsLeast {i | IsStopFrom stops cs start i} i := by
  obtain ⟨⟨segment, stop, after⟩, hscan, rfl⟩ := Option.map_eq_some_iff.mp h
  obtain ⟨hstop, hleast⟩ := isLeast_of_scanTo hstops hscan
  refine ⟨isStopFrom_add_iff.mpr hstop, fun i hi => ?_⟩
  obtain ⟨j, rfl, hj⟩ := hi.exists_add
  exact Nat.add_le_add_left (hleast hj) start

theorem not_isStopFrom_of_findUnescaped (hstops : '\\' ∉ stops)
    (h : findUnescaped cs start stops = none) : ¬ IsStopFrom stops cs start i := by
  intro hi
  obtain ⟨j, -, hj⟩ := hi.exists_add
  exact not_isStop_of_scanTo hstops (Option.map_eq_none_iff.mp h) hj

/-! ## Searching position by position -/

/-- A look at a position that lies outside a line. -/
structure Overrun where
  position : Nat
deriving DecidableEq, Repr

/-- The character at a position. -/
def lookAt (cs : List Char) (i : Nat) : Except Overrun Char :=
  match cs[i]? with
  | some c => .ok c
  | none => .error ⟨i⟩

/-- Searches for a stop by moving a position along the line: two characters on from a
backslash, and one from any other character. -/
def search (stops cs : List Char) (i : Nat) : Except Overrun (Option Nat) :=
  if i < cs.length then
    match lookAt cs i with
    | .error overrun => .error overrun
    | .ok c =>
      if c = '\\' then search stops cs (i + 2)
      else if c ∈ stops then .ok (some i)
      else search stops cs (i + 1)
  else .ok none
termination_by cs.length - i

theorem drop_eq_cons (h : cs[i]? = some c) : cs.drop i = c :: cs.drop (i + 1) := by
  obtain ⟨hi, rfl⟩ := List.getElem?_eq_some_iff.mp h
  exact List.drop_eq_getElem_cons hi

theorem findUnescaped_of_length_le (h : cs.length ≤ i) : findUnescaped cs i stops = none := by
  rw [findUnescaped, List.drop_eq_nil_of_le h]
  rfl

/-- A scan that steps over some characters goes on behind them. -/
theorem findUnescaped_of_step (front : List Char) {k : Nat} (hk : front.length = k)
    (h : scanTo stops (cs.drop i) =
      (scanTo stops (cs.drop (i + k))).map fun (segment, stop, after) =>
        (front ++ segment, stop, after)) :
    findUnescaped cs i stops = findUnescaped cs (i + k) stops := by
  rw [findUnescaped, findUnescaped, h, Option.map_map]
  congr 1
  funext ⟨segment, stop, after⟩
  simp [hk, Nat.add_assoc]

theorem findUnescaped_backslash (h : cs[i]? = some '\\') :
    findUnescaped cs i stops = findUnescaped cs (i + 2) stops := by
  have hdrop := drop_eq_cons h
  have hbehind : cs.drop (i + 2) = (cs.drop (i + 1)).tail := List.tail_drop.symm
  cases hnext : cs.drop (i + 1) with
  | nil =>
      -- a dangling backslash, so the position is past the end from here on
      rw [hnext] at hdrop hbehind
      rw [findUnescaped, findUnescaped, hdrop, hbehind]
      rfl
  | cons d rest =>
      rw [hnext] at hdrop hbehind
      refine findUnescaped_of_step ['\\', d] rfl ?_
      rw [hdrop, hbehind]
      rfl

theorem findUnescaped_plain (h : cs[i]? = some c) (hne : c ≠ '\\') :
    findUnescaped cs i stops = if c ∈ stops then some i else findUnescaped cs (i + 1) stops := by
  have hdrop := drop_eq_cons h
  split
  · rename_i hmem
    rw [findUnescaped, hdrop, scanTo_plain hne, if_pos hmem]
    rfl
  · rename_i hmem
    refine findUnescaped_of_step [c] rfl ?_
    rw [hdrop, scanTo_plain hne, if_neg hmem]
    rfl

theorem lookAt_eq_ok (h : lookAt cs i = .ok c) : cs[i]? = some c := by
  unfold lookAt at h
  split at h
  · rename_i hc
    cases h
    exact hc
  · cases h

/-- **The search stays within the line.** It ends, it looks at no position outside the line,
and it comes to what the scan comes to. -/
theorem search_eq (stops cs : List Char) (i : Nat) :
    search stops cs i = .ok (findUnescaped cs i stops) := by
  fun_induction search stops cs i with
  | case1 i hi overrun hlook =>
      rw [lookAt, List.getElem?_eq_getElem hi] at hlook
      cases hlook
  | case2 i hi hlook ih => rw [ih, findUnescaped_backslash (lookAt_eq_ok hlook)]
  | case3 i hi c hlook hne hmem => rw [findUnescaped_plain (lookAt_eq_ok hlook) hne, if_pos hmem]
  | case4 i hi c hlook hne hmem ih =>
      rw [ih, findUnescaped_plain (lookAt_eq_ok hlook) hne, if_neg hmem]
  | case5 i hi => rw [findUnescaped_of_length_le (Nat.le_of_not_lt hi)]

/-- **The first unescaped stop, told by looking back.** If the backslash is none of the
stops, the search comes to the first stop at or behind its beginning that an even number of
backslashes stands right before, and to none exactly if there is no such stop. On its way it
looks at no position outside the line. -/
theorem search_first (hstops : '\\' ∉ stops) (cs : List Char) (start : Nat) :
    search stops cs start = .ok (findUnescaped cs start stops) ∧
      (∀ i, findUnescaped cs start stops = some i ↔
        IsLeast {i | IsStopFrom stops cs start i} i) ∧
      (findUnescaped cs start stops = none ↔ ∀ i, ¬ IsStopFrom stops cs start i) := by
  refine ⟨search_eq stops cs start, fun i => ?_, ?_⟩
  · constructor
    · exact isLeast_of_findUnescaped hstops
    · intro hleast
      cases hfound : findUnescaped cs start stops with
      | none => exact absurd hleast.1 (not_isStopFrom_of_findUnescaped hstops hfound)
      | some j => rw [(isLeast_of_findUnescaped hstops hfound).unique hleast]
  · constructor
    · exact fun hnone i => not_isStopFrom_of_findUnescaped hstops hnone
    · intro hnot
      cases hfound : findUnescaped cs start stops with
      | none => rfl
      | some j => exact absurd (isLeast_of_findUnescaped hstops hfound).1 (hnot j)

/-- A parameter with two escaped colons, one of them behind three backslashes, and one
colon behind two. -/
def escapedColons : List Char := "A\\:\\\\\\:\\\\:B\\".toList

/-- From the middle of a run on, and up to a dangling backslash. -/
theorem search_first_escapedColons :
    '\\' ∉ [';', ':'] ∧
      IsLeast {i | IsStopFrom [';', ':'] escapedColons 0 i} 9 ∧
      IsLeast {i | IsStopFrom [';', ':'] escapedColons 4 i} 6 ∧
      (∀ i, ¬ IsStopFrom [';', ':'] escapedColons 10 i) ∧
      ∀ i, ¬ IsStopFrom [';', ':'] escapedColons 20 i := by
  have hstops : '\\' ∉ [';', ':'] := by decide
  refine ⟨hstops, ?_, ?_, ?_, ?_⟩
  · exact ((search_first hstops escapedColons 0).2.1 9).mp (by decide +kernel)
  · exact ((search_first hstops escapedColons 4).2.1 6).mp (by decide +kernel)
  · exact (search_first hstops escapedColons 10).2.2.mp (by decide +kernel)
  · exact (search_first hstops escapedColons 20).2.2.mp (by decide +kernel)

end VCalendar.Line
