import VCalendar.Line.Unfold

/-!
# Terminated lines

A text is put together from lines by ending each of them with a carriage return and
a line feed. The logical lines of the text are these lines, and an empty one behind
the last line end.
-/

namespace VCalendar.Line

variable {line rest : List Char}

/-! ## Text without line ends -/

theorem joinFolds_append (h : '\r' ∉ line) :
    joinFolds (line ++ rest) = line ++ joinFolds rest := by
  induction line with
  | nil => rfl
  | cons c line ih =>
      rw [List.mem_cons, not_or] at h
      obtain ⟨hc, hline⟩ := h
      rw [List.cons_append, joinFolds.eq_3 _ _ (fun _ hcr _ => hc hcr.symm), ih hline]
      rfl

theorem normalizeEnds_append (h : '\r' ∉ line) :
    Text.normalizeEnds (line ++ rest) = line ++ Text.normalizeEnds rest := by
  induction line with
  | nil => rfl
  | cons c line ih =>
      rw [List.mem_cons, not_or] at h
      obtain ⟨hc, hline⟩ := h
      rw [List.cons_append, Text.normalizeEnds.eq_4 _ _ (fun _ hcr _ => hc hcr.symm)
        (fun hcr => hc hcr.symm), ih hline]
      rfl

/-! ## One line end -/

/-- A line end is no fold unless a space follows. -/
theorem joinFolds_crlf (h : rest.head? ≠ some ' ') :
    joinFolds ('\r' :: '\n' :: rest) = '\r' :: '\n' :: joinFolds rest := by
  -- neither the carriage return nor the line feed begins a fold
  rw [joinFolds.eq_3, joinFolds.eq_3]
  · intro _ hcr
    cases hcr
  · rintro tail - htail
    cases htail
    exact h rfl

theorem normalizeEnds_crlf :
    Text.normalizeEnds ('\r' :: '\n' :: rest) = '\n' :: Text.normalizeEnds rest := rfl

/-! ## Many lines -/

/-- A line without line ends that does not look like the rest of a folded line. -/
structure Unbroken (line : List Char) : Prop where
  cr : '\r' ∉ line
  lf : '\n' ∉ line
  space : line.head? ≠ some ' '

instance (line : List Char) : Decidable (Unbroken line) :=
  decidable_of_iff ('\r' ∉ line ∧ '\n' ∉ line ∧ line.head? ≠ some ' ')
    ⟨fun h => ⟨h.1, h.2.1, h.2.2⟩, fun h => ⟨h.1, h.2, h.3⟩⟩

def terminated (lines : List (List Char)) : List Char :=
  lines.flatMap (· ++ ['\r', '\n'])

theorem terminated_cons (line : List Char) (lines : List (List Char)) :
    terminated (line :: lines) = line ++ '\r' :: '\n' :: terminated lines := by
  simp [terminated]

theorem head?_terminated {lines : List (List Char)} (h : ∀ line ∈ lines, Unbroken line) :
    (terminated lines).head? ≠ some ' ' := by
  cases lines with
  | nil => simp [terminated]
  | cons line lines =>
      have hspace := (h line List.mem_cons_self).space
      rw [terminated_cons]
      cases line with
      | nil => simp
      | cons c line => simpa using hspace

/-- **Splitting undoes terminating.** -/
theorem unfoldChars_terminated {lines : List (List Char)} (h : ∀ line ∈ lines, Unbroken line) :
    unfoldChars (terminated lines) = lines ++ [[]] := by
  induction lines with
  | nil => rfl
  | cons line lines ih =>
      obtain ⟨hline, hlines⟩ := List.forall_mem_cons.mp h
      have hrest := ih hlines
      unfold unfoldChars at hrest ⊢
      rw [terminated_cons, joinFolds_append hline.cr, joinFolds_crlf (head?_terminated hlines),
        normalizeEnds_append hline.cr, normalizeEnds_crlf,
        List.splitOn_append_cons_of_beq _ _ (by rfl), List.splitOn_eq_singleton hline.lf, hrest]
      rfl

end VCalendar.Line
