import VCalendar.Proofs.Line.Folding

/-!
# Joined lines

A text can be put together from plain lines by putting a line feed between any two of
them. Main statement: the logical lines of the text are these lines.
-/

namespace VCalendar

/-- A line without line ends in it and without a byte order mark in front. -/
structure Plain (line : String) : Prop where
  cr : '\r' ∉ line.toList
  lf : '\n' ∉ line.toList
  mark : line.toList.head? ≠ some Content.mark

instance (line : String) : Decidable (Plain line) :=
  decidable_of_iff ('\r' ∉ line.toList ∧ '\n' ∉ line.toList ∧
      line.toList.head? ≠ some Content.mark)
    ⟨fun h => ⟨h.1, h.2.1, h.2.2⟩, fun h => ⟨h.1, h.2, h.3⟩⟩

namespace Content

/-- The text of some lines. -/
def ofLines (lines : List String) : Content :=
  .text ("\n".intercalate lines)

theorem cr_notMem_intercalate {lines : List (List Char)} (h : ∀ line ∈ lines, '\r' ∉ line) :
    '\r' ∉ ['\n'].intercalate lines := by
  induction lines with
  | nil => simp
  | cons line lines ih =>
      obtain ⟨hline, hlines⟩ := List.forall_mem_cons.mp h
      cases lines with
      | nil => simpa using hline
      | cons next lines =>
          rw [List.intercalate_cons_cons]
          simp [hline, ih hlines]

theorem unfoldChars_intercalate {lines : List (List Char)} (hne : lines ≠ [])
    (hcr : ∀ line ∈ lines, '\r' ∉ line) (hlf : ∀ line ∈ lines, '\n' ∉ line) :
    Line.unfoldChars (['\n'].intercalate lines) = lines := by
  have hjoin : Line.joinFolds (['\n'].intercalate lines ++ []) = ['\n'].intercalate lines ++ [] :=
    Line.joinFolds_append (cr_notMem_intercalate hcr)
  have hends : Text.normalizeEnds (['\n'].intercalate lines ++ []) =
      ['\n'].intercalate lines ++ [] :=
    Line.normalizeEnds_append (cr_notMem_intercalate hcr)
  rw [List.append_nil] at hjoin hends
  rw [Line.unfoldChars, hjoin, hends, List.splitOn_intercalate '\n' hlf hne]

/-- A joined text begins like its first line, or with a line feed. -/
theorem head?_intercalate {lines : List (List Char)} {c : Char} (hc : c ≠ '\n')
    (h : ∀ line ∈ lines, line.head? ≠ some c) : (['\n'].intercalate lines).head? ≠ some c := by
  cases lines with
  | nil => simp
  | cons line lines =>
      have hfirst := h line List.mem_cons_self
      cases lines with
      | nil => simpa using hfirst
      | cons next lines =>
          rw [List.intercalate_cons_cons]
          cases line with
          | nil => simpa using hc.symm
          | cons d line => simpa using hfirst

/-- The logical lines of a text are the lines it was put together from; a text without
lines has an empty one. -/
theorem lines_ofLines {lines : List String} (h : ∀ line ∈ lines, Plain line) :
    (ofLines lines).lines = if lines = [] then [""] else lines := by
  by_cases hne : lines = []
  · rw [hne]
    rfl
  · have hplain : ∀ cs ∈ lines.map String.toList,
        '\r' ∉ cs ∧ '\n' ∉ cs ∧ cs.head? ≠ some mark := by
      intro cs hcs
      obtain ⟨line, hline, rfl⟩ := List.mem_map.mp hcs
      exact ⟨(h line hline).cr, (h line hline).lf, (h line hline).mark⟩
    have hmark := head?_intercalate (by decide) fun cs hcs => (hplain cs hcs).2.2
    rw [if_neg hne, ofLines, ← String.ofList_toList (s := "\n".intercalate lines),
      String.toList_intercalate]
    show (text (String.ofList (['\n'].intercalate (lines.map String.toList)))).lines = lines
    rw [Line.lines_text hmark, unfoldChars_intercalate (mt List.map_eq_nil_iff.mp hne)
      (fun cs hcs => (hplain cs hcs).1) (fun cs hcs => (hplain cs hcs).2.1)]
    simp

end Content

end VCalendar
