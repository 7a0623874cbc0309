import Mathlib.Data.List.Chain
import VCalendar.Proofs.Line.Terminated
import VCalendar.Reader

/-!
# Folded lines

A text is written from lines by choosing a line end between any two of them and by
folding each line at any number of places. Main statement: the logical lines of the
text are the lines it was written from, so neither they nor anything that is read
from them depends on the folds and the line ends.

Two things can go wrong, and both are excluded: a line that begins with a space,
behind a carriage return and a line feed, looks like the rest of a folded line; and a
carriage return, an empty line and a line feed look like a single line end.
-/

namespace VCalendar.Line

/-! ## Writing -/

inductive LineEnd where
  | crlf
  | cr
  | lf
deriving DecidableEq, Repr

def LineEnd.chars : LineEnd → List Char
  | .crlf => ['\r', '\n']
  | .cr => ['\r']
  | .lf => ['\n']

/-- A line that has been cut into pieces, with a fold between any two of them. -/
def folded (pieces : List (List Char)) : List Char :=
  ['\r', '\n', ' '].intercalate pieces

/-- A line in pieces, and the line end in front of it. -/
structure FoldedLine where
  before : LineEnd
  pieces : List (List Char)
deriving DecidableEq, Repr

namespace FoldedLine

def line (l : FoldedLine) : List Char := l.pieces.flatten

def chars (l : FoldedLine) : List Char := l.before.chars ++ folded l.pieces

/-- The line and the line end in front of it, without folds. -/
def joined (l : FoldedLine) : List Char := l.before.chars ++ l.line

end FoldedLine

/-- The pieces of a first line, and further lines. -/
structure FoldedText where
  first : List (List Char)
  rest : List FoldedLine
deriving DecidableEq, Repr

namespace FoldedText

def lines (t : FoldedText) : List (List Char) := t.first.flatten :: t.rest.map (·.line)

def chars (t : FoldedText) : List Char := folded t.first ++ t.rest.flatMap (·.chars)

def text (t : FoldedText) : String := String.ofList t.chars

/-- The text without folds. -/
def joined (t : FoldedText) : List Char := t.first.flatten ++ t.rest.flatMap (·.joined)

end FoldedText

/-- Whether two line ends with nothing between them are seen as one. -/
def Merge (l next : FoldedLine) : Prop :=
  l.before = .cr ∧ l.line = [] ∧ next.before = .lf

instance (l next : FoldedLine) : Decidable (Merge l next) := by
  unfold Merge
  infer_instance

/-- No line contains a line end, looks like the rest of the line in front of it or
joins the line ends around it. -/
structure FoldedText.Unambiguous (t : FoldedText) : Prop where
  plain : ∀ line ∈ t.lines, '\r' ∉ line ∧ '\n' ∉ line
  space : ∀ l ∈ t.rest, l.before = .crlf → l.line.head? ≠ some ' '
  apart : t.rest.IsChain fun l next => ¬ Merge l next

/-! ## What follows a line end -/

variable {pieces : List (List Char)} {rest : List Char} {ls : List FoldedLine}

theorem head?_lineEnd (e : LineEnd) (rest : List Char) :
    (e.chars ++ rest).head? = some (if e = .lf then '\n' else '\r') := by
  cases e <;> rfl

/-- Behind a line there is the next line end, or nothing. -/
theorem head?_lineEnds (f : FoldedLine → List Char) (ls : List FoldedLine) :
    (ls.flatMap fun l => l.before.chars ++ f l).head? =
      ls.head?.map fun l => if l.before = .lf then '\n' else '\r' := by
  cases ls with
  | nil => rfl
  | cons l ls =>
      rw [List.flatMap_cons, List.append_assoc, head?_lineEnd]
      rfl

/-- A folded line begins like the line, unless it begins with a fold. -/
theorem head?_folded {c : Char} (hc : c ≠ '\r') (h : (folded pieces ++ rest).head? = some c) :
    (pieces.flatten ++ rest).head? = some c := by
  cases pieces with
  | nil => exact h
  | cons piece pieces =>
      cases pieces with
      | nil => simpa [folded] using h
      | cons next pieces =>
          rw [folded, List.intercalate_cons_cons] at h
          cases piece with
          | nil =>
              -- the fold comes first, and it begins with a carriage return
              exact absurd (Option.some.inj h).symm hc
          | cons d piece => exact h

/-- What stands behind a line end does not lengthen it, and makes no fold of it. -/
structure Follows (e : LineEnd) (rest : List Char) : Prop where
  space : e = .crlf → rest.head? ≠ some ' '
  lf : e = .cr → rest.head? ≠ some '\n'

theorem Follows.folded {e : LineEnd} (h : Follows e (pieces.flatten ++ rest)) :
    Follows e (Line.folded pieces ++ rest) where
  space he hhead := h.space he (head?_folded (by decide) hhead)
  lf he hhead := h.lf he (head?_folded (by decide) hhead)

namespace FoldedText.Unambiguous

variable {first : List (List Char)} {l : FoldedLine}

theorem first_plain {t : FoldedText} (h : t.Unambiguous) :
    '\r' ∉ t.first.flatten ∧ '\n' ∉ t.first.flatten :=
  h.plain t.first.flatten List.mem_cons_self

theorem tail (h : Unambiguous ⟨first, l :: ls⟩) : Unambiguous ⟨l.pieces, ls⟩ where
  plain line hline := h.plain line (List.mem_cons_of_mem _ hline)
  space l' hl' := h.space l' (List.mem_cons_of_mem l hl')
  apart := (List.isChain_cons.mp h.apart).2

/-- A line and those behind it may stand behind the line end in front of it. -/
theorem follows (h : Unambiguous ⟨first, l :: ls⟩) (f : FoldedLine → List Char) :
    Follows l.before (l.line ++ ls.flatMap fun l => l.before.chars ++ f l) := by
  have hplain : '\n' ∉ l.line := h.tail.first_plain.2
  have hspace := h.space l List.mem_cons_self
  cases hline : l.line with
  | cons c cs =>
      rw [hline] at hplain hspace
      refine ⟨hspace, ?_⟩
      rintro - hhead
      cases hhead
      exact hplain List.mem_cons_self
  | nil =>
      -- an empty line shows the line end behind it
      rw [List.nil_append]
      cases ls with
      | nil => exact ⟨fun _ => by simp, fun _ => by simp⟩
      | cons next ls =>
          have happart : ¬ Merge l next := (List.isChain_cons_cons.mp h.apart).1
          constructor
          · intro _
            rw [head?_lineEnds, List.head?_cons, Option.map_some]
            split <;> decide
          · intro hcr
            have hlf : next.before ≠ .lf := fun hlf => happart ⟨hcr, hline, hlf⟩
            rw [head?_lineEnds, List.head?_cons, Option.map_some, if_neg hlf]
            decide

end FoldedText.Unambiguous

/-! ## Folds -/

theorem joinFolds_folded (h : '\r' ∉ pieces.flatten) :
    joinFolds (folded pieces ++ rest) = pieces.flatten ++ joinFolds rest := by
  induction pieces with
  | nil => rfl
  | cons piece pieces ih =>
      rw [List.flatten_cons, List.mem_append, not_or] at h
      obtain ⟨hpiece, hpieces⟩ := h
      cases pieces with
      | nil =>
          have hsingle : folded [piece] = piece := by simp [folded]
          rw [hsingle, joinFolds_append hpiece]
          simp
      | cons next pieces =>
          have hfold : folded (piece :: next :: pieces) ++ rest =
              piece ++ '\r' :: '\n' :: ' ' :: (folded (next :: pieces) ++ rest) := by
            simp [folded, List.intercalate_cons_cons]
          rw [hfold, joinFolds_append hpiece, List.flatten_cons, List.append_assoc, ← ih hpieces]
          rfl

theorem joinFolds_lineEnd {e : LineEnd} (h : Follows e rest) :
    joinFolds (e.chars ++ rest) = e.chars ++ joinFolds rest := by
  cases e with
  | crlf => exact joinFolds_crlf (h.space rfl)
  | lf =>
      show joinFolds ('\n' :: rest) = _
      rw [joinFolds.eq_3]
      · rfl
      · rintro _ hcr
        cases hcr
  | cr =>
      show joinFolds ('\r' :: rest) = _
      rw [joinFolds.eq_3]
      · rfl
      · rintro _ - hrest
        rw [hrest] at h
        exact h.lf rfl rfl

/-- Exactly the folds are taken out. -/
theorem joinFolds_chars {t : FoldedText} (h : t.Unambiguous) : joinFolds t.chars = t.joined := by
  obtain ⟨first, ls⟩ := t
  induction ls generalizing first with
  | nil =>
      rw [FoldedText.chars, joinFolds_folded h.first_plain.1]
      rfl
  | cons l ls ih =>
      have hrest : joinFolds (folded l.pieces ++ ls.flatMap (·.chars)) =
          l.line ++ ls.flatMap (·.joined) := ih l.pieces h.tail
      have hfollows : Follows l.before (l.line ++ ls.flatMap (·.chars)) := h.follows _
      rw [FoldedText.chars, joinFolds_folded h.first_plain.1, List.flatMap_cons, FoldedLine.chars,
        List.append_assoc, joinFolds_lineEnd hfollows.folded, hrest, FoldedText.joined,
        List.flatMap_cons, FoldedLine.joined, List.append_assoc]

/-! ## Line ends -/

theorem normalizeEnds_lineEnd {e : LineEnd} (h : Follows e rest) :
    Text.normalizeEnds (e.chars ++ rest) = '\n' :: Text.normalizeEnds rest := by
  cases e with
  | crlf => rfl
  | lf => rfl
  | cr =>
      show Text.normalizeEnds ('\r' :: rest) = _
      rw [Text.normalizeEnds.eq_3]
      intro _ hrest
      rw [hrest] at h
      exact h.lf rfl rfl

/-- Every line end separates two lines. -/
theorem splitOn_joined {t : FoldedText} (h : t.Unambiguous) :
    (Text.normalizeEnds t.joined).splitOn '\n' = t.lines := by
  obtain ⟨first, ls⟩ := t
  obtain ⟨hcr, hlf⟩ := h.first_plain
  induction ls generalizing first with
  | nil =>
      rw [FoldedText.joined, normalizeEnds_append hcr, List.flatMap_nil, Text.normalizeEnds,
        List.append_nil, List.splitOn_eq_singleton hlf]
      rfl
  | cons l ls ih =>
      have hrest : (Text.normalizeEnds (l.line ++ ls.flatMap (·.joined))).splitOn '\n' =
          l.line :: ls.map (·.line) := ih l.pieces h.tail h.tail.first_plain.1 h.tail.first_plain.2
      have hfollows : Follows l.before (l.line ++ ls.flatMap (·.joined)) := h.follows _
      rw [FoldedText.joined, normalizeEnds_append hcr, List.flatMap_cons, FoldedLine.joined,
        List.append_assoc, normalizeEnds_lineEnd hfollows,
        List.splitOn_append_cons_of_beq _ _ (by rfl), List.splitOn_eq_singleton hlf, hrest]
      rfl

/-! ## The logical lines -/

variable {t : FoldedText}

theorem unfoldChars_folded (h : t.Unambiguous) : unfoldChars t.chars = t.lines := by
  rw [unfoldChars, joinFolds_chars h, splitOn_joined h]

/-- A text begins like its first line, or with a line end or a fold. -/
theorem head?_chars {c : Char} (hcr : c ≠ '\r') (h : t.chars.head? = some c) :
    t.first.flatten.head? = some c ∨ c = '\n' := by
  have hline := head?_folded hcr h
  cases hfirst : t.first.flatten with
  | cons d cs =>
      rw [hfirst] at hline
      exact Or.inl hline
  | nil =>
      have hends := head?_lineEnds (fun l => folded l.pieces) t.rest
      rw [hfirst] at hline
      obtain ⟨l, -, hl⟩ := Option.map_eq_some_iff.mp (hends.symm.trans hline)
      split at hl
      · exact Or.inr hl.symm
      · exact absurd hl.symm hcr

/-- Without a byte order mark in front there is none to drop. -/
theorem lines_text {cs : List Char} (h : cs.head? ≠ some Content.mark) :
    (Content.text (String.ofList cs)).lines = (unfoldChars cs).map String.ofList := by
  have hkeep : cs.dropWhile (· = Content.mark) = cs := by
    cases cs with
    | nil => rfl
    | cons c cs =>
        apply List.dropWhile_cons_of_neg
        simpa using h
  rw [Content.lines, Content.chars, String.toList_ofList, hkeep]

theorem lines_folded (h : t.Unambiguous) (hmark : t.first.flatten.head? ≠ some Content.mark) :
    (Content.text t.text).lines = t.lines.map String.ofList := by
  rw [FoldedText.text, lines_text, unfoldChars_folded h]
  intro hhead
  rcases head?_chars (by decide) hhead with hfirst | hlf
  · exact hmark hfirst
  · exact absurd hlf (by decide)

/-- What is read from a text that fits depends on its logical lines only. -/
theorem read_congr {r : Reader} {c c' : Content} (hlines : c.lines = c'.lines)
    (hfits : c.Fits r.settings.maxContentBytes) (hfits' : c'.Fits r.settings.maxContentBytes) :
    r.read c = r.read c' := by
  obtain ⟨size, hsize, hle⟩ := hfits
  obtain ⟨size', hsize', hle'⟩ := hfits'
  rw [Reader.read, Reader.read, hsize, hsize']
  simp only [if_neg (Int.not_lt.mpr hle), if_neg (Int.not_lt.mpr hle'), hlines]

/-- **Unfolding undoes every folding and every mix of line ends.** The logical lines of a
text are the lines it was written from. So texts that are written from the same lines have
the same logical lines, and reading them gives the same events and the same document, or
the same error on the same line. -/
theorem unfold_folded (h : t.Unambiguous) :
    unfold t.text = t.lines.map String.ofList ∧
      ∀ t' : FoldedText, t'.Unambiguous → t'.lines = t.lines →
        unfold t'.text = unfold t.text ∧
          ∀ r : Reader, t.first.flatten.head? ≠ some Content.mark →
            (t.text.utf8ByteSize : Int) ≤ r.settings.maxContentBytes →
            (t'.text.utf8ByteSize : Int) ≤ r.settings.maxContentBytes →
              r.read (.text t'.text) = r.read (.text t.text) := by
  have hunfold : ∀ {t : FoldedText}, t.Unambiguous → unfold t.text = t.lines.map String.ofList := by
    intro t h
    rw [unfold, FoldedText.text, String.toList_ofList, unfoldChars_folded h]
  refine ⟨hunfold h, ?_⟩
  intro t' h' hlines
  refine ⟨by rw [hunfold h, hunfold h', hlines], ?_⟩
  intro r hmark hsize hsize'
  have hfirst : t'.first.flatten = t.first.flatten := (List.cons.inj hlines).1
  refine read_congr ?_ (Content.fits_text.mpr hsize') (Content.fits_text.mpr hsize)
  rw [lines_folded h hmark, lines_folded h' (by rwa [hfirst]), hlines]

/-- Five lines, of which the third begins with a space and the fourth is empty, with folds
also in front of a line and in the empty one. The last line is no property. -/
def mixedText : FoldedText where
  first := ["SUM".toList, "MARY:a".toList]
  rest := [⟨.cr, [[], "B:1".toList]⟩, ⟨.lf, [" C:2".toList]⟩, ⟨.cr, [[], []]⟩,
    ⟨.crlf, ["D".toList]⟩]

/-- The same lines, not folded and all with the same line end. -/
def plainText : FoldedText where
  first := ["SUMMARY:a".toList]
  rest := [⟨.lf, ["B:1".toList]⟩, ⟨.lf, [" C:2".toList]⟩, ⟨.lf, [[]]⟩, ⟨.lf, ["D".toList]⟩]

theorem unfold_folded_mixed :
    mixedText.text = "SUM\r\n MARY:a\r\r\n B:1\n C:2\r\r\n \r\nD" ∧
      plainText.text = "SUMMARY:a\nB:1\n C:2\n\nD" ∧
      unfold mixedText.text = ["SUMMARY:a", "B:1", " C:2", "", "D"] ∧
      (Reader.zoneless {}).read (.text plainText.text) = (Reader.zoneless {}).read (.text mixedText.text) := by
  have hmixed : mixedText.Unambiguous := ⟨by decide, by decide, by decide⟩
  have hplain : plainText.Unambiguous := ⟨by decide, by decide, by decide⟩
  obtain ⟨hunfold, hsame⟩ := unfold_folded hmixed
  obtain ⟨-, hread⟩ := hsame plainText hplain (by decide)
  refine ⟨by decide +kernel, by decide +kernel, hunfold, ?_⟩
  exact hread (.zoneless {}) (by decide) (by decide +kernel) (by decide +kernel)

end VCalendar.Line
