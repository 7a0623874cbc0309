import VCalendar.Text.Range

/-!
# Blank characters

White space in the sense of Unicode: the ASCII blanks, the four information
separators, the next-line character and the space separators.  The byte order
mark and the zero-width space are not blank.
-/

namespace VCalendar.Text

/-- The closed ranges of blank code points. -/
def blankRanges : List CodeRange :=
  [⟨0x09, 0x0d⟩, ⟨0x1c, 0x20⟩, ⟨0x85, 0x85⟩, ⟨0xa0, 0xa0⟩, ⟨0x1680, 0x1680⟩, ⟨0x2000, 0x200a⟩,
    ⟨0x2028, 0x2029⟩, ⟨0x202f, 0x202f⟩, ⟨0x205f, 0x205f⟩, ⟨0x3000, 0x3000⟩]

def isBlank (c : Char) : Bool :=
  blankRanges.any (·.contains c)

/-- The characters that separate files, groups, records and units. -/
def informationSeparators : CodeRange :=
  ⟨0x1c, 0x1f⟩

/-- A blank that is no information separator. -/
def isPlainBlank (c : Char) : Bool :=
  isBlank c && !informationSeparators.contains c

/-- Drops the characters of a class at both ends. -/
def trimBoth (p : Char → Bool) (cs : List Char) : List Char :=
  ((cs.dropWhile p).reverse.dropWhile p).reverse

/-- Drops the blanks at both ends. -/
def stripBlanks (cs : List Char) : List Char :=
  trimBoth isBlank cs

def strip (s : String) : String :=
  String.ofList (stripBlanks s.toList)

/-- Characters of the class added at either end are dropped again. -/
theorem trimBoth_surround {p : Char → Bool} {before after : List Char} (cs : List Char)
    (hb : ∀ c ∈ before, p c = true) (ha : ∀ c ∈ after, p c = true) :
    trimBoth p (before ++ cs ++ after) = trimBoth p cs := by
  unfold trimBoth
  rw [List.append_assoc, List.dropWhile_append_of_pos hb, List.dropWhile_append]
  split
  · next h =>
    have all_dropped : (after ++ []).dropWhile p = [] := List.dropWhile_append_of_pos ha
    rw [List.isEmpty_iff.1 h, ← List.append_nil after, all_dropped]
  · rw [List.reverse_append, List.dropWhile_append_of_pos (by simpa using ha)]

end VCalendar.Text
