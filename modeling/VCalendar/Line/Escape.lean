/-!
# Escaped characters

While a line is scanned for delimiters, a backslash makes the character behind
it an ordinary one.  The backslash itself is kept.
-/

namespace VCalendar.Line

/-- Splits at the first character of `stops` that is not escaped: what stands
before it, the stop, and what stands behind.  There is none if the scan runs off
the end, a backslash at the very end included. -/
def scanTo (stops : List Char) : List Char → Option (List Char × Char × List Char)
  | [] => none
  | ['\\'] => none
  | '\\' :: c :: rest =>
    (scanTo stops rest).map fun (segment, stop, after) => ('\\' :: c :: segment, stop, after)
  | c :: rest =>
    if stops.contains c then some ([], c, rest)
    else (scanTo stops rest).map fun (segment, stop, after) => (c :: segment, stop, after)

/-- The position of the first unescaped stop at or after `start`. -/
def findUnescaped (cs : List Char) (start : Nat) (stops : List Char) : Option Nat :=
  (scanTo stops (cs.drop start)).map fun (segment, _, _) => start + segment.length

/-- A character that begins neither a dangling nor an escaping pair is no backslash. -/
theorem ne_backslash_of_unpaired {c : Char} {rest : List Char}
    (hdangling : c = '\\' → rest = [] → False)
    (hescape : ∀ d tail, c = '\\' → rest = d :: tail → False) : c ≠ '\\' := by
  intro hc
  cases rest with
  | nil => exact hdangling hc rfl
  | cons d tail => exact hescape d tail hc rfl

/-- A scan loses nothing: the pieces concatenate to the text. -/
theorem scanTo_append {stops cs segment after : List Char} {stop : Char}
    (h : scanTo stops cs = some (segment, stop, after)) : cs = segment ++ stop :: after := by
  fun_induction scanTo stops cs generalizing segment stop after with
  | case1 => simp at h
  | case2 => simp at h
  | case3 c rest ih =>
    obtain ⟨⟨s, d, a⟩, found, same⟩ := Option.map_eq_some_iff.1 h
    cases same
    simp [ih found]
  | case4 c rest _ _ stop_here =>
    cases h
    rfl
  | case5 c rest _ _ _ ih =>
    obtain ⟨⟨s, d, a⟩, found, same⟩ := Option.map_eq_some_iff.1 h
    cases same
    simp [ih found]

/-- The character that ends a scan is one of its stops. -/
theorem scanTo_stop_mem {stops cs segment after : List Char} {stop : Char}
    (h : scanTo stops cs = some (segment, stop, after)) : stop ∈ stops := by
  fun_induction scanTo stops cs generalizing segment stop after with
  | case1 => simp at h
  | case2 => simp at h
  | case3 c rest ih =>
    obtain ⟨⟨s, d, a⟩, found, same⟩ := Option.map_eq_some_iff.1 h
    cases same
    exact ih found
  | case4 c rest _ _ stop_here =>
    cases h
    simpa using stop_here
  | case5 c rest _ _ _ ih =>
    obtain ⟨⟨s, d, a⟩, found, same⟩ := Option.map_eq_some_iff.1 h
    cases same
    exact ih found

/-- What stands behind the stop is shorter than the text. -/
theorem length_lt_of_scanTo {stops cs segment after : List Char} {stop : Char}
    (h : scanTo stops cs = some (segment, stop, after)) : after.length < cs.length := by
  rw [scanTo_append h]
  simp only [List.length_append, List.length_cons]
  omega

end VCalendar.Line
