import VCalendar.Line.Unfold
import VCalendar.Text.Surrogate
import VCalendar.Text.Utf8

/-!
# Contents

What is read is a text or its bytes.  A text is measured by its encoding, so that a text
without one has no size.
-/

namespace VCalendar

/-- What is to be read. -/
inductive Content where
  | text (s : String)
  /-- A text with surrogates in it. -/
  | broken (s : Text.BrokenText)
  | bytes (b : ByteArray)

namespace Content

/-- The bytes of a content; those of a text are its UTF-8 encoding. -/
def encoded : Content → Except Text.EncodingFlaw ByteArray
  | .text s => .ok s.toUTF8
  | .broken s => .error s.flaw
  | .bytes b => .ok b

/-- The size in bytes. -/
def size : Content → Except Text.EncodingFlaw Nat
  | .text s => .ok s.utf8ByteSize
  | .broken s => .error s.flaw
  | .bytes b => .ok b.size

/-- Whether a content has a size within a limit. -/
def Fits (c : Content) (limit : Int) : Prop :=
  ∃ size : Nat, c.size = .ok size ∧ (size : Int) ≤ limit

theorem fits_of_size {c : Content} {size : Nat} {limit : Int} (h : c.size = .ok size) :
    c.Fits limit ↔ (size : Int) ≤ limit := by
  constructor
  · rintro ⟨size', h', hle⟩
    cases h.symm.trans h'
    exact hle
  · exact fun hle => ⟨size, h, hle⟩

theorem fits_text {s : String} {limit : Int} :
    (text s).Fits limit ↔ (s.utf8ByteSize : Int) ≤ limit :=
  fits_of_size rfl

/-- A content has no size, one over a limit, or one within it. -/
theorem fits_cases (c : Content) (limit : Int) :
    (∃ flaw, c.size = .error flaw) ∨ (∃ size : Nat, c.size = .ok size ∧ limit < size) ∨
      c.Fits limit := by
  cases hsize : c.size with
  | error flaw => exact .inl ⟨flaw, rfl⟩
  | ok size =>
      by_cases hlarge : limit < size
      · exact .inr (.inl ⟨size, rfl, hlarge⟩)
      · exact .inr (.inr ⟨size, hsize, Int.not_lt.mp hlarge⟩)

/-- The characters, ill-formed bytes replaced.  Those of a text without a size, which is
never looked into, end in front of its first surrogate. -/
def chars : Content → List Char
  | .text s => s.toList
  | .broken s => s.front
  | .bytes b => Text.Utf8.decode b.data.toList

/-- The byte order mark. -/
def mark : Char := '\uFEFF'

/-- The logical lines, without byte order marks in front. -/
def lines (c : Content) : List String :=
  (Line.unfoldChars (c.chars.dropWhile (· = mark))).map String.ofList

end Content

end VCalendar
