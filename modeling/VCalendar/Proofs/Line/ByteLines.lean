import VCalendar.Proofs.Line.Folding
import VCalendar.Proofs.Text.IllFormed

/-!
# Lines of bytes

A content can be put together from lines of bytes by putting a carriage return and a line
feed between any two of them, whatever the lines contain. Main statement: its logical lines
are the lines, each decoded on its own, so broken bytes stay inside their line.

The content is decoded before it is split. A line end is two ASCII bytes, and no
ill-formed part in front of it can take in an ASCII byte.
-/

namespace VCalendar

open Text.Utf8 (decode ReadAs)

/-- Lines of bytes without line ends in them. A line behind another one does not begin with
a space, as it would look like the rest of a folded line. -/
structure ByteLines where
  first : List UInt8
  rest : List (List UInt8)
  plain : ∀ line ∈ first :: rest, 0x0d ∉ line ∧ 0x0a ∉ line
  space : ∀ line ∈ rest, line.head? ≠ some 0x20

namespace ByteLines

variable {first : List UInt8} {rest : List (List UInt8)}

def lines (b : ByteLines) : List (List UInt8) := b.first :: b.rest

def bytes (b : ByteLines) : List UInt8 := [0x0d, 0x0a].intercalate b.lines

def content (b : ByteLines) : Content := .bytes ⟨b.bytes.toArray⟩

/-- A line behind the first one, as it is decoded on its own. -/
def furtherLine (line : List UInt8) : Line.FoldedLine := ⟨.crlf, [decode line]⟩

/-- The lines, each decoded on its own. -/
def decoded (b : ByteLines) : Line.FoldedText where
  first := [(decode b.first).dropWhile (· = Content.mark)]
  rest := b.rest.map furtherLine

/-! ## Decoding -/

/-- A line end is read as itself, and what is in front of it and behind it on its own. -/
theorem decode_append_crlf (line behind : List UInt8) :
    decode (line ++ 0x0d :: 0x0a :: behind) = decode line ++ '\r' :: '\n' :: decode behind := by
  have hlf : decode ([] ++ 0x0a :: behind) = decode [] ++ '\n' :: decode behind :=
    Text.Utf8.decode_append_ascii (by decide) [] behind
  rw [Text.Utf8.decode_append_ascii (by decide), ← List.nil_append (0x0a :: behind), hlf]
  rfl

theorem decode_intercalate (first : List UInt8) (rest : List (List UInt8)) :
    decode ([0x0d, 0x0a].intercalate (first :: rest)) =
      decode first ++ (rest.map furtherLine).flatMap (·.chars) := by
  induction rest generalizing first with
  | nil => simp
  | cons next rest ih =>
      rw [List.intercalate_cons_cons, List.append_assoc, List.cons_append, List.cons_append,
        List.nil_append, decode_append_crlf, ih next]
      simp [furtherLine, Line.FoldedLine.chars, Line.LineEnd.chars, Line.folded]

/-- Dropping from the front ends with the first part if the next character is to be kept. -/
theorem dropWhile_append_of_head {p : Char → Bool} {cs behind : List Char}
    (h : ∀ c, behind.head? = some c → p c = false) :
    (cs ++ behind).dropWhile p = cs.dropWhile p ++ behind := by
  have hkeep : behind.dropWhile p = behind := by
    cases behind with
    | nil => rfl
    | cons c behind => exact List.dropWhile_cons_of_neg (by simp [h c rfl])
  rw [List.dropWhile_append, hkeep]
  split
  · rename_i hempty
    rw [List.isEmpty_iff.mp hempty, List.nil_append]
  · rfl

theorem dropWhile_chars_content (b : ByteLines) :
    b.content.chars.dropWhile (· = Content.mark) = b.decoded.chars := by
  have hends := Line.head?_lineEnds (fun l => Line.folded l.pieces) (b.rest.map furtherLine)
  rw [content, Content.chars, List.toList_toArray, bytes, lines, decode_intercalate,
    dropWhile_append_of_head]
  · simp [decoded, Line.FoldedText.chars, Line.folded]
  · intro c hc
    obtain ⟨l, -, rfl⟩ := Option.map_eq_some_iff.mp (hends.symm.trans hc)
    split <;> decide

/-! ## The logical lines -/

/-- A carriage return or a line feed in a decoded line would be a byte of the line. -/
theorem notMem_decode {c : Char} {line : List UInt8} (hc : c.toNat < 0x80)
    (h : UInt8.ofNat c.toNat ∉ line) : c ∉ decode line :=
  fun hmem => h ((Text.Utf8.readAs_iff.mpr rfl).byte_of_mem hc hmem)

theorem unambiguous_decoded (b : ByteLines) : b.decoded.Unambiguous where
  plain := by
    have hplain : ∀ line ∈ b.lines, '\r' ∉ decode line ∧ '\n' ∉ decode line := by
      intro line hline
      obtain ⟨hcr, hlf⟩ := b.plain line hline
      exact ⟨notMem_decode (by decide) hcr, notMem_decode (by decide) hlf⟩
    intro line hline
    rcases List.mem_cons.mp hline with rfl | hline
    · -- the first line has lost its byte order marks, and nothing else
      obtain ⟨hcr, hlf⟩ := hplain b.first List.mem_cons_self
      have hsuffix := List.dropWhile_suffix (l := decode b.first) (· = Content.mark)
      simp only [decoded, List.flatten_singleton]
      exact ⟨fun h => hcr (hsuffix.mem h), fun h => hlf (hsuffix.mem h)⟩
    · obtain ⟨l, hl, rfl⟩ := List.mem_map.mp hline
      obtain ⟨further, hfurther, rfl⟩ := List.mem_map.mp hl
      simpa [furtherLine, Line.FoldedLine.line] using
        hplain further (List.mem_cons_of_mem _ hfurther)
  space := by
    intro l hl _
    obtain ⟨line, hline, rfl⟩ := List.mem_map.mp hl
    intro hhead
    rw [furtherLine, Line.FoldedLine.line, List.flatten_singleton] at hhead
    exact b.space line hline
      ((Text.Utf8.readAs_iff.mpr rfl).head_of_ascii (by decide) hhead)
  apart := by
    refine List.Pairwise.isChain (List.pairwise_of_forall_mem_list ?_)
    rintro l hl next - ⟨hcr, -⟩
    obtain ⟨line, -, rfl⟩ := List.mem_map.mp hl
    cases hcr

/-- **Broken bytes stay inside their line.** The logical lines of a content are its lines,
each decoded on its own, with the byte order marks in front of the first one dropped.
Decoding takes every encoding in a line for its character and every maximal ill-formed part
for one replacement character. So a logical line only depends on the bytes of this line. -/
theorem lines_content (b : ByteLines) :
    b.content.lines =
        String.ofList ((decode b.first).dropWhile (· = Content.mark)) ::
          b.rest.map (fun line => String.ofList (decode line)) ∧
      (∀ line ∈ b.lines, ∀ cs, decode line = cs ↔ ReadAs line cs) ∧
      ∀ (b' : ByteLines) (i : Nat), b'.lines[i]? = b.lines[i]? →
        b'.content.lines[i]? = b.content.lines[i]? := by
  have hlines : ∀ b : ByteLines, b.content.lines =
      String.ofList ((decode b.first).dropWhile (· = Content.mark)) ::
        b.rest.map (fun line => String.ofList (decode line)) := by
    intro b
    rw [Content.lines, dropWhile_chars_content, Line.unfoldChars_folded b.unambiguous_decoded]
    simp [decoded, furtherLine, Line.FoldedText.lines, Line.FoldedLine.line]
  refine ⟨hlines b, fun line _ cs => Text.Utf8.readAs_iff.symm, ?_⟩
  intro b' i hline
  rw [hlines b, hlines b']
  cases i with
  | zero =>
      have hfirst : b'.first = b.first := Option.some.inj hline
      rw [hfirst]
      rfl
  | succ i =>
      have hrest : b'.rest[i]? = b.rest[i]? := hline
      rw [List.getElem?_cons_succ, List.getElem?_cons_succ, List.getElem?_map, List.getElem?_map,
        hrest]

/-- Lines with a cut-off sequence behind a byte order mark, an overlong form, and a lead byte
that nothing follows. -/
def brokenLines : ByteLines where
  first := [0xef, 0xbb, 0xbf, 0x41, 0xe2, 0x82]
  rest := [[0xc0, 0xaf, 0x3a], [0xf0]]
  plain := by decide
  space := by decide

/-- Lines that differ from these in the second one, where a byte order mark is kept. -/
def mendedLines : ByteLines where
  first := [0xef, 0xbb, 0xbf, 0x41, 0xe2, 0x82]
  rest := [[0xef, 0xbb, 0xbf, 0x42], [0xf0]]
  plain := by decide
  space := by decide

theorem lines_content_broken :
    brokenLines.content.lines = ["A\uFFFD", "\uFFFD\uFFFD:", "\uFFFD"] ∧
      mendedLines.content.lines = ["A\uFFFD", "\uFEFFB", "\uFFFD"] ∧
      mendedLines.content.lines[0]? = brokenLines.content.lines[0]? ∧
      mendedLines.content.lines[2]? = brokenLines.content.lines[2]? := by
  obtain ⟨hbroken, -, hsame⟩ := lines_content brokenLines
  obtain ⟨hmended, -, -⟩ := lines_content mendedLines
  refine ⟨?_, ?_, hsame mendedLines 0 rfl, hsame mendedLines 2 rfl⟩
  · rw [hbroken]
    decide +kernel
  · rw [hmended]
    decide +kernel

end ByteLines

end VCalendar
