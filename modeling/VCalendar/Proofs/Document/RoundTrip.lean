import VCalendar.Proofs.Document.Forest
import VCalendar.Proofs.Line.Terminated

/-!
# Reading what has been written

A forest is written line by line and read back. Main statement: what is read is the
document of the forest, in strict and in lenient nesting, and nothing is warned of.
-/

namespace VCalendar

open Line

/-- What is noted of a document that has been read. -/
def Document.digest (d : Document) : Digest :=
  ⟨d.nodes.size, d.root.length, d.summary.dtstart, d.summary.tzid, d.summary.duration,
    d.summary.rrule, d.summary.allDay⟩

namespace Item

variable {strict : Bool} {items : List Item}

/-! ## The tokens of the written lines -/

theorem text_ne_empty (w : WrittenLine) : w.text ≠ "" := by
  intro h
  have hcolon : ':' ∈ w.text.toList := by simp [WrittenLine.text, WrittenLine.chars]
  rw [h] at hcolon
  simp at hcolon

theorem wellFormed_opening {ps : List WrittenParameter} (h : ∀ p ∈ ps, p.WellFormed)
    (value : String) : (opening ps value).WellFormed where
  name := by
    show Closed [';', ':'] beginName.toList
    decide
  parameters := h

theorem wellFormed_closing (value : String) : (closing value).WellFormed where
  name := by
    show Closed [';', ':'] endName.toList
    decide
  parameters := by simp [closing]

mutual
theorem wellFormed_of_mem_lines :
    ∀ item : Item, item.WellFormed → ∀ w ∈ item.lines, w.WellFormed
  | .property v, h, w, hw => by
      obtain rfl : w = v := by simpa [lines] using hw
      exact h.1
  | .block ps value items, h, w, hw => by
      rw [lines, List.mem_cons, List.mem_append, List.mem_singleton] at hw
      rcases hw with rfl | hw | rfl
      · exact wellFormed_opening h.1 value
      · exact wellFormed_of_mem_forestLines items h.2 w hw
      · exact wellFormed_closing value
theorem wellFormed_of_mem_forestLines :
    ∀ items : List Item, ForestWellFormed items → ∀ w ∈ forestLines items, w.WellFormed
  | item :: rest, h, w, hw => by
      rw [forestLines, List.mem_append] at hw
      rcases hw with hw | hw
      · exact wellFormed_of_mem_lines item h.1 w hw
      · exact wellFormed_of_mem_forestLines rest h.2 w hw
end

/-- Written lines have their tokens; the empty line behind the last line end has none. -/
theorem tokensOf_written {ws : List WrittenLine} (h : ∀ w ∈ ws, w.WellFormed) (first : Nat) :
    tokensOf ((ws.map (·.text) ++ [""]).zipIdx first) = .ok (numberedTokens first ws) := by
  induction ws generalizing first with
  | nil => exact tokensOf_empty first []
  | cons w ws ih =>
      obtain ⟨hw, hws⟩ := List.forall_mem_cons.mp h
      rw [List.map_cons, List.cons_append, List.zipIdx_cons,
        tokensOf_cons (text_ne_empty w) (tokenize_written hw), ih hws, numberedTokens_cons]
      rfl

/-- The logical lines of a written forest are its lines, and an empty one. -/
theorem lines_forestText (hlines : ∀ w ∈ forestLines items, Unbroken w.chars)
    (hmark : (forestText items).toList.head? ≠ some Content.mark) :
    (Content.text (forestText items)).lines = (forestLines items).map (·.text) ++ [""] := by
  have hunbroken : ∀ line ∈ (forestLines items).map (·.chars), Unbroken line := by
    intro line hline
    obtain ⟨w, hw, rfl⟩ := List.mem_map.mp hline
    exact hlines w hw
  -- there is no byte order mark to drop
  have hkeep : (forestText items).toList.dropWhile (· = Content.mark) =
      (forestText items).toList := by
    cases hcs : (forestText items).toList with
    | nil => rfl
    | cons c cs =>
        apply List.dropWhile_cons_of_neg
        simpa [hcs] using hmark
  rw [Content.lines, Content.chars, hkeep, forestText, String.toList_ofList,
    unfoldChars_terminated hunbroken]
  simp [WrittenLine.text]

/-! ## The summary of a forest -/

/-- What an item that is no date at the root tells about the event. -/
def sumUp (s : Summary) : Item → Summary
  | .property w =>
      if w.name = "DURATION" then { s with duration := some w.value }
      else if w.name = "RRULE" then { s with rrule := some w.value }
      else s
  | .block .. => s

/-- The first node of an item. -/
def top (parent : Option Int) (id line : Nat) : Item → Node
  | .property w => nodeOfLine w .property parent id line
  | .block ps value items =>
      nodeOfLine (opening ps value) (.block (forestRoots (id + 1) items)) parent id line

def forestTops (parent : Option Int) (id line : Nat) : List Item → List Node
  | [] => []
  | item :: rest =>
      item.top parent id line ::
        forestTops parent (id + item.size) (line + item.lines.length) rest

theorem nodes_eq_cons (parent : Option Int) (id line : Nat) (item : Item) :
    ∃ inner, item.nodes parent id line = item.top parent id line :: inner := by
  cases item with
  | property w => exact ⟨[], rfl⟩
  | block ps value items => exact ⟨_, rfl⟩

/-- At the roots of a forest stand the first nodes of its items. -/
theorem filterMap_forestRoots (parent : Option Int) (items : List Item) (before : List Node)
    (line : Nat) :
    (forestRoots before.length items).filterMap
        (fun i => (before ++ forestNodes parent before.length line items)[i.toNat]?) =
      forestTops parent before.length line items := by
  induction items generalizing before line with
  | nil => rfl
  | cons item rest ih =>
      obtain ⟨inner, hinner⟩ := nodes_eq_cons parent before.length line item
      have hlength : (before ++ item.nodes parent before.length line).length =
          before.length + item.size := by
        rw [List.length_append, length_nodes]
      have htop : (before ++ (item.nodes parent before.length line ++
          forestNodes parent (before.length + item.size) (line + item.lines.length)
            rest))[before.length]? = some (item.top parent before.length line) := by
        rw [List.getElem?_append_right (Nat.le_refl _), Nat.sub_self, hinner]
        rfl
      -- what has been passed becomes part of what stands before
      have hrest := ih (before ++ item.nodes parent before.length line)
        (line + item.lines.length)
      rw [hlength, List.append_assoc] at hrest
      rw [forestRoots, forestNodes, forestTops, List.filterMap_cons, Int.toNat_natCast, htop,
        hrest]

theorem add_top (zones : Zones) (s : Summary) (parent : Option Int) (id line : Nat) (item : Item)
    (hdate : ∀ w, item = .property w → w.name ≠ "DTSTART" ∧ w.name ≠ "DTEND") :
    s.add zones (item.top parent id line) = pure (sumUp s item) := by
  cases item with
  | block ps value items => rfl
  | property w =>
      obtain ⟨hstart, hfinish⟩ := hdate w rfl
      have hname : (top parent id line (.property w)).name = w.name := rfl
      have hvalue : (top parent id line (.property w)).value = w.value := rfl
      generalize top parent id line (.property w) = n at hname hvalue
      rw [Summary.add, hname, hvalue, if_neg hstart, if_neg hfinish, sumUp]
      by_cases hduration : w.name = "DURATION"
      · rw [if_pos hduration, if_pos hduration]
      · rw [if_neg hduration, if_neg hduration]
        by_cases hrule : w.name = "RRULE"
        · rw [if_pos hrule, if_pos hrule]
        · rw [if_neg hrule, if_neg hrule]

/-- Items without a date at the root are summed up without a word. -/
theorem addAll_forestTops (zones : Zones) {items : List Item}
    (hdates : ∀ w, .property w ∈ items → w.name ≠ "DTSTART" ∧ w.name ≠ "DTEND")
    (s : Summary) (parent : Option Int) (id line : Nat) :
    s.addAll zones (forestTops parent id line items) = pure (items.foldl sumUp s) := by
  induction items generalizing s id line with
  | nil => rfl
  | cons item rest ih =>
      have hrest := ih fun w hw => hdates w (List.mem_cons_of_mem item hw)
      have hadd := add_top zones s parent id line item fun w hw =>
        hdates w (hw ▸ List.mem_cons_self)
      rw [forestTops, Summary.addAll, hadd, Report.pure_bind, hrest, List.foldl_cons]

/-! ## Reading a forest -/

/-- The document of a forest. -/
def document (items : List Item) : Document where
  nodes := (forestNodes none 0 1 items).toArray
  root := forestRoots 0 items
  summary := items.foldl sumUp {}

/-- The nesting of the lines of a forest leaves no block open, and nothing is said. -/
theorem nest_forestLines (strict : Bool) (h : ForestWellFormed items) :
    Reader.nest strict ((forestLines items).map (·.text) ++ [""]) =
      pure (extend {} (forestPlacements none 0 1 items)) := by
  have htokens := tokensOf_written (wellFormed_of_mem_forestLines items h) 1
  obtain ⟨hadmits, haccept⟩ := accepts_forest strict 1 items {} h
  rw [Reader.nest, Reader.addLines_of_admitsAll htokens hadmits, haccept]
  rfl

theorem documentOf_forest (zones : Zones) (h : ForestWellFormed items)
    (hdates : ∀ w, .property w ∈ items → w.name ≠ "DTSTART" ∧ w.name ≠ "DTEND") :
    Reader.documentOf zones (extend {} (forestPlacements none 0 1 items)) =
      ⟨[.documentRead (document items).digest], .ok (document items)⟩ := by
  have hnodes : (extend {} (forestPlacements none 0 1 items)).nodes =
      (forestNodes none 0 1 items).toArray := by
    rw [← nodes_extend_forest h, Array.toArray_toList]
  have htops := filterMap_forestRoots none items [] 1
  simp only [List.length_nil, List.nil_append] at htops
  rw [Reader.documentOf, Reader.documentFrom, hnodes, roots_extend_forest]
  simp only [List.getElem?_toArray, htops, addAll_forestTops zones hdates, Report.pure_bind]
  rfl

/-- **Reading undoes writing.** Whatever the forest is and however its parameter values
are quoted, a reader of either mode gets the document of the forest from its text,
and no event is above the level of debugging. -/
theorem read_forestText (r : Reader) (h : ForestWellFormed items)
    (hlines : ∀ w ∈ forestLines items, Unbroken w.chars)
    (hmark : (forestText items).toList.head? ≠ some Content.mark)
    (hdates : ∀ w, .property w ∈ items → w.name ≠ "DTSTART" ∧ w.name ≠ "DTEND")
    (hsize : ((forestText items).utf8ByteSize : Int) ≤ r.settings.maxContentBytes) :
    (r.read (.text (forestText items))).outcome = .ok (document items) ∧
      ∀ event ∈ (r.read (.text (forestText items))).events, event.level = .debug := by
  have hfits : (Content.text (forestText items)).Fits r.settings.maxContentBytes :=
    Content.fits_text.mpr hsize
  have hread : r.read (.text (forestText items)) =
      ⟨[.reading ((forestLines items).length + 1), .documentRead (document items).digest],
        .ok (document items)⟩ := by
    -- layer by layer: the size, the lines, the nesting, the document
    rw [Reader.read_of_fits hfits, lines_forestText hlines hmark]
    simp only [nest_forestLines _ h, Report.pure_bind, documentOf_forest r.zones h hdates,
      List.length_append, List.length_map, List.length_singleton]
    rfl
  rw [hread]
  refine ⟨rfl, ?_⟩
  intro event hevent
  rw [List.mem_cons, List.mem_singleton] at hevent
  rcases hevent with rfl | rfl <;> rfl

/-- A block with quoted and escaped delimiters inside, one without anything, and a property
behind them. -/
def nestedForest : List Item :=
  [.block [⟨⟨"P", "x;y"⟩, true⟩] "A"
    [.property ⟨"N\\:M", [⟨⟨"Q", "\\;z"⟩, false⟩], "1,2:3"⟩, .block [] "" []],
    .property ⟨"DURATION", [], "+P1S"⟩]

theorem read_forestText_nested :
    forestText nestedForest =
        "BEGIN;P=\"x;y\":A\r\nN\\:M;Q=\\;z:1,2:3\r\nBEGIN:\r\nEND:\r\nEND:A\r\nDURATION:+P1S\r\n" ∧
      document nestedForest = {
        nodes := #[
          { id := 0, kind := .block [1, 2], name := "BEGIN", parameters := [⟨"P", "x;y"⟩],
            value := "A", values := ["A"], lineNumber := 1 },
          { id := 1, kind := .property, name := "N\\:M", parameters := [⟨"Q", "\\;z"⟩],
            value := "1,2:3", values := ["1", "2:3"], parent := some 0, lineNumber := 2 },
          { id := 2, kind := .block [], name := "BEGIN", values := [""], parent := some 0,
            lineNumber := 3 },
          { id := 3, kind := .property, name := "DURATION", value := "+P1S", values := ["+P1S"],
            lineNumber := 6 }]
        root := [0, 3]
        summary := { duration := some "+P1S" } } ∧
      ((Reader.zoneless { strictBlocks := true }).read (.text (forestText nestedForest))).outcome =
        .ok (document nestedForest) ∧
      ∀ event ∈ ((Reader.zoneless { strictBlocks := true }).read
        (.text (forestText nestedForest))).events, event.level = .debug := by
  refine ⟨by decide +kernel, by decide +kernel, ?_⟩
  apply read_forestText
  · show ForestWellFormed nestedForest
    decide +kernel
  · show ∀ w ∈ forestLines nestedForest, Unbroken w.chars
    decide +kernel
  · show (forestText nestedForest).toList.head? ≠ some Content.mark
    decide +kernel
  · rintro w hw
    simp only [nestedForest, List.mem_cons, List.not_mem_nil, or_false, reduceCtorEq,
      property.injEq, false_or] at hw
    subst hw
    decide
  · decide +kernel

end Item

end VCalendar
