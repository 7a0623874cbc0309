import VCalendar.Document.Outline
import VCalendar.Proofs.Document.Preorder
import VCalendar.Proofs.Line.Grammar
import VCalendar.Proofs.Text.Quoted

/-!
# What an outline tells

An outline shows a document as indented labels and the fields of its summary. Main
statement: two documents that have been read, no name in which begins with a space, have
the same outline only if they have the same shape: the same nodes under the same names in
the same blocks, and the same summary, but for the instant it starts at.

The indentation of a line is the depth of its node. The depths of nodes in line order tell
which block each of them lies in, and a label tells a block from a property, as the name of
a property holds no colon that is not escaped.
-/

namespace VCalendar

/-! ## Indented labels -/

theorem replicate_append_inj {α : Type} {a : α} {m n : Nat} {xs ys : List α}
    (hxs : xs.head? ≠ some a) (hys : ys.head? ≠ some a)
    (h : List.replicate m a ++ xs = List.replicate n a ++ ys) : m = n ∧ xs = ys := by
  induction m generalizing n with
  | zero =>
      cases n with
      | zero => exact ⟨rfl, h⟩
      | succ n =>
          rw [List.replicate_zero, List.nil_append] at h
          exact absurd (congrArg List.head? h) hxs
  | succ m ih =>
      cases n with
      | zero =>
          rw [List.replicate_zero, List.nil_append] at h
          exact absurd (congrArg List.head? h).symm hys
      | succ n =>
          rw [List.replicate_succ, List.replicate_succ, List.cons_append, List.cons_append] at h
          obtain ⟨hmn, hsame⟩ := ih (List.cons.inj h).2
          exact ⟨congrArg (· + 1) hmn, hsame⟩

/-- A name ends before the first delimiter that is not escaped, and tells a block. -/
structure Node.Named (n : Node) : Prop where
  closed : Line.Closed [';', ':'] n.name.toList
  isBlock_iff : n.isBlock = true ↔ n.name = beginName
  space : n.name.toList.head? ≠ some ' '

namespace Node

variable {n n' : Node}

theorem toList_label (n : Node) :
    n.label.toList = n.name.toList ++ if n.isBlock then ':' :: n.value.toList else [] := by
  unfold label
  split <;> simp

/-- The label of a block is not the name of a property. -/
theorem Named.name_ne_label (h : n.Named) (h' : n'.Named) (hblock : n'.isBlock = true) :
    n.name.toList ≠ n'.label.toList := by
  intro heq
  have hclosed := h.closed
  rw [heq, toList_label, if_pos hblock, h'.isBlock_iff.mp hblock] at hclosed
  have hletters : ¬ Line.Closed [';', ':'] ("BEGIN".toList ++ ':' :: n'.value.toList) := by
    show ¬ Line.Closed [';', ':'] ('B' :: 'E' :: 'G' :: 'I' :: 'N' :: ':' :: n'.value.toList)
    simp [Line.closed_plain_iff]
  exact hletters hclosed

theorem Named.head?_label (h : n.Named) : n.label.toList.head? ≠ some ' ' := by
  rw [toList_label]
  cases hname : n.name.toList with
  | nil => split <;> simp
  | cons c cs =>
      have hspace := h.space
      rw [hname] at hspace
      exact hspace

theorem Named.label_inj (h : n.Named) (h' : n'.Named) (heq : n.label = n'.label) :
    n.name = n'.name ∧ n.isBlock = n'.isBlock ∧ n.blockName = n'.blockName := by
  have hchars : n.label.toList = n'.label.toList := congrArg String.toList heq
  cases hblock : n.isBlock with
  | false =>
      cases hblock' : n'.isBlock with
      | false =>
          rw [toList_label, toList_label, hblock, hblock'] at hchars
          refine ⟨String.toList_inj.mp (by simpa using hchars), rfl, ?_⟩
          rw [blockName, blockName, hblock, hblock']
          rfl
      | true =>
          refine absurd ?_ (h.name_ne_label h' hblock')
          rw [← hchars, toList_label, hblock]
          simp
  | true =>
      cases hblock' : n'.isBlock with
      | false =>
          refine absurd ?_ (h'.name_ne_label h hblock)
          rw [hchars, toList_label, hblock']
          simp
      | true =>
          have hname : n.name = n'.name :=
            (h.isBlock_iff.mp hblock).trans (h'.isBlock_iff.mp hblock').symm
          rw [toList_label, toList_label, hblock, hblock', hname] at hchars
          have hvalue : n.value = n'.value :=
            String.toList_inj.mp (List.cons.inj (List.append_cancel_left hchars)).2
          refine ⟨hname, rfl, ?_⟩
          rw [blockName, blockName, hblock, hblock', hvalue]

end Node

theorem Visit.line_inj {v v' : Visit} (h : v.node.Named) (h' : v'.node.Named)
    (heq : v.line = v'.line) : v.depth = v'.depth ∧ v.node.label = v'.node.label := by
  have hchars : List.replicate (2 * v.depth) ' ' ++ v.node.label.toList =
      List.replicate (2 * v'.depth) ' ' ++ v'.node.label.toList := by
    simpa [line, indent] using congrArg String.toList heq
  obtain ⟨hdepth, hlabel⟩ := replicate_append_inj h.head?_label h'.head?_label hchars
  exact ⟨Nat.eq_of_mul_eq_mul_left (by decide) hdepth, String.toList_inj.mp hlabel⟩

/-! ## Depths and parents -/

/-- A node is the last one before another that is less deep. -/
structure Encloses (depth : Nat → Nat) (p i : Nat) : Prop where
  lt : p < i
  depth_eq : depth i = depth p + 1
  between : ∀ j, p < j → j < i → depth p < depth j

namespace Encloses

variable {depth depth' : Nat → Nat} {i p q : Nat}

theorem unique (h : Encloses depth p i) (h' : Encloses depth q i) : p = q := by
  have hp := h.depth_eq
  have hq := h'.depth_eq
  rcases Nat.lt_trichotomy p q with hlt | heq | hlt
  · have hbetween := h.between q hlt h'.lt
    omega
  · exact heq
  · have hbetween := h'.between p hlt h.lt
    omega

theorem congr (h : Encloses depth p i) (hsame : ∀ j ≤ i, depth j = depth' j) :
    Encloses depth' p i where
  lt := h.lt
  depth_eq := by
    rw [← hsame i (Nat.le_refl i), ← hsame p (Nat.le_of_lt h.lt)]
    exact h.depth_eq
  between j hpj hji := by
    rw [← hsame p (Nat.le_of_lt h.lt), ← hsame j (Nat.le_of_lt hji)]
    exact h.between j hpj hji

end Encloses

namespace Document

variable {d d' : Document} {depth depth' : Nat → Nat} {i : Nat} {n n' : Node}

/-- Between a block and a node in it all nodes are deeper than the block. -/
theorem Preordered.depth_lt (h : d.Preordered depth) (harena : d.Arena) {j p : Nat} {m : Node}
    (hn : d.nodes[i]? = some n) (hparent : n.parent = some (p : Int)) (hpj : p < j) (hji : j < i)
    (hm : d.nodes[j]? = some m) : depth p < depth j := by
  -- by induction on the position: the block around the node lies behind `p`, or is `p`
  induction j using Nat.strongRecOn generalizing m with
  | ind j ih =>
      obtain ⟨q, hq, hpq⟩ := h.enclosed hn hparent hpj hji hm
      have hdepth := h.depth_child hm hq
      rcases Nat.eq_or_lt_of_le hpq with rfl | hlt
      · omega
      · obtain ⟨q', k, hsame, hqj, hk, -⟩ := harena.parent hm hq
        obtain rfl : q = q' := Int.ofNat.inj hsame
        have hq := ih q hqj hlt (Nat.lt_trans hqj hji) hk
        omega

theorem Preordered.encloses (h : d.Preordered depth) (harena : d.Arena) {p : Nat}
    (hn : d.nodes[i]? = some n) (hparent : n.parent = some (p : Int)) : Encloses depth p i where
  lt := by
    obtain ⟨q, _, hsame, hlt, -, -⟩ := harena.parent hn hparent
    obtain rfl : p = q := Int.ofNat.inj hsame
    exact hlt
  depth_eq := h.depth_child hn hparent
  between j hpj hji := by
    have hj : j < d.nodes.size := Nat.lt_trans hji (Array.getElem?_eq_some_iff.mp hn).1
    exact h.depth_lt harena hn hparent hpj hji (Array.getElem?_eq_getElem hj)

/-- **Depths in line order determine parents.** -/
theorem Preordered.parent_eq (h : d.Preordered depth) (h' : d'.Preordered depth')
    (harena : d.Arena) (harena' : d'.Arena) (hdepth : ∀ j ≤ i, depth j = depth' j)
    (hn : d.nodes[i]? = some n) (hn' : d'.nodes[i]? = some n') : n.parent = n'.parent := by
  have hi := hdepth i (Nat.le_refl i)
  cases hp : n.parent with
  | none =>
      have hroot := h.depth_root hn hp
      cases hp' : n'.parent with
      | none => rfl
      | some p' =>
          obtain ⟨q', _, rfl, -⟩ := harena'.parent hn' hp'
          have hchild := h'.depth_child hn' hp'
          omega
  | some p =>
      obtain ⟨q, _, rfl, -⟩ := harena.parent hn hp
      have hencloses := (h.encloses harena hn hp).congr hdepth
      cases hp' : n'.parent with
      | none =>
          have hroot := h'.depth_root hn' hp'
          have hchild := hencloses.depth_eq
          omega
      | some p' =>
          obtain ⟨q', _, rfl, -⟩ := harena'.parent hn' hp'
          rw [hencloses.unique (h'.encloses harena' hn' hp')]

theorem positionsIn_congr (hsize : d.nodes.size = d'.nodes.size)
    (hparents : ∀ {i : Nat} {n n' : Node}, d.nodes[i]? = some n → d'.nodes[i]? = some n' →
      n.parent = n'.parent) (parent : Option Int) :
    d.positionsIn parent = d'.positionsIn parent := by
  unfold positionsIn
  rw [← hsize]
  refine congrArg (List.map Int.ofNat) (List.filter_congr ?_)
  intro i hi
  have hlt : i < d.nodes.size := List.mem_range.mp hi
  have hlt' : i < d'.nodes.size := hsize ▸ hlt
  have hn : d.nodes[i]? = some d.nodes[i] := Array.getElem?_eq_getElem hlt
  have hn' : d'.nodes[i]? = some d'.nodes[i] := Array.getElem?_eq_getElem hlt'
  rw [hn, hn', Option.any_some, Option.any_some, hparents hn hn']

end Document

/-! ## Documents that have been read -/

theorem mem_tokensOf {lines : List (String × Nat)} {ts : List NumberedToken} {t : NumberedToken}
    (h : tokensOf lines = .ok ts) (ht : t ∈ ts) : ∃ line, Line.tokenize line = .ok t.token := by
  induction lines generalizing ts with
  | nil =>
      cases h
      cases ht
  | cons entry rest ih =>
      obtain ⟨line, number⟩ := entry
      by_cases hempty : line = ""
      · rw [hempty, tokensOf_empty] at h
        exact ih h ht
      · obtain ⟨token, ts', htoken, hrest, rfl⟩ := tokensOf_cons_eq_ok hempty h
        rcases List.mem_cons.mp ht with rfl | ht
        · exact ⟨line, htoken⟩
        · exact ih hrest ht

/-- The names in a document end before the first delimiter that is not escaped. -/
theorem closed_name_of_read {r : Reader} {content : Content} {d : Document}
    (h : (r.read content).outcome = .ok d) {i : Nat} {n : Node} (hn : d.nodes[i]? = some n) :
    Line.Closed [';', ':'] n.name.toList := by
  obtain ⟨ts, hts, hnodes, -⟩ := Reader.read_eq_ok h
  obtain ⟨x, hx, rfl⟩ := Nesting.eq_nodeOf_of_getElem? hnodes hn
  have hnumbered := List.mem_map_of_mem (Array.mem_toList_iff.mpr (Array.mem_of_getElem? hx))
    (f := Placed.numbered)
  rw [Nesting.numbered_run, List.mem_filter] at hnumbered
  obtain ⟨line, hline⟩ := mem_tokensOf hts hnumbered.1
  obtain ⟨w, ⟨hwritten, -⟩, hw⟩ := Line.written_of_tokenize hline
  have hname : w.name = x.token.name := congrArg Token.name hw
  show Line.Closed [';', ':'] x.token.name.toList
  rw [← hname]
  exact hwritten.name

/-! ## Shapes -/

/-- Two visits show nodes with the same place and name, blocks also with the same children
and block name. -/
structure Visit.Alike (v v' : Visit) : Prop where
  depth : v.depth = v'.depth
  id : v.node.id = v'.node.id
  parent : v.node.parent = v'.node.parent
  kind : v.node.kind = v'.node.kind
  name : v.node.name = v'.node.name
  blockName : v.node.blockName = v'.node.blockName

/-- Two documents have nodes in the same places and under the same names, and summaries that
agree on everything that is text. -/
structure Document.SameShape (d d' : Document) : Prop where
  size : d.nodes.size = d'.nodes.size
  /-- The walks visit all nodes in the order of their positions. -/
  visits : ∃ visits visits', d.walk = .ok visits ∧ d'.walk = .ok visits' ∧
    visits.map (·.node) = d.nodes.toList ∧ visits'.map (·.node) = d'.nodes.toList ∧
    ∀ (i : Nat) (v v' : Visit), visits[i]? = some v → visits'[i]? = some v' → v.Alike v'
  root : d.root = d'.root
  dtstart : d.summary.dtstart = d'.summary.dtstart
  tzid : d.summary.tzid = d'.summary.tzid
  duration : d.summary.duration = d'.summary.duration
  rrule : d.summary.rrule = d'.summary.rrule
  allDay : d.summary.allDay = d'.summary.allDay

theorem Node.kind_eq (n : Node) : n.kind = if n.isBlock then .block n.children else .property := by
  unfold isBlock children
  cases n.kind <;> rfl

theorem Value.boolText_inj {b b' : Bool} (h : boolText b = boolText b') : b = b' := by
  cases b <;> cases b' <;> first | rfl | exact absurd h (by decide)

/-- The lines of a summary tell all that they show of it. -/
theorem Summary.lines_inj {s s' : Summary} (h : s.lines = s'.lines) :
    s.dtstart = s'.dtstart ∧ s.tzid = s'.tzid ∧ s.duration = s'.duration ∧
      s.rrule = s'.rrule ∧ s.allDay = s'.allDay := by
  simp only [lines, List.cons.injEq, String.append_right_inj, and_true] at h
  obtain ⟨hdtstart, htzid, hduration, hrrule, hallDay⟩ := h
  exact ⟨Text.quote?_inj hdtstart, Text.quote?_inj htzid, Text.quote?_inj hduration,
    Text.quote?_inj hrrule, Value.boolText_inj hallDay⟩

namespace Document

variable {d d' : Document} {depth depth' : Nat → Nat}

theorem Preordered.outline_eq (h : d.Preordered depth) (harena : d.Arena) :
    d.outline = .ok ((d.visitsInOrder depth).map Visit.line ++ d.summary.lines) := by
  rw [outline, h.walk_eq harena]
  rfl

/-- Nodes in two documents, with their names and lines, that have the same line in both. -/
theorem alike_of_lines (h : d.Preordered depth) (h' : d'.Preordered depth')
    (harena : d.Arena) (harena' : d'.Arena)
    (hnamed : ∀ {i : Nat} {n : Node}, d.nodes[i]? = some n → n.Named)
    (hnamed' : ∀ {i : Nat} {n : Node}, d'.nodes[i]? = some n → n.Named)
    (hlines : (d.visitsInOrder depth).map Visit.line = (d'.visitsInOrder depth').map Visit.line) :
    d.nodes.size = d'.nodes.size ∧ d.root = d'.root ∧
      ∀ (i : Nat) (v v' : Visit), (d.visitsInOrder depth)[i]? = some v →
        (d'.visitsInOrder depth')[i]? = some v' → v.Alike v' := by
  have hsize : d.nodes.size = d'.nodes.size := by
    have hlength := congrArg List.length hlines
    rw [List.length_map, List.length_map, length_visitsInOrder, length_visitsInOrder] at hlength
    exact hlength
  have hline : ∀ {i : Nat} {n n' : Node}, d.nodes[i]? = some n → d'.nodes[i]? = some n' →
      depth i = depth' i ∧ n.label = n'.label := by
    intro i n n' hn hn'
    have hsame := congrArg (·[i]?) hlines
    simp only [List.getElem?_map, getElem?_visitsInOrder, hn, hn', Option.map_some] at hsame
    exact Visit.line_inj (hnamed hn) (hnamed' hn') (Option.some.inj hsame)
  have hdepth : ∀ {i : Nat}, i < d.nodes.size → ∀ j ≤ i, depth j = depth' j := by
    intro i hi j hj
    have hlt : j < d.nodes.size := Nat.lt_of_le_of_lt hj hi
    exact (hline (Array.getElem?_eq_getElem hlt) (Array.getElem?_eq_getElem (hsize ▸ hlt))).1
  have hparent : ∀ {i : Nat} {n n' : Node}, d.nodes[i]? = some n → d'.nodes[i]? = some n' →
      n.parent = n'.parent := by
    intro i n n' hn hn'
    exact h.parent_eq h' harena harena' (hdepth (Array.getElem?_eq_some_iff.mp hn).1) hn hn'
  have hpositions := positionsIn_congr hsize hparent
  refine ⟨hsize, by rw [harena.root, harena'.root, hpositions], ?_⟩
  intro i v v' hv hv'
  rw [getElem?_visitsInOrder] at hv hv'
  obtain ⟨n, hn, rfl⟩ := Option.map_eq_some_iff.mp hv
  obtain ⟨n', hn', rfl⟩ := Option.map_eq_some_iff.mp hv'
  obtain ⟨hsame, hlabel⟩ := hline hn hn'
  obtain ⟨hname, hblock, hblockName⟩ := (hnamed hn).label_inj (hnamed' hn') hlabel
  refine ⟨hsame, (harena.id hn).trans (harena'.id hn').symm, hparent hn hn', ?_, hname, hblockName⟩
  show n.kind = n'.kind
  rw [n.kind_eq, n'.kind_eq, hblock]
  split
  · rename_i hblock'
    rw [harena.children hn (hblock.trans hblock'), harena'.children hn' hblock', hpositions]
  · rfl

/-- **An outline determines the shape.** This holds of any two documents that have been read,
by any readers, if no name in them begins with a space: such a name would look like one that
lies deeper. -/
theorem sameShape_of_outline {r r' : Reader} {content content' : Content}
    (h : (r.read content).outcome = .ok d) (h' : (r'.read content').outcome = .ok d')
    (hspace : ∀ n ∈ d.nodes, n.name.toList.head? ≠ some ' ')
    (hspace' : ∀ n ∈ d'.nodes, n.name.toList.head? ≠ some ' ')
    (houtline : d.outline = d'.outline) : d.SameShape d' := by
  have harena := arena_of_read h
  have harena' := arena_of_read h'
  obtain ⟨depth, hpreordered⟩ := preordered_of_read h
  obtain ⟨depth', hpreordered'⟩ := preordered_of_read h'
  rw [hpreordered.outline_eq harena, hpreordered'.outline_eq harena'] at houtline
  obtain ⟨hlines, hsummary⟩ := List.append_inj' (Except.ok.inj houtline) rfl
  have hnamed : ∀ {i : Nat} {n : Node}, d.nodes[i]? = some n → n.Named := fun hn =>
    ⟨closed_name_of_read h hn, harena.isBlock_iff hn, hspace _ (Array.mem_of_getElem? hn)⟩
  have hnamed' : ∀ {i : Nat} {n : Node}, d'.nodes[i]? = some n → n.Named := fun hn =>
    ⟨closed_name_of_read h' hn, harena'.isBlock_iff hn, hspace' _ (Array.mem_of_getElem? hn)⟩
  obtain ⟨hsize, hroot, halike⟩ :=
    alike_of_lines hpreordered hpreordered' harena harena' hnamed hnamed' hlines
  obtain ⟨hdtstart, htzid, hduration, hrrule, hallDay⟩ := Summary.lines_inj hsummary
  exact ⟨hsize, ⟨_, _, hpreordered.walk_eq harena, hpreordered'.walk_eq harena',
    node_visitsInOrder, node_visitsInOrder, halike⟩, hroot, hdtstart, htzid, hduration, hrrule,
    hallDay⟩

def pairedText : String := "BEGIN:A\r\nP:1\r\nEND:A\r\nDTSTART:20230615\r\n"

/-- Another text with the same outline: the value of the property, its parameters and the
name that the block is closed with are not shown. -/
def unpairedText : String := "BEGIN:A\nP;Q=r:2\nEND:B\n\nDTSTART;S=t:20230615"

def pairedDocument : Document where
  nodes := #[
    { id := 0, kind := .block [1], name := "BEGIN", value := "A", values := ["A"], lineNumber := 1 },
    { id := 1, kind := .property, name := "P", value := "1", values := ["1"], parent := some 0,
      lineNumber := 2 },
    { id := 2, kind := .property, name := "DTSTART", value := "20230615", values := ["20230615"],
      lineNumber := 4 }]
  root := [0, 2]
  summary := unbalancedDocument.summary

def unpairedDocument : Document where
  nodes := #[
    { id := 0, kind := .block [1], name := "BEGIN", value := "A", values := ["A"], lineNumber := 1 },
    { id := 1, kind := .property, name := "P", parameters := [⟨"Q", "r"⟩], value := "2",
      values := ["2"], parent := some 0, lineNumber := 2 },
    { id := 2, kind := .property, name := "DTSTART", parameters := [⟨"S", "t"⟩],
      value := "20230615", values := ["20230615"], lineNumber := 5 }]
  root := [0, 2]
  summary := unbalancedDocument.summary

def pairedOutline : List String :=
  ["BEGIN:A", "  P", "DTSTART", "dtstart='20230615'", "tzid=None", "duration=None", "rrule=None",
    "all_day=True"]

def strictReader : Reader := .zoneless { strictBlocks := true }

theorem sameShape_of_outline_paired :
    (strictReader.read (.text pairedText)).outcome = .ok pairedDocument ∧
      ((Reader.zoneless {}).read (.text unpairedText)).outcome = .ok unpairedDocument ∧
      pairedDocument.outline = .ok pairedOutline ∧
      pairedDocument.SameShape unpairedDocument := by
  have hread : (strictReader.read (.text pairedText)).outcome = .ok pairedDocument :=
    eq_ok_of_toOption (by decide +kernel)
  have hread' : ((Reader.zoneless {}).read (.text unpairedText)).outcome = .ok unpairedDocument :=
    eq_ok_of_toOption (by decide +kernel)
  have houtline : pairedDocument.outline = .ok pairedOutline :=
    eq_ok_of_toOption (by decide +kernel)
  have houtline' : unpairedDocument.outline = .ok pairedOutline :=
    eq_ok_of_toOption (by decide +kernel)
  exact ⟨hread, hread', houtline, sameShape_of_outline hread hread' (by decide +kernel)
    (by decide +kernel) (houtline.trans houtline'.symm)⟩

end Document

end VCalendar
