import VCalendar.Proofs.Nesting.Coherence

/-!
# The builder follows the stack

The builder keeps the links between drafts as they arise and finds the open blocks by
going outwards from the innermost one; the nesting keeps the open blocks as a stack and
finds the links from the parents. Main statement: both read a text alike. They note the
same and refuse the same, and in the end the drafts are the nodes of the nesting, links
included.

One step of the builder keeps the relation to the stack, and every run is made of steps.
-/

namespace VCalendar

/-! ## Reports that are alike -/

/-- Two reports note the same, and come to the same error or to related values. -/
inductive Report.Alike {ε α β : Type} (R : α → β → Prop) : Report ε α → Report ε β → Prop
  | ok {events : List Event} {a : α} {b : β} : R a b → Alike R ⟨events, .ok a⟩ ⟨events, .ok b⟩
  | error {events : List Event} {e : ε} : Alike R ⟨events, .error e⟩ ⟨events, .error e⟩

namespace Report

variable {ε ε' α β γ δ : Type} {R : α → β → Prop} {S : γ → δ → Prop}
  {r : Report ε α} {r' : Report ε β}

theorem Alike.refl {R : α → α → Prop} (hR : ∀ a, R a a) (r : Report ε α) : Alike R r r := by
  obtain ⟨events, outcome⟩ := r
  cases outcome with
  | error e => exact .error
  | ok a => exact .ok (hR a)

theorem Alike.bind {f : α → Report ε γ} {g : β → Report ε δ} (h : Alike R r r')
    (hstep : ∀ a b, R a b → Alike S (f a) (g b)) : Alike S (r >>= f) (r' >>= g) := by
  cases h with
  | error => exact .error
  | @ok events a b hab =>
      rw [bind_of_ok rfl, bind_of_ok rfl]
      generalize hf : f a = x
      generalize hg : g b = y
      have hstep := hstep a b hab
      rw [hf, hg] at hstep
      cases hstep with
      | error => exact .error
      | ok hcd => exact .ok hcd

theorem Alike.mapError (h : Alike R r r') (f : ε → ε') :
    Alike R (r.mapError f) (r'.mapError f) := by
  cases h with
  | error => exact .error
  | ok hab => exact .ok hab

theorem Alike.eq {r r' : Report ε α} (h : Alike Eq r r') : r = r' := by
  cases h with
  | error => rfl
  | ok hab => rw [hab]

theorem Alike.error_iff (h : Alike R r r') (e : ε) :
    r.outcome = .error e ↔ r'.outcome = .error e := by
  cases h with
  | error => exact ⟨fun he => by cases he; rfl, fun he => by cases he; rfl⟩
  | ok => exact iff_of_false nofun nofun

theorem Alike.exists_left (h : Alike R r r') {b : β} (hb : r'.outcome = .ok b) :
    ∃ a, r.outcome = .ok a ∧ R a b := by
  cases h with
  | error => cases hb
  | ok hab =>
      cases hb
      exact ⟨_, rfl, hab⟩

theorem Alike.exists_right (h : Alike R r r') {a : α} (ha : r.outcome = .ok a) :
    ∃ b, r'.outcome = .ok b ∧ R a b := by
  cases h with
  | error => cases ha
  | ok hab =>
      cases ha
      exact ⟨_, rfl, hab⟩

end Report

/-! ## Positions by parent -/

namespace Nesting

variable {n : Nesting} {b : Builder}

theorem within_place (n : Nesting) (token : Token) (line : Nat) (parent : Option Nat) :
    (n.place token line).within parent = n.within parent ++
      if n.opened.head?.map (·.position) = parent then [n.placed.size] else [] := by
  show ((n.placed.push _).toList.zipIdx.filterMap _) = _
  rw [Array.toList_push, List.zipIdx_append, List.filterMap_append, List.zipIdx_singleton,
    Array.length_toList, Nat.zero_add, List.filterMap_cons, List.filterMap_nil]
  unfold within
  congr 1
  split <;> split <;> simp_all

/-- Nothing lies in a block that is not there yet. -/
theorem Coherent.within_size (h : n.Coherent) : n.within (some n.placed.size) = [] := by
  unfold within
  rw [List.filterMap_eq_nil_iff]
  rintro ⟨x, i⟩ hx
  have hi : n.placed[i]? = some x := by
    rw [← Array.getElem?_toList]
    exact List.mem_zipIdx_iff_getElem?.mp hx
  have hlt : i < n.placed.size := (Array.getElem?_eq_some_iff.mp hi).1
  refine if_neg fun hparent => ?_
  exact Nat.lt_asymm hlt (h.parent_lt hi hparent)

/-- The draft of a placed token: a block lists what lies in it. -/
def draftOf (n : Nesting) (i : Nat) (x : Placed) : Draft where
  token := x.token
  parent := x.parent
  line := x.line
  children := if x.token.name = beginName then some (n.within (some i)).toArray else none

end Nesting

/-! ## The relation -/

/-- A builder keeps what a nesting amounts to: its drafts are the placed tokens with what
lies in them, it lists what lies in no block, and it knows the innermost open block. -/
structure Builder.Follows (b : Builder) (n : Nesting) : Prop where
  coherent : n.Coherent
  drafts : b.drafts = n.placed.mapIdx n.draftOf
  root : b.root.toList = n.within none
  current : b.current = n.opened.head?.map (·.position)

namespace Builder

variable {b : Builder} {n : Nesting} {strict : Bool} {token : Token} {number : Nat}
  {line : String}

theorem follows_empty : empty.Follows {} where
  coherent := Nesting.coherent_empty
  drafts := rfl
  root := rfl
  current := rfl

namespace Follows

theorem size_eq (h : b.Follows n) : b.drafts.size = n.placed.size := by
  rw [h.drafts, Array.size_mapIdx]

theorem getElem?_drafts (h : b.Follows n) (i : Nat) :
    b.drafts[i]? = n.placed[i]?.map (n.draftOf i) := by
  rw [h.drafts, Array.getElem?_mapIdx]

/-- The current block has been placed. -/
theorem current_ne_size (h : b.Follows n) : b.current ≠ some n.placed.size := by
  intro hcurrent
  have hlt := (b.inside _ hcurrent).lt
  rw [h.size_eq] at hlt
  exact Nat.lt_irrefl _ hlt

/-- A new token is listed where it lies, and no other list changes. -/
theorem draftOf_place (h : b.Follows n) (i : Nat) (x : Placed) :
    (n.place token number).draftOf i x =
      if b.current = some i then (n.draftOf i x).adopt n.placed.size else n.draftOf i x := by
  simp only [Nesting.draftOf, n.within_place, ← h.current, Draft.adopt]
  by_cases hcurrent : b.current = some i
  · by_cases hbegin : x.token.name = beginName <;> simp [hcurrent, hbegin]
  · simp [hcurrent]

theorem place (h : b.Follows n) (token : Token) (number : Nat) :
    (b.place token number).Follows (n.place token number) where
  coherent := h.coherent.place token number
  drafts := by
    have hsize := h.size_eq
    apply Array.ext_getElem?
    intro i
    have hlisted : ∀ x, (n.place token number).draftOf i x = _ := h.draftOf_place i
    show (Drafts.link (b.drafts.push _) b.current _)[i]? = _
    rw [Drafts.getElem?_link, Array.getElem?_mapIdx]
    show _ = ((n.placed.push _)[i]?).map _
    rw [Array.getElem?_push, Array.getElem?_push, hsize]
    by_cases hi : i = n.placed.size
    · -- the new draft is in no list but that of its parent, and lists nothing itself
      subst hi
      rw [if_pos rfl, if_pos rfl, Option.map_some, Option.map_some, hlisted,
        if_neg h.current_ne_size, if_neg h.current_ne_size, Nesting.draftOf,
        h.coherent.within_size, h.current]
    · rw [if_neg hi, if_neg hi, h.getElem?_drafts, Option.map_map]
      congr 1
      funext x
      exact (hlisted x).symm
  root := by
    show (if b.current.isNone then b.root.push b.drafts.size else b.root).toList = _
    rw [n.within_place, ← h.current, h.size_eq]
    cases b.current with
    | none => simp [h.root]
    | some i => simp [h.root]
  current := by
    show (if token.name = beginName then some b.drafts.size else b.current) = _
    unfold Nesting.place
    dsimp only
    split
    · rw [h.size_eq]
      rfl
    · exact h.current

/-! ## Open blocks -/

/-- The draft of an open block shows its opening and the block around it. -/
theorem draft_of_opens {block : OpenBlock} {outer : List OpenBlock} {x : Placed}
    (h : b.Follows n) (hx : Nesting.Opens n.placed block outer x)
    (hi : block.position < b.drafts.size) :
    b.drafts[block.position].opening = block.opening ∧
      b.drafts[block.position].parent = outer.head?.map (·.position) := by
  have hdraft : b.drafts[block.position] = n.draftOf block.position x := by
    have hsome := h.getElem?_drafts block.position
    rw [hx.placed, Array.getElem?_eq_getElem hi] at hsome
    exact Option.some.inj hsome
  rw [hdraft]
  refine ⟨?_, hx.parent⟩
  simp only [Draft.opening, Nesting.draftOf, hx.value, hx.line]

/-- Going outwards from an open block leads through the blocks below it on the stack. -/
theorem outwards_eq (h : b.Follows n) {block : OpenBlock} {outer : List OpenBlock}
    (hchain : Nesting.Chain n.placed (block :: outer)) (hi : block.position < b.drafts.size) :
    (b.outwards block.position hi).map Draft.opening = (block :: outer).map (·.opening) := by
  induction outer generalizing block with
  | nil =>
      obtain ⟨⟨x, hx⟩, -⟩ := hchain
      obtain ⟨hopening, hparent⟩ := h.draft_of_opens hx hi
      rw [outwards]
      split
      · simp [hopening]
      · rename_i p hp
        cases hp.symm.trans hparent
  | cons next outer ih =>
      obtain ⟨⟨x, hx⟩, houter⟩ := hchain
      obtain ⟨hopening, hparent⟩ := h.draft_of_opens hx hi
      rw [outwards]
      split
      · rename_i hnone
        cases hnone.symm.trans hparent
      · rename_i p hp
        cases hp.symm.trans hparent
        rw [List.map_cons, hopening, ih houter]
        rfl

/-- **The open blocks.** What the builder finds are the blocks on the stack. -/
theorem unclosed_eq (h : b.Follows n) : b.unclosed.map Draft.opening = n.blocks := by
  have hcurrent := h.current
  unfold unclosed Nesting.blocks
  cases hopened : n.opened with
  | nil =>
      rw [hopened] at hcurrent
      split
      · rfl
      · rename_i i hi
        cases hi.symm.trans hcurrent
  | cons block outer =>
      have hchain := h.coherent.chain
      rw [hopened] at hcurrent hchain
      split
      · rename_i hnone
        cases hnone.symm.trans hcurrent
      · rename_i i hi
        cases hi.symm.trans hcurrent
        exact h.outwards_eq hchain _

/-! ## Steps -/

theorem close (h : b.Follows n) :
    Report.Alike Follows (b.close strict token number line) (n.close strict token number line) := by
  have hcurrent := h.current
  unfold Builder.close Nesting.close
  cases hopened : n.opened with
  | nil =>
      rw [hopened] at hcurrent
      split
      · dsimp only
        split
        · exact .error
        · exact .ok h
      · rename_i i hi
        cases hi.symm.trans hcurrent
  | cons block outer =>
      have hchain := h.coherent.chain
      rw [hopened] at hcurrent hchain
      obtain ⟨⟨x, hx⟩, -⟩ := hchain
      split
      · rename_i hnone
        cases hnone.symm.trans hcurrent
      · rename_i i hi
        cases hi.symm.trans hcurrent
        have hlt : block.position < b.drafts.size := (b.inside _ hi).lt
        obtain ⟨hopening, hparent⟩ := h.draft_of_opens hx hlt
        have hname : b.drafts[block.position].token.value = block.opening.name :=
          congrArg OpenLine.name hopening
        dsimp only
        rw [hname, hopening]
        split
        · exact .error
        · refine .ok ⟨?_, h.drafts, h.root, hparent⟩
          have hclosed := h.coherent.close
          rw [hopened] at hclosed
          exact hclosed

theorem add (h : b.Follows n) :
    Report.Alike Follows (b.add strict token number line) (n.add strict token number line) := by
  unfold Builder.add Nesting.add
  split
  · exact h.close
  · exact .ok (h.place token number)

theorem finish (h : b.Follows n) : b.finish strict = n.finish strict := by
  have hunclosed := h.unclosed_eq
  unfold Builder.finish Nesting.finish
  rw [hunclosed, Nesting.blocks]
  cases n.opened with
  | nil => rfl
  | cons block outer => rfl

/-! ## The arena -/

theorem nodes_eq (h : b.Follows n) : b.nodes = n.nodes := by
  unfold Builder.nodes Nesting.nodes
  apply Array.ext_getElem?
  intro i
  rw [Array.getElem?_mapIdx, Array.getElem?_mapIdx, h.getElem?_drafts, Option.map_map]
  congr 1
  funext x
  by_cases hbegin : x.token.name = beginName
  · simp [Builder.nodeOf, Nesting.nodeOf, Nesting.draftOf, hbegin]
  · simp [Builder.nodeOf, Nesting.nodeOf, Nesting.draftOf, hbegin]

theorem roots_eq (h : b.Follows n) : b.roots = n.roots := by
  rw [roots, h.root]
  rfl

end Follows

end Builder

/-! ## Runs -/

namespace Reader

variable {b : Builder} {n : Nesting} {strict : Bool}

theorem buildLine_alike (h : b.Follows n) (line : String) (number : Nat) :
    Report.Alike Builder.Follows (buildLine strict b line number)
      (addLine strict n line number) := by
  unfold buildLine addLine
  cases Line.tokenize line with
  | error flaw => exact .error
  | ok token => exact h.add.mapError _

theorem buildLines_alike (h : b.Follows n) (lines : List (String × Nat)) :
    Report.Alike Builder.Follows (buildLines strict b lines) (addLines strict n lines) := by
  induction lines generalizing b n with
  | nil => exact .ok h
  | cons numbered rest ih =>
      obtain ⟨line, number⟩ := numbered
      rw [buildLines, addLines]
      split
      · exact ih h
      · exact (buildLine_alike h line number).bind fun _ _ hnext => ih hnext

/-- **The builder follows the stack.** Whatever the mode and the lines, both note the same
and come to the same error, or to drafts and a stack that belong together. -/
theorem build_alike (strict : Bool) (lines : List String) :
    Report.Alike Builder.Follows (build strict lines) (nest strict lines) := by
  refine (buildLines_alike Builder.follows_empty _).bind fun b n h => ?_
  rw [h.finish]
  exact (Report.Alike.refl (R := fun _ _ => True) (fun _ => trivial) _).bind fun _ _ _ => .ok h

theorem exists_build_iff (strict : Bool) (lines : List String) :
    (∃ b, (build strict lines).outcome = .ok b) ↔ ∃ n, (nest strict lines).outcome = .ok n := by
  have halike := build_alike strict lines
  constructor
  · rintro ⟨b, hb⟩
    obtain ⟨n, hn, -⟩ := halike.exists_right hb
    exact ⟨n, hn⟩
  · rintro ⟨n, hn⟩
    obtain ⟨b, hb, -⟩ := halike.exists_left hn
    exact ⟨b, hb⟩

/-- The document that is built is the document of the nesting. -/
theorem build_documentFrom (strict : Bool) (zones : Zones) (lines : List String) :
    (build strict lines >>= fun b => documentFrom zones b.nodes b.roots) =
      nest strict lines >>= documentOf zones := by
  refine Report.Alike.eq ((build_alike strict lines).bind fun b n h => ?_)
  rw [h.nodes_eq, h.roots_eq]
  exact .refl (fun _ => rfl) _

/-! ## Documents as runs -/

theorem read_of_broken {r : Reader} {content : Content} {flaw : Text.EncodingFlaw}
    (h : content.size = .error flaw) : r.read content = Report.fail (.unencodable flaw) := by
  rw [read, h]

theorem read_of_tooLarge {r : Reader} {content : Content} {size : Nat}
    (hsize : content.size = .ok size) (hlarge : r.settings.maxContentBytes < size) :
    r.read content = ⟨[.contentTooLarge size r.settings.maxContentBytes],
      .error (.tooLarge size r.settings.maxContentBytes)⟩ := by
  rw [read, hsize]
  simp only [if_pos hlarge]
  rfl

/-- What reading a content that fits comes to: its nesting, and the document of that. -/
theorem read_of_fits {r : Reader} {content : Content}
    (h : content.Fits r.settings.maxContentBytes) :
    r.read content = (do
      Report.note (.reading content.lines.length)
      nest r.settings.strictBlocks content.lines >>= documentOf r.zones) := by
  obtain ⟨size, hsize, hfits⟩ := h
  rw [read, hsize]
  simp only [if_neg (Int.not_lt.mpr hfits), build_documentFrom]

theorem documentOf_eq_ok {zones : Zones} {n : Nesting} {d : Document}
    (h : (documentOf zones n).outcome = .ok d) : d.nodes = n.nodes ∧ d.root = n.roots := by
  obtain ⟨summary, -, hrest⟩ := Report.bind_eq_ok h
  obtain ⟨_, -, hpure⟩ := Report.bind_eq_ok hrest
  cases hpure
  exact ⟨rfl, rfl⟩

/-- A document that has been read holds the nodes of a run over the tokens of its
text; in particular every line that is not empty has pieces. -/
theorem read_eq_ok {r : Reader} {content : Content} {d : Document}
    (h : (r.read content).outcome = .ok d) :
    ∃ ts, content.tokens = .ok ts ∧
      d.nodes = (Nesting.acceptAll {} ts).nodes ∧ d.root = (Nesting.acceptAll {} ts).roots := by
  rcases content.fits_cases r.settings.maxContentBytes with
    ⟨flaw, hbroken⟩ | ⟨size, hsize, hlarge⟩ | hfits
  · rw [read_of_broken hbroken] at h
    cases h
  · rw [read_of_tooLarge hsize hlarge] at h
    cases h
  · rw [read_of_fits hfits] at h
    obtain ⟨_, -, h⟩ := Report.bind_eq_ok h
    obtain ⟨n, hnest, hdocument⟩ := Report.bind_eq_ok h
    obtain ⟨ts, hts, rfl⟩ := nest_eq_ok hnest
    exact ⟨ts, hts, documentOf_eq_ok hdocument⟩

/-- The outcome of reading a content that fits. -/
theorem outcome_read_of_fits {r : Reader} {content : Content}
    (h : content.Fits r.settings.maxContentBytes) :
    (r.read content).outcome = (nest r.settings.strictBlocks content.lines).outcome >>=
      fun n => (documentOf r.zones n).outcome := by
  rw [read_of_fits h]
  simp only [Report.outcome_bind, Report.outcome_note]
  rfl

end Reader

end VCalendar
