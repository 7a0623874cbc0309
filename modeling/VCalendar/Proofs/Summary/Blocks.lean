import VCalendar.Proofs.Line.Joined
import VCalendar.Proofs.Nesting.Modes
import VCalendar.Proofs.Summary.Renumbering

/-!
# Blocks at the root

A block can be put in front of any line that lies in no block, whatever is in it. The
counter of open blocks is back at zero behind it, and of its lines only the first lies in
no block; that one is a BEGIN line, which a summary passes over. Main statement: with or
without the block, lenient reading gives the same summary, or the same error on what is
the same line but for the number.
-/

namespace VCalendar

/-! ## Tokens of lines -/

theorem tokenizeAll_append (lines lines' : List (String × Nat)) :
    tokenizeAll (lines ++ lines') = tokenizeAll lines >>= fun ts =>
      (tokenizeAll lines').map (ts ++ ·) := by
  induction lines with
  | nil =>
      show tokenizeAll lines' = (tokenizeAll lines').map _
      cases tokenizeAll lines' <;> rfl
  | cons entry rest ih =>
      obtain ⟨line, number⟩ := entry
      rw [List.cons_append, tokenizeAll, tokenizeAll, ih]
      by_cases hempty : line = ""
      · rw [if_pos hempty, if_pos hempty]
      · rw [if_neg hempty, if_neg hempty]
        cases Line.tokenize line with
        | error flaw => rfl
        | ok token =>
            cases tokenizeAll rest with
            | error m => rfl
            | ok ts => cases tokenizeAll lines' <;> rfl

theorem tokenizeAll_cons {line : String} {token : Token} (hne : line ≠ "")
    (h : Line.tokenize line = .ok token) (number : Nat) (rest : List (String × Nat)) :
    tokenizeAll ((line, number) :: rest) = (tokenizeAll rest).map (⟨token, number⟩ :: ·) := by
  rw [tokenizeAll, if_neg hne, h]

/-- The brackets among some tokens. -/
def tokenBrackets (ts : List NumberedToken) : List Bracket :=
  ts.filterMap (·.token.bracket?)

theorem tokenBrackets_cons_some {t : NumberedToken} {b : Bracket} (h : t.token.bracket? = some b)
    (ts : List NumberedToken) : tokenBrackets (t :: ts) = b :: tokenBrackets ts :=
  List.filterMap_cons_some h

theorem tokenBrackets_cons_none {t : NumberedToken} (h : t.token.bracket? = none)
    (ts : List NumberedToken) : tokenBrackets (t :: ts) = tokenBrackets ts :=
  List.filterMap_cons_none h

theorem tokenizeAll_of_readable {lines : List String} (h : ∀ line ∈ lines, Readable line)
    (first : Nat) :
    ∃ ts, tokenizeAll (lines.zipIdx first) = .ok ts ∧ tokenBrackets ts = brackets lines := by
  induction lines generalizing first with
  | nil => exact ⟨[], rfl, rfl⟩
  | cons line rest ih =>
      obtain ⟨hline, hrest⟩ := List.forall_mem_cons.mp h
      obtain ⟨ts, hts, hbrackets⟩ := ih hrest (first + 1)
      rw [List.zipIdx_cons]
      by_cases hempty : line = ""
      · refine ⟨ts, ?_, ?_⟩
        · rw [tokenizeAll, if_pos hempty, hts]
        · rw [hempty, brackets_cons_none bracketOf_empty, hbrackets]
      · obtain ⟨token, htoken⟩ := hline hempty
        refine ⟨⟨token, first⟩ :: ts, ?_, ?_⟩
        · rw [tokenizeAll_cons hempty htoken, hts]
          rfl
        · cases hbracket : token.bracket? with
          | none =>
              rw [tokenBrackets_cons_none hbracket, hbrackets, brackets_cons_none]
              rw [bracketOf_of_token htoken, hbracket]
          | some b =>
              rw [tokenBrackets_cons_some hbracket, hbrackets, brackets_cons_some]
              rw [bracketOf_of_token htoken, hbracket]

/-! ## The counter inside a block -/

/-- Tokens that close no more than they open and `spare` blocks besides never get the
counter below what it is without these. -/
theorem depth_of_surplus (depth spare : Nat) {ts : List NumberedToken}
    (h : ∀ p, p <+: tokenBrackets ts → 0 ≤ (spare : Int) + surplus p) :
    (depthAfter (depth + spare) ts : Int) = depth + spare + surplus (tokenBrackets ts) ∧
      ∀ e ∈ entries (depth + spare) ts, depth ≤ e.depth := by
  induction ts generalizing spare with
  | nil => simp [depthAfter, entries, tokenBrackets]
  | cons t ts ih =>
      by_cases hend : t.token.name = endName
      · have hbegin : t.token.name ≠ beginName := by rw [hend]; decide
        have hbracket : t.token.bracket? = some (.closing t.token.value) := by
          rw [Token.bracket?, if_neg hbegin, if_pos hend]
        rw [tokenBrackets_cons_some hbracket] at h ⊢
        have hspare := h [.closing t.token.value] ⟨tokenBrackets ts, rfl⟩
        rw [surplus_cons, surplus_nil, Bracket.weight] at hspare
        obtain ⟨less, rfl⟩ : ∃ less, spare = less + 1 := ⟨spare - 1, by omega⟩
        obtain ⟨hafter, hdepth⟩ := ih less (by
          intro p hp
          have hprefix := h _ ((List.prefix_cons_inj (.closing t.token.value)).mpr hp)
          rw [surplus_cons, Bracket.weight] at hprefix
          omega)
        rw [depthAfter, if_pos hend, entries, if_pos hend, ← Nat.add_assoc, Nat.add_sub_cancel,
          surplus_cons, Bracket.weight]
        exact ⟨by omega, hdepth⟩
      · rw [depthAfter, if_neg hend, entries, if_neg hend]
        by_cases hbegin : t.token.name = beginName
        · have hbracket : t.token.bracket? = some (.opening t.token.value) := by
            rw [Token.bracket?, if_pos hbegin]
          rw [tokenBrackets_cons_some hbracket] at h ⊢
          obtain ⟨hafter, hdepth⟩ := ih (spare + 1) (by
            intro p hp
            have hprefix := h _ ((List.prefix_cons_inj (.opening t.token.value)).mpr hp)
            rw [surplus_cons, Bracket.weight] at hprefix
            omega)
          rw [if_pos hbegin, surplus_cons, Bracket.weight, Nat.add_assoc]
          exact ⟨by omega, List.forall_mem_cons.mpr ⟨Nat.le_add_right _ _, hdepth⟩⟩
        · have hbracket : t.token.bracket? = none := by
            rw [Token.bracket?, if_neg hbegin, if_neg hend]
          rw [tokenBrackets_cons_none hbracket] at h ⊢
          obtain ⟨hafter, hdepth⟩ := ih spare h
          rw [if_neg hbegin]
          exact ⟨hafter, List.forall_mem_cons.mpr ⟨Nat.le_add_right _ _, hdepth⟩⟩

/-! ## Blocks -/

/-- A BEGIN line, lines inside and an END line. -/
structure Block where
  opening : String
  inner : List String
  closing : String
deriving DecidableEq, Repr

namespace Block

def lines (b : Block) : List String := b.opening :: (b.inner ++ [b.closing])

/-- The lines inside have pieces, close no more than they open and all of it in the end.
The name of the END line does not count. -/
structure WellFormed (b : Block) : Prop where
  opening : ∃ label, bracketOf b.opening = some (.opening label)
  readable : ∀ line ∈ b.inner, Readable line
  balanced : Balanced (brackets b.inner)
  closing : ∃ label, bracketOf b.closing = some (.closing label)

end Block

theorem token_of_bracketOf {line : String} {b : Bracket} (h : bracketOf line = some b) :
    ∃ token, line ≠ "" ∧ Line.tokenize line = .ok token ∧ token.bracket? = some b := by
  have hne : line ≠ "" := by
    rintro rfl
    rw [bracketOf_empty] at h
    cases h
  cases htoken : Line.tokenize line with
  | error flaw =>
      rw [bracketOf, htoken] at h
      cases h
  | ok token =>
      rw [bracketOf_of_token htoken] at h
      exact ⟨token, hne, rfl, h⟩

theorem Token.name_of_opening {t : Token} {label : String}
    (h : t.bracket? = some (.opening label)) : t.name = beginName := by
  unfold bracket? at h
  split at h
  · assumption
  · split at h <;> cases h

theorem Token.name_of_closing {t : Token} {label : String}
    (h : t.bracket? = some (.closing label)) : t.name = endName := by
  unfold bracket? at h
  split at h
  · cases h
  · split at h
    · assumption
    · cases h

theorem rootTokens_cons_begin {t : NumberedToken} (h : t.token.name = beginName)
    (ts : List NumberedToken) : rootTokens 0 (t :: ts) = t :: rootTokens 1 ts := by
  have hnot : t.token.name ≠ endName := by rw [h]; decide
  rw [rootTokens, entries, if_neg hnot, if_pos h]
  rfl

theorem rootTokens_cons_end {t : NumberedToken} (h : t.token.name = endName) (depth : Nat)
    (ts : List NumberedToken) : rootTokens depth (t :: ts) = rootTokens (depth - 1) ts := by
  rw [rootTokens, entries, if_pos h, rootTokens]

/-- Of a block only the BEGIN line lies in no block, and behind it none is open. -/
theorem Block.WellFormed.tokens {b : Block} (h : b.WellFormed) (first : Nat) :
    ∃ ts t, tokenizeAll (b.lines.zipIdx first) = .ok ts ∧ rootTokens 0 ts = [t] ∧
      t.token.name = beginName ∧ depthAfter 0 ts = 0 := by
  obtain ⟨label, hopening⟩ := h.opening
  obtain ⟨opening, hne, htoken, hbracket⟩ := token_of_bracketOf hopening
  obtain ⟨label', hclosing⟩ := h.closing
  obtain ⟨closing, hne', htoken', hbracket'⟩ := token_of_bracketOf hclosing
  obtain ⟨ts, hts, hbrackets⟩ := tokenizeAll_of_readable h.readable (first + 1)
  have hbegin : opening.name = beginName := Token.name_of_opening hbracket
  have hend : closing.name = endName := Token.name_of_closing hbracket'
  have hnot : opening.name ≠ endName := by rw [hbegin]; decide
  have hnonneg : ∀ p, p <+: tokenBrackets ts → 0 ≤ ((0 : Nat) : Int) + surplus p := by
    intro p hp
    rw [hbrackets] at hp
    simpa using h.balanced.nonneg p hp
  obtain ⟨hafter, hdepth⟩ := depth_of_surplus 1 0 hnonneg
  rw [hbrackets, h.balanced.zero] at hafter
  -- none of the lines inside lies at the root
  have hinside : rootTokens 1 ts = [] := by
    rw [rootTokens, List.map_eq_nil_iff, List.filter_eq_nil_iff]
    intro e he hroot
    have hle := hdepth e he
    have hzero := of_decide_eq_true hroot
    omega
  have hone : depthAfter 1 ts = 1 := Int.ofNat.inj (by simpa using hafter)
  refine ⟨⟨opening, first⟩ :: (ts ++ [⟨closing, first + 1 + b.inner.length⟩]), ⟨opening, first⟩,
    ?_, ?_, hbegin, ?_⟩
  · rw [Block.lines, List.zipIdx_cons, List.zipIdx_append, tokenizeAll_cons hne htoken,
      tokenizeAll_append, hts, List.zipIdx_singleton, tokenizeAll_cons hne' htoken']
    rfl
  · rw [rootTokens_cons_begin hbegin, rootTokens_append, hinside, hone,
      rootTokens_cons_end hend]
    rfl
  · rw [depthAfter, if_neg hnot, if_pos hbegin, depthAfter_append, hone, depthAfter, if_pos hend]
    rfl

/-! ## Texts with and without a block -/

/-- Lines that can be cut into pieces and leave no block open. -/
def EndsAtRoot (lines : List String) : Prop :=
  (Reader.addLines false {} (lines.zipIdx 1)).outcome.map (·.opened) = .ok []

instance (lines : List String) : Decidable (EndsAtRoot lines) :=
  inferInstanceAs
    (Decidable ((Reader.addLines false {} (lines.zipIdx 1)).outcome.map (·.opened) = .ok []))

theorem EndsAtRoot.tokens {lines : List String} (h : EndsAtRoot lines) :
    ∃ ts, tokenizeAll (lines.zipIdx 1) = .ok ts ∧ depthAfter 0 ts = 0 := by
  rw [EndsAtRoot, Reader.outcome_addLines_lenient] at h
  cases hts : tokenizeAll (lines.zipIdx 1) with
  | error m =>
      rw [hts] at h
      cases h
  | ok ts =>
      rw [hts] at h
      have hopened : (Nesting.acceptAll {} ts).opened = [] := Except.ok.inj h
      have hlength := Nesting.length_opened_acceptAll {} ts
      rw [hopened] at hlength
      exact ⟨ts, rfl, hlength.symm⟩

/-- The number of a line of a text when `count` lines have been put behind line `first`. -/
def moved (first count : Nat) (number : Int) : Int :=
  if number ≤ first then number else number + count

def movedLine (first count number : Nat) : Nat :=
  if number ≤ first then number else number + count

theorem moved_natCast (first count number : Nat) :
    moved first count number = movedLine first count number := by
  unfold moved movedLine
  split <;> split <;> omega

theorem zipIdx_moved (before after : List String) (count : Nat) :
    ((before ++ after).zipIdx 1).map (Prod.map id (movedLine before.length count)) =
      before.zipIdx 1 ++ after.zipIdx (count + (1 + before.length)) := by
  have hbefore : ∀ entry ∈ before.zipIdx 1,
      Prod.map id (movedLine before.length count) entry = id entry := by
    intro entry hentry
    have hlt := List.snd_lt_add_of_mem_zipIdx hentry
    rw [Prod.map, movedLine, if_pos (by omega)]
    rfl
  have hafter : ∀ entry ∈ after.zipIdx (1 + before.length),
      Prod.map id (movedLine before.length count) entry = Prod.map id (· + count) entry := by
    intro entry hentry
    have hle := List.le_snd_of_mem_zipIdx hentry
    rw [Prod.map, movedLine, if_neg (by omega)]
    rfl
  rw [List.zipIdx_append, List.map_append, List.map_congr_left hbefore, List.map_congr_left hafter,
    List.map_id, List.map_snd_add_zipIdx_eq_zipIdx]

theorem tokenizeAll_ofLines {lines : List String} (h : ∀ line ∈ lines, Plain line) :
    tokenizeAll ((Content.ofLines lines).lines.zipIdx 1) = tokenizeAll (lines.zipIdx 1) := by
  rw [Content.lines_ofLines h]
  cases lines <;> rfl

theorem summarize_ofLines {lines : List String} (h : ∀ line ∈ lines, Plain line) (zones : Zones) :
    summarize zones ((Content.ofLines lines).lines.zipIdx 1) = summarize zones (lines.zipIdx 1) := by
  rw [summarize, summarize, tokenizeAll_ofLines h]

theorem Summary.add_begin (zones : Zones) (s : Summary) {n : Node} (h : n.name = beginName) :
    s.add zones n = pure s := by
  simp [add, h, beginName]

/-- What lies in a block does not reach the summary. -/
theorem summarize_insert {before after : List (String × Nat)} {b : Block} (h : b.WellFormed)
    {ts : List NumberedToken} (hts : tokenizeAll before = .ok ts) (hroot : depthAfter 0 ts = 0)
    (zones : Zones) (first : Nat) :
    summarize zones (before ++ b.lines.zipIdx first ++ after) =
      summarize zones (before ++ after) := by
  obtain ⟨us, t, hus, hrootTokens, hbegin, hdepth⟩ := h.tokens first
  rw [summarize, summarize, tokenizeAll_append, tokenizeAll_append, tokenizeAll_append, hts, hus]
  cases tokenizeAll after with
  | error m => rfl
  | ok vs =>
      show (Summary.addAll zones {} ((rootTokens 0 (ts ++ us ++ vs)).map _)).outcome =
        (Summary.addAll zones {} ((rootTokens 0 (ts ++ vs)).map _)).outcome
      rw [rootTokens_append, rootTokens_append, rootTokens_append, depthAfter_append, hroot, hdepth,
        hrootTokens, List.append_assoc, List.map_append, List.map_append, List.map_append,
        Summary.outcome_addAll_append, Summary.outcome_addAll_append]
      congr 1
      funext s
      show (s.addAll zones (t.node :: _)).outcome = _
      rw [Summary.outcome_addAll_cons, Summary.add_begin zones s hbegin]
      rfl

variable {r : Reader} {before after : List String} {b : Block}

/-- **Nothing inside a block reaches the summary.** Into lines that leave no block open, and
in front of any others, a block may be put. Whatever its lines say, lenient reading gives
the same summary as without it, or the same error under the number that the line has then.
That error has the same kind and is about the same property and line. -/
theorem summary_insert_block (hlenient : r.settings.strictBlocks = false)
    (hplain : ∀ line ∈ before ++ b.lines ++ after, Plain line)
    (hbefore : EndsAtRoot before) (hblock : b.WellFormed)
    (hfits : (Content.ofLines (before ++ after)).Fits r.settings.maxContentBytes)
    (hfits' : (Content.ofLines (before ++ b.lines ++ after)).Fits r.settings.maxContentBytes) :
    (r.read (.ofLines (before ++ b.lines ++ after))).outcome.map (·.summary) =
        ((r.read (.ofLines (before ++ after))).outcome.map (·.summary)).mapError
          (ReadError.renumber (moved before.length b.lines.length)) ∧
      ∀ e, (r.read (.ofLines (before ++ after))).outcome = .error e →
        (e.renumber (moved before.length b.lines.length)).diagnostic?.map
            (fun d => (d.kind, d.property, d.line, d.lineNumber)) =
          e.diagnostic?.map fun d =>
            (d.kind, d.property, d.line, d.lineNumber.map (moved before.length b.lines.length)) := by
  have hplain' : ∀ line ∈ before ++ after, Plain line := by
    intro line hline
    apply hplain
    rcases List.mem_append.mp hline with h | h
    · exact List.mem_append_left _ (List.mem_append_left _ h)
    · exact List.mem_append_right _ h
  obtain ⟨ts, hts, hroot⟩ := hbefore.tokens
  constructor
  · rw [Reader.summary_of_lenient_read hlenient hfits,
      Reader.summary_of_lenient_read hlenient hfits', summarize_ofLines hplain,
      summarize_ofLines hplain']
    have hnumbers : (before ++ b.lines ++ after).zipIdx 1 =
        before.zipIdx 1 ++ b.lines.zipIdx (1 + before.length) ++
          after.zipIdx (b.lines.length + (1 + before.length)) := by
      rw [List.zipIdx_append, List.zipIdx_append, List.length_append]
      congr 2
      omega
    rw [hnumbers, summarize_insert hblock hts hroot, ← zipIdx_moved,
      summarize_renumber (moved_natCast before.length b.lines.length)]
  · intro e he
    apply ReadError.diagnostic?_renumber
    intro cause hcause
    have hmode : r.withMode false = r := by
      rw [Reader.withMode, ← hlenient]
    rw [hcause] at he
    exact r.lenient_read_ne_unbalanced _ cause (hmode.symm ▸ he)

/-- A block with what a summary is made of in it, some of it no date. -/
def alarmBlock : Block where
  opening := "BEGIN:VALARM"
  inner := ["DTSTART;TZID=Asia/Tokyo:garbage", "BEGIN:X", "DTEND:none", "END:Y", "", "DURATION:PT9H",
    "RRULE:FREQ=DAILY"]
  closing := "END:Z"

theorem alarmBlock_wellFormed : alarmBlock.WellFormed where
  opening := ⟨"VALARM", by decide +kernel⟩
  readable := by decide +kernel
  balanced := by decide +kernel
  closing := ⟨"Z", by decide +kernel⟩

def meetingLines : List String := ["BEGIN:A", "END:B", "DTSTART:20240101T000000"]

/-- Behind the block another date is none, and it is no longer on line four. -/
theorem summary_insert_block_alarm :
    ((Reader.zoneless {}).withMode false).settings.strictBlocks = false ∧
      (∀ line ∈ meetingLines ++ alarmBlock.lines ++ ["DTEND:none"], Plain line) ∧
      EndsAtRoot meetingLines ∧ alarmBlock.WellFormed ∧
      (((Reader.zoneless {}).withMode false).read (.ofLines (meetingLines ++ ["DTEND:none"]))).outcome =
        .error (.badDate ⟨4, "DTEND", "none"⟩) ∧
      (((Reader.zoneless {}).withMode false).read
          (.ofLines (meetingLines ++ alarmBlock.lines ++ ["DTEND:none"]))).outcome.map (·.summary) =
        .error (.badDate ⟨13, "DTEND", "none"⟩) := by
  have hplain : ∀ line ∈ meetingLines ++ alarmBlock.lines ++ ["DTEND:none"], Plain line := by
    decide +kernel
  have hroot : EndsAtRoot meetingLines := by decide +kernel
  have hwithout : (((Reader.zoneless {}).withMode false).read
      (.ofLines (meetingLines ++ ["DTEND:none"]))).outcome =
        .error (.badDate ⟨4, "DTEND", "none"⟩) := by
    decide +kernel
  obtain ⟨hwith, -⟩ := @summary_insert_block ((Reader.zoneless {}).withMode false) meetingLines
    ["DTEND:none"] alarmBlock rfl hplain hroot alarmBlock_wellFormed
    (Content.fits_text.mpr (by decide +kernel)) (Content.fits_text.mpr (by decide +kernel))
  rw [hwithout] at hwith
  exact ⟨rfl, hplain, hroot, alarmBlock_wellFormed, hwithout, hwith⟩

end VCalendar
