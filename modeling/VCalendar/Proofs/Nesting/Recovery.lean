import VCalendar.Proofs.Journal.Notes
import VCalendar.Proofs.Nesting.Account

/-!
# Recovery from unbalanced blocks

What lenient nesting warns of. Main statement: the warnings of a reading are one for each END
line that is passed over, in the order of the lines, and one that lists the blocks left open
if there are any, and the account of the lines says which these are.
-/

namespace VCalendar

/-! ## Warnings of blocks -/

/-- Whether an event is a warning of blocks that do not pair. -/
def Event.concernsBlocks : Event → Bool
  | .stillOpen .. | .strayEnd .. => true
  | _ => false

/-- A lookup of zones whose notes warn of no blocks. -/
def Resolver.Quiet (resolver : Resolver) : Prop :=
  ∀ tzid, ∀ event ∈ resolver.trace tzid, event.concernsBlocks = false

theorem ZoneName.Database.quiet_resolver (db : Database HostError) : db.resolver.Quiet := by
  intro tzid event hevent
  obtain ⟨c, known, rfl⟩ := Database.eq_zoneLookup hevent
  rfl

theorem Reader.quiet_documentOf {zones : Zones} (h : zones.resolver.Quiet) (n : Nesting) :
    (documentOf zones n).Notes (·.concernsBlocks = false) :=
  notes_documentFrom ⟨h, fun _ _ => rfl, fun _ _ _ => rfl, fun _ _ _ => rfl⟩ (fun _ => rfl) _ _

/-! ## Lines -/

/-- The warning of an END line that is passed over. -/
def strayWarning (stray : String × Nat) : Event :=
  .strayEnd stray.1 stray.2

/-- The warning of blocks that are left open, if there are any. -/
def openWarning (blocks : List OpenLine) : List Event :=
  if blocks = [] then [] else [.stillOpen blocks]

/-- What the log says of an END line that is passed over. -/
def strayText (stray : String × Nat) : String :=
  "Ignoring END:" ++ stray.1 ++ " on line " ++ toString stray.2 ++ " with no open block"

/-- What the log says of the blocks that are left open, if there are any. -/
def openText : List OpenLine → List String
  | [] => []
  | innermost :: outer => ["Blocks still open at end of input: " ++ innermost.enumeration outer]

theorem messages_openWarning (blocks : List OpenLine) :
    (openWarning blocks).map Event.message = openText blocks := by
  cases blocks with
  | nil => rfl
  | cons innermost outer =>
      rw [openWarning, if_neg (List.cons_ne_nil _ _), openText, ← OpenLine.listText_cons]
      rfl

namespace Reader

variable {lines : List String} {n : Nesting} {line : String} {number : Nat}

theorem addLine_lenient {token : Token} (htoken : Line.tokenize line = .ok token) :
    addLine false n line number =
      ⟨(strayOf n.blocks number (bracketOf line)).map strayWarning,
        .ok (n.accept ⟨token, number⟩)⟩ := by
  have haddLine : addLine false n line number =
      (n.add false token number line).mapError .unbalanced := by
    rw [addLine, htoken]
  rw [haddLine, bracketOf_of_token htoken, Token.bracket?, Nesting.add]
  by_cases hend : token.name = endName
  · have hbegin : token.name ≠ beginName := by rw [hend]; decide
    rw [if_pos hend, if_neg hbegin, if_pos hend, Nesting.accept_end hend]
    obtain ⟨placed, opened⟩ := n
    cases opened with
    | nil => rfl
    | cons block outer => simp [Nesting.close, strayOf, Nesting.blocks, Report.mapError]; rfl
  · rw [if_neg hend, if_neg hend, Nesting.accept_place hend]
    split <;> rfl

/-- **The run of lenient nesting.** -/
theorem addLines_account (hlines : ∀ line ∈ lines, Readable line) :
    ∃ n strays, addLines false {} (lines.zipIdx 1) = ⟨strays.map strayWarning, .ok n⟩ ∧
      Opened n.blocks lines ∧ Account lines strays n.blocks := by
  induction lines using List.reverseRecOn with
  | nil => exact ⟨{}, [], rfl, .nil [], .nil⟩
  | append_singleton lines line ih =>
      obtain ⟨hlines, hline⟩ := List.forall_mem_append.mp hlines
      obtain ⟨n, strays, hrun, hopened, haccount⟩ := ih hlines
      have hopened' := hopened.concat line
      have haccount' := haccount.concat hopened line
      rw [List.zipIdx_append, addLines_append, hrun, List.zipIdx_singleton, Nat.add_comm 1]
      by_cases hempty : line = ""
      · -- an empty line is passed over, and it is no bracket
        rw [hempty, bracketOf_empty] at hopened' haccount'
        refine ⟨n, strays, ?_, hempty ▸ hopened', hempty ▸ (List.append_nil strays ▸ haccount')⟩
        rw [hempty, Report.bind_of_ok rfl, addLines_cons_empty]
        simp [addLines]
      · obtain ⟨token, htoken⟩ := hline line (List.mem_singleton_self line) hempty
        have hblocks := n.blocks_accept ⟨token, lines.length + 1⟩
        rw [← bracketOf_of_token htoken] at hblocks
        refine ⟨n.accept ⟨token, lines.length + 1⟩, _, ?_, hblocks ▸ hopened',
          hblocks ▸ haccount'⟩
        rw [Report.bind_of_ok rfl, addLines_cons hempty, addLine_lenient htoken,
          Report.bind_of_ok rfl, List.map_append]
        simp [addLines]

theorem nest_account (hlines : ∀ line ∈ lines, Readable line) :
    ∃ n strays, nest false lines = ⟨strays.map strayWarning ++ openWarning n.blocks, .ok n⟩ ∧
      Account lines strays n.blocks := by
  obtain ⟨n, strays, hrun, -, haccount⟩ := addLines_account hlines
  refine ⟨n, strays, ?_, haccount⟩
  rw [nest, hrun, Report.bind_of_ok rfl, n.finish_lenient]
  simp only [Report.mapError, openWarning]
  rw [Report.bind_of_ok rfl]
  simp

/-- **Recovery is accounted for.** If a content fits and all its lines that are not empty
have pieces, a lenient reader warns of the END lines that it passes over and once of the
blocks that are left open, if there are any. A line is passed over if more blocks have been
closed in excess behind it than ever before, and a block is left open if no END line goes
with its BEGIN line. -/
theorem read_account {r : Reader} {content : Content} (hmode : r.settings.strictBlocks = false)
    (hfits : content.Fits r.settings.maxContentBytes)
    (hresolver : r.zones.resolver.Quiet) (hlines : ∀ line ∈ content.lines, Readable line) :
    ∃ b strays, (build r.settings.strictBlocks content.lines).outcome = .ok b ∧
      (r.read content).events.filter Event.concernsBlocks =
        strays.map strayWarning ++ openWarning (b.unclosed.map Draft.opening) ∧
      (∀ event ∈ (r.read content).events.filter Event.concernsBlocks, event.level = .warning) ∧
      ((r.read content).events.filter Event.concernsBlocks).map Event.message =
        strays.map strayText ++ openText (b.unclosed.map Draft.opening) ∧
      Account content.lines strays (b.unclosed.map Draft.opening) := by
  obtain ⟨n, strays, hnest, haccount⟩ := nest_account hlines
  obtain ⟨b, hb, hfollows⟩ := (build_alike false content.lines).exists_left (congrArg _ hnest)
  have hstrays : (strays.map strayWarning).filter Event.concernsBlocks =
      strays.map strayWarning := by
    rw [List.filter_eq_self]
    intro event hevent
    obtain ⟨stray, -, rfl⟩ := List.mem_map.mp hevent
    rfl
  have hopen : (openWarning n.blocks).filter Event.concernsBlocks = openWarning n.blocks := by
    unfold openWarning
    split <;> rfl
  have hdocument : (documentOf r.zones n).events.filter Event.concernsBlocks = [] := by
    rw [List.filter_eq_nil_iff]
    intro event hevent
    rw [quiet_documentOf hresolver n event hevent]
    decide
  have hread : (r.read content).events = .reading content.lines.length ::
      (strays.map strayWarning ++ openWarning n.blocks ++ (documentOf r.zones n).events) := by
    rw [read_of_fits hfits, hmode]
    rw [Report.bind_of_ok rfl, hnest, Report.bind_of_ok rfl]
    rfl
  have hwarnings : (r.read content).events.filter Event.concernsBlocks =
      strays.map strayWarning ++ openWarning n.blocks := by
    rw [hread, List.filter_cons_of_neg Bool.false_ne_true, List.filter_append,
      List.filter_append, hstrays, hopen, hdocument, List.append_nil]
  refine ⟨b, strays, by rw [hmode, hb], ?_⟩
  rw [hfollows.unclosed_eq]
  refine ⟨hwarnings, ?_, ?_, haccount⟩
  · intro event hevent
    rw [hwarnings] at hevent
    rcases List.mem_append.mp hevent with hstray | hopen
    · obtain ⟨stray, -, rfl⟩ := List.mem_map.mp hstray
      rfl
    · unfold openWarning at hopen
      split at hopen
      · cases hopen
      · rw [List.mem_singleton.mp hopen]
        rfl
  · rw [hwarnings, List.map_append, List.map_map, messages_openWarning]
    rfl

/-- Two END lines too many, and two BEGIN lines that nothing closes. -/
def unbalancedText : String :=
  "END:A\r\nBEGIN:B\r\nBEGIN:C\r\nEND:X\r\nEND:Y\r\nEND:Z\r\nBEGIN:D\r\n\r\nBEGIN:E"

theorem read_account_unbalanced :
    (∀ line ∈ (Content.text unbalancedText).lines, Readable line) ∧
    ∃ (b : Builder) (strays : List (String × Nat)),
      strays.map strayText ++ openText (b.unclosed.map Draft.opening) =
        ["Ignoring END:A on line 1 with no open block", "Ignoring END:Z on line 6 with no open block",
          "Blocks still open at end of input: E (line 9), D (line 7)"] ∧
      Account (Content.text unbalancedText).lines strays (b.unclosed.map Draft.opening) := by
  have hlines : ∀ line ∈ (Content.text unbalancedText).lines, Readable line := by
    decide +kernel
  obtain ⟨b, strays, -, -, -, hmessages, haccount⟩ :=
    read_account (r := .zoneless {}) rfl (Content.fits_text.mpr (by decide +kernel))
      (fun _ _ h => nomatch h) hlines
  refine ⟨hlines, b, strays, ?_, haccount⟩
  rw [← hmessages]
  decide +kernel

end Reader

end VCalendar
