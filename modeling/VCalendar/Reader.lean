import VCalendar.Builder
import VCalendar.Content
import VCalendar.Summary

/-!
# Reading documents

A content becomes a document: its size is checked, bytes are decoded,
byte order marks in front are dropped, folded lines are joined, every line that
is not empty is cut into its pieces and taken into the arena, and the root-level nodes are
summed up.  The first line that cannot be placed decides the error; dates come
last.
-/

namespace VCalendar

/-- A reader of documents: its settings, and how zone identifiers become zones. -/
structure Reader where
  settings : Settings
  zones : Zones

namespace Reader

/-- The reader of some settings, with a lookup of zones.  The fallback zone is that of its
name in a database. -/
def configured {ε : Type} (db : ZoneName.Database ε) (settings : Settings)
    (resolver : Resolver) : Report ε Reader := do
  let fallback ← db.fallback settings.fallbackTimezone
  pure ⟨settings, ⟨resolver, fallback⟩⟩

/-- A reader that knows universal time alone. -/
def zoneless (settings : Settings) : Reader :=
  ⟨settings, ⟨.unknowing, .utc⟩⟩

/-- Cuts a line into its pieces and takes them into the builder. -/
def buildLine (strict : Bool) (b : Builder) (line : String) (number : Nat) :
    Report ReadError Builder :=
  match Line.tokenize line with
  | .error flaw => Report.fail (.malformed ⟨number, line, flaw⟩)
  | .ok token => (b.add strict token number line).mapError .unbalanced

/-- Takes lines with their numbers into the builder; empty ones are passed over. -/
def buildLines (strict : Bool) (b : Builder) : List (String × Nat) → Report ReadError Builder
  | [] => pure b
  | (line, number) :: rest =>
    if line = "" then buildLines strict b rest
    else do
      let b ← buildLine strict b line number
      buildLines strict b rest

/-- Builds the drafts of all lines of a text. -/
def build (strict : Bool) (lines : List String) : Report ReadError Builder := do
  let b ← buildLines strict .empty (lines.zipIdx 1)
  (b.finish strict).mapError .unbalanced
  pure b

/-- The document of an arena. -/
def documentFrom (zones : Zones) (nodes : Array Node) (root : List Int) :
    Report ReadError Document := do
  let summary ← Summary.addAll zones {} (root.filterMap fun i => nodes[i.toNat]?)
  let document : Document := ⟨nodes, root, summary⟩
  Report.note (.documentRead
    ⟨nodes.size, root.length, summary.dtstart, summary.tzid, summary.duration, summary.rrule,
      summary.allDay⟩)
  pure document

/-- Reads a document. -/
def read (r : Reader) (content : Content) : Report ReadError Document :=
  match content.size with
  | .error flaw => Report.fail (.unencodable flaw)
  | .ok size =>
    if r.settings.maxContentBytes < size then do
      Report.note (.contentTooLarge size r.settings.maxContentBytes)
      Report.fail (.tooLarge size r.settings.maxContentBytes)
    else do
      let lines := content.lines
      Report.note (.reading lines.length)
      let b ← build r.settings.strictBlocks lines
      documentFrom r.zones b.nodes b.roots

/-- Reads a document from content that may be missing. -/
def read? (r : Reader) : Option Content → Report ReadError Document
  | none => Report.fail .missing
  | some content => r.read content

end Reader

end VCalendar
