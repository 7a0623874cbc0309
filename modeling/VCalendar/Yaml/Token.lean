import VCalendar.Yaml.Text

/-!
# Tokens

A document is scanned into tokens.  Indentation becomes tokens for the start and
end of block collections.  A scalar or a flow collection on one line may turn out
to be the key of a mapping when a colon follows it, so the place of the latest
such candidate is remembered for each level of flow collections.  Anchors, tags,
directives and block scalars are refused.
-/

namespace VCalendar.Yaml

inductive Token where
  | documentStart
  | documentEnd
  | blockSequenceStart
  | blockMappingStart
  | blockEnd
  | flowSequenceStart
  | flowSequenceEnd
  | flowMappingStart
  | flowMappingEnd
  | blockEntry
  | flowEntry
  | key
  | value
  | plain (text : List Char)
  | quoted (text : List Char)
deriving DecidableEq, Repr

/-- A place where a key may turn out to stand. -/
structure Candidate where
  /-- How many tokens stand before it. -/
  place : Nat
  /-- Whether nothing but a key can stand there. -/
  required : Bool
  offset : Nat
  line : Nat
  column : Nat
deriving Repr

/-- A scan in progress. -/
structure Scan where
  cursor : Cursor
  tokens : Array Token := #[]
  /-- The columns of the open block collections, innermost first. -/
  indents : List Nat := []
  /-- The number of open flow collections. -/
  flow : Nat := 0
  /-- Whether a key may begin here. -/
  keyAllowed : Bool := true
  /-- The candidate keys by level of flow collection. -/
  candidates : List (Nat × Candidate) := []

namespace Scan

/-- The column of the innermost block collection, -1 outside of any. -/
def indent (s : Scan) : Int :=
  s.indents.head?.elim (-1) Int.ofNat

def emit (s : Scan) (t : Token) : Scan :=
  { s with tokens := s.tokens.push t }

/-- Emits a token that so many characters stand for. -/
def take (s : Scan) (count : Nat) (t : Token) : Scan :=
  { s with cursor := s.cursor.skip count, tokens := s.tokens.push t }

def candidate? (s : Scan) : Option Candidate :=
  s.candidates.lookup s.flow

/-- Gives up the candidate of this level. -/
def dropCandidate (s : Scan) : Except Error Scan :=
  match s.candidate? with
  | some c => if c.required then .error .missingColon
    else .ok { s with candidates := s.candidates.filter (·.1 ≠ s.flow) }
  | none => .ok s

/-- Remembers the coming token as a candidate. -/
def saveCandidate (s : Scan) : Except Error Scan :=
  if s.keyAllowed then do
    let s ← s.dropCandidate
    let required := s.flow = 0 && s.indent = (s.cursor.column : Int)
    let c : Candidate :=
      ⟨s.tokens.size, required, s.cursor.offset, s.cursor.line, s.cursor.column⟩
    pure { s with candidates := (s.flow, c) :: s.candidates }
  else .ok s

/-- The longest distance between the beginning of a key and its colon. -/
def maxKeyLength : Nat := 1024

def isStale (s : Scan) (c : Candidate) : Bool :=
  c.line ≠ s.cursor.line || maxKeyLength < s.cursor.offset - c.offset

/-- Gives up the candidates that lie on an earlier line or too far back. -/
def dropStale (s : Scan) : Except Error Scan :=
  if s.candidates.any fun (_, c) => c.required && s.isStale c then .error .missingColon
  else .ok { s with candidates := s.candidates.filter fun (_, c) => !s.isStale c }

/-- Closes the block collections that lie further right than a column. -/
def closeBlocks (s : Scan) (column : Int) : Scan :=
  if s.flow ≠ 0 then s
  else
    let closed := s.indents.takeWhile fun (i : Nat) => column < (i : Int)
    { s with
      indents := s.indents.drop closed.length
      tokens := s.tokens ++ (closed.map fun _ => Token.blockEnd).toArray }

/-- Opens a block collection at a column if it lies further right than the innermost. -/
def openBlock (s : Scan) (column : Nat) (place : Nat) (t : Token) : Scan :=
  if s.flow = 0 ∧ s.indent < (column : Int) then
    { s with indents := column :: s.indents, tokens := s.tokens.insertIdxIfInBounds place t }
  else s

/-- Skips blanks, comments and line ends, and says whether a line end was passed. -/
def skipGap : Nat → Cursor → Bool × Cursor
  | 0, k => (false, k)
  | fuel + 1, k =>
    let k := k.skipWhile (· = ' ')
    let k := if k.rest.head? = some '#' then k.skipWhile (!isBreak ·) else k
    match k.rest with
    | c :: _ => if isBreak c then (true, (skipGap fuel k.next).2) else (false, k)
    | [] => (false, k)

/-- Goes to the beginning of the next token. -/
def toNext (s : Scan) : Except Error Scan := do
  let (passedBreak, k) := skipGap (s.cursor.rest.length + 1) s.cursor
  let s := { s with cursor := k, keyAllowed := s.keyAllowed || (passedBreak && s.flow = 0) }
  let s ← s.dropStale
  pure (s.closeBlocks k.column)

/-! ## Tokens of one kind -/

def documentMark (s : Scan) (t : Token) : Except Error Scan := do
  let s ← (s.closeBlocks (-1)).dropCandidate
  pure ({ s with keyAllowed := false }.take 3 t)

def openFlow (s : Scan) (t : Token) : Except Error Scan := do
  let s ← s.saveCandidate
  pure ({ s with flow := s.flow + 1, keyAllowed := true }.take 1 t)

def closeFlow (s : Scan) (t : Token) : Except Error Scan := do
  let s ← s.dropCandidate
  pure ({ s with flow := s.flow - 1, keyAllowed := false }.take 1 t)

def nextFlowEntry (s : Scan) : Except Error Scan := do
  let s ← s.dropCandidate
  pure ({ s with keyAllowed := true }.take 1 .flowEntry)

def nextBlockEntry (s : Scan) : Except Error Scan := do
  if s.flow = 0 ∧ !s.keyAllowed then throw .keyNotAllowed
  let s := s.openBlock s.cursor.column s.tokens.size .blockSequenceStart
  let s ← s.dropCandidate
  pure ({ s with keyAllowed := true }.take 1 .blockEntry)

def explicitKey (s : Scan) : Except Error Scan := do
  if s.flow = 0 ∧ !s.keyAllowed then throw .keyNotAllowed
  let s := s.openBlock s.cursor.column s.tokens.size .blockMappingStart
  let s ← s.dropCandidate
  pure ({ s with keyAllowed := s.flow = 0 }.take 1 .key)

/-- A colon makes the candidate in front of it a key. -/
def nextValue (s : Scan) : Except Error Scan :=
  match s.candidate? with
  | some c =>
    let s := { s with
      candidates := s.candidates.filter (·.1 ≠ s.flow)
      tokens := s.tokens.insertIdxIfInBounds c.place .key
      keyAllowed := false }
    .ok ((s.openBlock c.column c.place .blockMappingStart).take 1 .value)
  | none => do
    if s.flow = 0 ∧ !s.keyAllowed then throw .keyNotAllowed
    let s := s.openBlock s.cursor.column s.tokens.size .blockMappingStart
    let s ← { s with keyAllowed := s.flow = 0 }.dropCandidate
    pure (s.take 1 .value)

def quotedScalar (s : Scan) (double : Bool) : Except Error Scan := do
  let s ← s.saveCandidate
  let body := s.cursor.next
  let p ← quotedText double (body.rest.length + 1) body
  pure ({ s with cursor := p.cursor, keyAllowed := false }.emit (.quoted p.text))

def plainScalar (s : Scan) : Except Error Scan := do
  let s ← s.saveCandidate
  let p := plainWords (s.flow ≠ 0) (s.indent + 1) (s.cursor.rest.length + 1) s.cursor
  pure ({ s with cursor := p.cursor, keyAllowed := p.passedBreak }.emit (.plain p.text))

/-- Whether a plain scalar can begin with a character, given what follows it. -/
def beginsPlain (inFlow : Bool) (c : Char) (rest : List Char) : Bool :=
  !(isGap c || "-?:,[]\x7b\x7d#&*!|>'\"%@\x60".toList.contains c) ||
    (!startsWithGap rest && (c = '-' || (!inFlow && (c = '?' || c = ':'))))

/-- Scans one token; the text is not at its end. -/
def token (s : Scan) (c : Char) (rest : List Char) : Except Error Scan :=
  let inFlow := s.flow ≠ 0
  let spaced := startsWithGap rest
  if s.cursor.column = 0 ∧ startsWithMark '-' (c :: rest) then s.documentMark .documentStart
  else if s.cursor.column = 0 ∧ startsWithMark '.' (c :: rest) then s.documentMark .documentEnd
  else if c = '[' then s.openFlow .flowSequenceStart
  else if c = '\x7b' then s.openFlow .flowMappingStart
  else if c = ']' then s.closeFlow .flowSequenceEnd
  else if c = '\x7d' then s.closeFlow .flowMappingEnd
  else if c = ',' then s.nextFlowEntry
  else if c = '-' ∧ spaced then s.nextBlockEntry
  else if c = '?' ∧ (inFlow ∨ spaced) then s.explicitKey
  else if c = ':' ∧ (inFlow ∨ spaced) then s.nextValue
  else if c = '\'' then s.quotedScalar false
  else if c = '"' then s.quotedScalar true
  else if beginsPlain inFlow c rest then s.plainScalar
  else .error (.unexpected c)

/-- Ends the scan. -/
def finish (s : Scan) : Except Error (List Token) := do
  let s ← (s.closeBlocks (-1)).dropCandidate
  pure s.tokens.toList

/-- Scans token after token. -/
def run : Nat → Scan → Except Error (List Token)
  | 0, s => s.finish
  | fuel + 1, s => do
    let s ← s.toNext
    match s.cursor.rest with
    | [] => s.finish
    | c :: rest =>
      let s ← s.token c rest
      run fuel s

end Scan

/-- The characters that a document may hold. -/
def isPrintable (c : Char) : Bool :=
  let n := c.toNat
  n = 0x09 || n = 0x0a || n = 0x0d || (0x20 ≤ n && n ≤ 0x7e) || n = 0x85 ||
    (0xa0 ≤ n && n ≤ 0xfffd) || 0x10000 ≤ n

/-- The tokens of a document; a byte order mark in front does not count. -/
def tokenize (cs : List Char) : Except Error (List Token) :=
  match cs.find? (!isPrintable ·) with
  | some c => .error (.unprintable c)
  | none =>
    let body := if cs.head? = some '\uFEFF' then cs.drop 1 else cs
    Scan.run (body.length + 1) { cursor := { rest := body } }

end VCalendar.Yaml
