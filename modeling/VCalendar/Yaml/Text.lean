import VCalendar.Yaml.Cursor

/-!
# Texts of scalars

Scalars may go on over several lines.  A single line end between two words stands
for a space and further ones for themselves; blanks around line ends do not count.
-/

namespace VCalendar.Yaml

/-- A text, the cursor behind it, and whether a line end was passed at its end. -/
structure Piece where
  text : List Char
  cursor : Cursor
  passedBreak : Bool := false

/-- What a sequence of line ends stands for. -/
def joinBreaks : List Char → List Char
  | [] => []
  | first :: others =>
    if first ≠ '\n' then first :: others
    else if others.isEmpty then [' ']
    else others

/-! ## Plain scalars -/

/-- Whether a plain scalar ends at a character, given what follows it. -/
def endsPlain (inFlow : Bool) (c : Char) (rest : List Char) : Bool :=
  isGap c ||
    (c = ':' &&
      (startsWithGap rest || inFlow && rest.head?.any (",[]\x7b\x7d".toList.contains ·))) ||
    (inFlow && ",?[]\x7b\x7d".toList.contains c)

/-- The characters up to the end of a word of a plain scalar. -/
def plainWord (inFlow : Bool) : List Char → List Char
  | [] => []
  | c :: rest => if endsPlain inFlow c rest then [] else c :: plainWord inFlow rest

/-- The line ends from here to the next word, or none if a document mark comes first. -/
def plainBreaks : Nat → Cursor → Option (List Char) × Cursor
  | 0, k => (some [], k)
  | fuel + 1, k =>
    match k.rest with
    | [] => (some [], k)
    | c :: rest =>
      if c = ' ' then plainBreaks fuel k.next
      else if isBreak c then
        if atDocumentMark rest then (none, k.next)
        else
          let (breaks, k) := plainBreaks fuel k.next
          (breaks.map (breakText c :: ·), k)
      else (some [], k)

/-- What stands between two words of a plain scalar; nothing if it ends here. -/
def plainGap (k : Cursor) : Piece :=
  let blanks := k.rest.takeWhile (· = ' ')
  let after := k.skipWhile (· = ' ')
  match after.rest with
  | c :: _ =>
    if isBreak c then
      let (breaks, behind) := plainBreaks (after.rest.length + 1) after
      ⟨(breaks.map joinBreaks).getD [], behind, true⟩
    else ⟨blanks, after, false⟩
  | [] => ⟨blanks, after, false⟩

/-- The words of a plain scalar from here on; lines after the first have to be
indented at least so far, unless in a flow collection. -/
def plainWords (inFlow : Bool) (indent : Int) : Nat → Cursor → Piece
  | 0, k => ⟨[], k, false⟩
  | fuel + 1, k =>
    if k.rest.head? = some '#' then ⟨[], k, false⟩
    else
      let word := plainWord inFlow k.rest
      if word.isEmpty then ⟨[], k, false⟩
      else
        let gap := plainGap (k.skip word.length)
        if gap.text.isEmpty || gap.cursor.rest.head? = some '#' ||
            (!inFlow && (gap.cursor.column : Int) < indent) then
          ⟨word, gap.cursor, gap.passedBreak⟩
        else
          let more := plainWords inFlow indent fuel gap.cursor
          if more.text.isEmpty then ⟨word, more.cursor, gap.passedBreak⟩
          else ⟨word ++ gap.text ++ more.text, more.cursor, more.passedBreak⟩

/-! ## Quoted scalars -/

/-- The character that a letter stands for behind a backslash. -/
def escapes : List (Char × Char) :=
  [('0', '\x00'), ('a', '\x07'), ('b', '\x08'), ('t', '\t'), ('\t', '\t'), ('n', '\n'),
    ('v', '\x0b'), ('f', '\x0c'), ('r', '\r'), ('e', '\x1b'), (' ', ' '), ('"', '"'),
    ('\\', '\\'), ('/', '/'), ('N', '\x85'), ('_', '\xa0'), ('L', '\u2028'), ('P', '\u2029')]

/-- The number of hexadecimal digits behind a letter. -/
def escapeWidth? (c : Char) : Option Nat :=
  if c = 'x' then some 2 else if c = 'u' then some 4 else if c = 'U' then some 8 else none

def hexValue? (c : Char) : Option Nat :=
  if c.isDigit then some (c.toNat - 48)
  else if 'a' ≤ c ∧ c ≤ 'f' then some (c.toNat - 87)
  else if 'A' ≤ c ∧ c ≤ 'F' then some (c.toNat - 55)
  else none

/-- The character with the number spelled by hexadecimal digits. -/
def hexChar? (width : Nat) (cs : List Char) : Option Char := do
  let ds ← (cs.take width).mapM hexValue?
  let n := ds.foldl (fun n d => 16 * n + d) 0
  if ds.length = width ∧ n.isValidChar then some (Char.ofNat n) else none

/-- The line ends from the beginning of a line to the next character of a quoted text. -/
def quotedBreaks : Nat → Cursor → Except Error (List Char × Cursor)
  | 0, k => .ok ([], k)
  | fuel + 1, k =>
    if atDocumentMark k.rest then .error .documentMark
    else
      let k := k.skipWhile fun c => c = ' ' || c = '\t'
      match k.rest with
      | c :: _ =>
        if isBreak c then
          (quotedBreaks fuel k.next).map fun (breaks, k) => (breakText c :: breaks, k)
        else .ok ([], k)
      | [] => .ok ([], k)

/-- The blanks and line ends between two words of a quoted text. -/
def quotedGap (k : Cursor) : Except Error Piece :=
  let isBlank := fun c => c = ' ' || c = '\t'
  let blanks := k.rest.takeWhile isBlank
  let after := k.skipWhile isBlank
  match after.rest with
  | [] => .error .unexpectedEnd
  | c :: _ =>
    if isBreak c then
      (quotedBreaks (after.rest.length + 1) after.next).map fun (breaks, k) =>
        ⟨joinBreaks (breakText c :: breaks), k, true⟩
    else .ok ⟨blanks, after, false⟩

/-- What a backslash and the text behind it stand for. -/
def escaped (k : Cursor) : Except Error Piece :=
  match k.rest with
  | [] => .error .badEscape
  | c :: rest =>
    match escapes.lookup c, escapeWidth? c with
    | some d, _ => .ok ⟨[d], k.next, false⟩
    | none, some width =>
      match hexChar? width rest with
      | some d => .ok ⟨[d], k.skip (width + 1), false⟩
      | none => .error .badEscape
    | none, none =>
      if isBreak c then
        (quotedBreaks (rest.length + 1) k.next).map fun (breaks, k) => ⟨breaks, k, true⟩
      else .error .badEscape

/-- The text up to the closing quote, which is doubled inside single quotes. -/
def quotedText (double : Bool) : Nat → Cursor → Except Error Piece
  | 0, _ => .error .unexpectedEnd
  | fuel + 1, k =>
    let goOn (p : Piece) : Except Error Piece :=
      (quotedText double fuel p.cursor).map fun more => ⟨p.text ++ more.text, more.cursor, false⟩
    match k.rest with
    | [] => .error .unexpectedEnd
    | c :: rest =>
      if c = (if double then '"' else '\'') then
        if !double && rest.head? = some '\'' then goOn ⟨['\''], k.skip 2, false⟩
        else .ok ⟨[], k.next, false⟩
      else if double && c = '\\' then (escaped k.next).bind goOn
      else if isGap c then (quotedGap k).bind goOn
      else goOn ⟨[c], k.next, false⟩

end VCalendar.Yaml
