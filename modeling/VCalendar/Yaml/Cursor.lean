import VCalendar.Yaml.Error

/-!
# Positions in a document

A cursor is the rest of a text together with its distance from the beginning, its
line and its column.
-/

namespace VCalendar.Yaml

/-- The characters that end a line. -/
def isBreak (c : Char) : Bool :=
  c = '\n' || c = '\r' || c = '\x85' || c = '\u2028' || c = '\u2029'

/-- The characters between tokens. -/
def isGap (c : Char) : Bool :=
  c = ' ' || c = '\t' || isBreak c

/-- Whether the text ends or goes on with a gap. -/
def startsWithGap : List Char → Bool
  | [] => true
  | c :: _ => isGap c

/-- Whether a line begins with the mark of a document's start or end. -/
def startsWithMark (mark : Char) : List Char → Bool
  | a :: b :: c :: rest => a = mark && b = mark && c = mark && startsWithGap rest
  | _ => false

def atDocumentMark (cs : List Char) : Bool :=
  startsWithMark '-' cs || startsWithMark '.' cs

/-- What a line end inside a text stands for. -/
def breakText (c : Char) : Char :=
  if c = '\u2028' ∨ c = '\u2029' then c else '\n'

structure Cursor where
  rest : List Char
  offset : Nat := 0
  line : Nat := 0
  column : Nat := 0
deriving Repr

namespace Cursor

/-- Steps over one character; a byte order mark takes up no column. -/
def next (k : Cursor) : Cursor :=
  match k.rest with
  | [] => k
  | c :: rest =>
    if isBreak c then ⟨rest, k.offset + 1, k.line + 1, 0⟩
    else if c = '\uFEFF' then ⟨rest, k.offset + 1, k.line, k.column⟩
    else ⟨rest, k.offset + 1, k.line, k.column + 1⟩

def skip : Nat → Cursor → Cursor
  | 0, k => k
  | n + 1, k => skip n k.next

/-- Steps over the characters that satisfy a test, at most so many. -/
def skipWhile (p : Char → Bool) (k : Cursor) : Cursor :=
  skip (k.rest.takeWhile p).length k

end Cursor

end VCalendar.Yaml
