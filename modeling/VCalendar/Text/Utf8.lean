/-!
# Reading UTF-8

Bytes are read by a machine that is either between characters or inside a
sequence whose remaining continuation bytes it knows the bounds of.  A byte
outside those bounds ends the sequence as ill-formed and is read again from
between characters, so each maximal ill-formed part counts once and no part
swallows a well-formed character behind it.
-/

namespace VCalendar.Text.Utf8

/-- An unfinished sequence: the bits read so far, the bounds of the next byte,
and how many further bytes follow that one. -/
structure Partial where
  bits : Nat
  low : Nat
  high : Nat
  further : Nat
deriving DecidableEq, Repr

/-- What a byte completes, an ill-formed part being `none`, and the sequence it leaves
unfinished. -/
abbrev Step := List (Option Char) × Option Partial

/-- The step of a byte between characters.  The narrow bounds behind some lead bytes
keep out overlong forms, surrogates and numbers above the last code point. -/
def start (b : Nat) : Step :=
  if b < 0x80 then ([some (Char.ofNat b)], none)
  else if b < 0xc2 then ([none], none)
  else if b < 0xe0 then ([], some ⟨b - 0xc0, 0x80, 0xbf, 0⟩)
  else if b = 0xe0 then ([], some ⟨0, 0xa0, 0xbf, 1⟩)
  else if b = 0xed then ([], some ⟨0xd, 0x80, 0x9f, 1⟩)
  else if b < 0xf0 then ([], some ⟨b - 0xe0, 0x80, 0xbf, 1⟩)
  else if b = 0xf0 then ([], some ⟨0, 0x90, 0xbf, 2⟩)
  else if b < 0xf4 then ([], some ⟨b - 0xf0, 0x80, 0xbf, 2⟩)
  else if b = 0xf4 then ([], some ⟨4, 0x80, 0x8f, 2⟩)
  else ([none], none)

/-- The step of a byte inside a sequence. -/
def Partial.step (p : Partial) (b : Nat) : Step :=
  if p.low ≤ b ∧ b ≤ p.high then
    let bits := 64 * p.bits + b % 64
    match p.further with
    | 0 => ([some (Char.ofNat bits)], none)
    | further + 1 => ([], some ⟨bits, 0x80, 0xbf, further⟩)
  else
    let (completed, unfinished) := start b
    (none :: completed, unfinished)

/-- The characters and ill-formed parts (`none`) of a byte sequence. -/
def scan : Option Partial → List UInt8 → List (Option Char)
  | none, [] => []
  | some _, [] => [none]
  | state, b :: rest =>
    let (completed, unfinished) := state.elim (start b.toNat) (·.step b.toNat)
    completed ++ scan unfinished rest

/-- Reads bytes with each ill-formed part replaced by U+FFFD. -/
def decode (bytes : List UInt8) : List Char :=
  (scan none bytes).map (·.getD '\uFFFD')

/-- Reads bytes that must be well formed throughout. -/
def decode? (bytes : List UInt8) : Option (List Char) :=
  (scan none bytes).mapM id

def encode (cs : List Char) : List UInt8 :=
  cs.flatMap String.utf8EncodeChar

/-- The number of bytes that encode the text. -/
def size (cs : List Char) : Nat :=
  (encode cs).length

end VCalendar.Text.Utf8
