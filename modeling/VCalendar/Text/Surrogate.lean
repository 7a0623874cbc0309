import VCalendar.Text.Quoted

/-!
# Texts without an encoding

A surrogate is a code point that is no character.  A text that holds one has no
encoding, and the attempt to encode it stops at the first run of surrogates.
-/

namespace VCalendar.Text

/-- A code point that is no character. -/
structure Surrogate where
  code : Nat
  lower : 0xd800 ≤ code
  upper : code ≤ 0xdfff
deriving DecidableEq, Repr

/-- A text that holds a surrogate: the characters in front of the first one, and what
follows it. -/
structure BrokenText where
  front : List Char
  first : Surrogate
  rest : List (Char ⊕ Surrogate)
deriving DecidableEq, Repr

/-- Where the encoding of a text stops: at a run of surrogates. -/
structure EncodingFlaw where
  position : Nat
  first : Surrogate
  /-- How many surrogates follow the first one of the run. -/
  further : Nat
deriving DecidableEq, Repr

/-- The first run of surrogates. -/
def BrokenText.flaw (s : BrokenText) : EncodingFlaw where
  position := s.front.length
  first := s.first
  further := (s.rest.takeWhile (·.isRight)).length

def EncodingFlaw.message (flaw : EncodingFlaw) : String :=
  "'utf-8' codec can't encode character" ++
    (if flaw.further = 0 then
      " '\\u" ++ String.ofList (hexDigits 4 flaw.first.code) ++ "' in position " ++
        toString flaw.position
    else
      "s in position " ++ toString flaw.position ++ "-" ++
        toString (flaw.position + flaw.further)) ++
    ": surrogates not allowed"

example : (BrokenText.flaw ⟨['a'], ⟨0xd800, by decide, by decide⟩, [.inl 'b']⟩).message =
    "'utf-8' codec can't encode character '\\ud800' in position 1: surrogates not allowed" := by
  decide +kernel

end VCalendar.Text
