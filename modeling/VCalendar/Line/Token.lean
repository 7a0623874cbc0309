import VCalendar.Line.Escape
import VCalendar.Text.Quoted

/-!
# Property lines

A property line has a name, parameters and a value: `NAME;PARAM=VALUE:TEXT`.  A
parameter value may stand between double quotes, where semicolons and colons are
ordinary.  The pieces are kept as they are written, backslashes included.
-/

namespace VCalendar

/-- A parameter of a property. -/
structure Parameter where
  name : String
  value : String
deriving DecidableEq, Repr

/-- The pieces of one property line. -/
structure Token where
  name : String
  parameters : List Parameter
  value : String
deriving DecidableEq, Repr

/-- The pieces of a value between commas. -/
def splitValues (value : String) : List String :=
  (value.toList.splitOn ',').map String.ofList

def Token.values (t : Token) : List String :=
  splitValues t.value

namespace Line

/-- What is wrong with a line that has no pieces. -/
inductive Flaw where
  | unendedName
  | missingEquals
  | unendedQuote
  | missingColon
  | textAfterQuote
  | unendedValue
deriving DecidableEq, Repr

def Flaw.reason : Flaw → String
  | .unendedName => "no ':' or ';' after property name"
  | .missingEquals => "parameter without '='"
  | .unendedQuote => "unterminated quoted parameter value"
  | .missingColon => "missing ':' before property value"
  | .textAfterQuote => "unexpected text after quoted parameter value"
  | .unendedValue => "unterminated parameter value"

/-- The value of a parameter, the delimiter behind it and the rest. -/
def readParameterValue : List Char → Except Flaw (List Char × Char × List Char)
  | '"' :: quoted =>
    match scanTo ['"'] quoted with
    | none => .error .unendedQuote
    | some (_, _, []) => .error .missingColon
    | some (value, _, c :: rest) =>
      if c = ';' ∨ c = ':' then .ok (value, c, rest) else .error .textAfterQuote
  | cs =>
    match scanTo [';', ':'] cs with
    | none => .error .unendedValue
    | some piece => .ok piece

/-- A parameter, the delimiter behind it and the rest. -/
def readParameter (cs : List Char) : Except Flaw (Parameter × Char × List Char) :=
  match scanTo ['=', ';', ':'] cs with
  | some (name, '=', rest) =>
    (readParameterValue rest).map fun (value, stop, after) =>
      (⟨String.ofList name, String.ofList value⟩, stop, after)
  | _ => .error .missingEquals

theorem length_lt_of_readParameterValue {cs value after : List Char} {stop : Char}
    (h : readParameterValue cs = .ok (value, stop, after)) : after.length < cs.length := by
  unfold readParameterValue at h
  split at h
  · rename_i quoted
    split at h
    · simp at h
    · simp at h
    · rename_i found
      split at h
      · have := length_lt_of_scanTo found
        simp only [Except.ok.injEq, Prod.mk.injEq] at h
        obtain ⟨_, _, rfl⟩ := h
        simp only [List.length_cons] at this ⊢
        omega
      · simp at h
  · split at h
    · simp at h
    · rename_i found
      cases h
      exact length_lt_of_scanTo found

theorem length_lt_of_readParameter {cs after : List Char} {p : Parameter} {stop : Char}
    (h : readParameter cs = .ok (p, stop, after)) : after.length < cs.length := by
  unfold readParameter at h
  split at h
  · rename_i rest found
    have shorter := length_lt_of_scanTo found
    cases read : readParameterValue rest with
    | error e => simp [read, Except.map] at h
    | ok piece =>
      obtain ⟨value, c, a⟩ := piece
      simp only [read, Except.map, Except.ok.injEq, Prod.mk.injEq] at h
      obtain ⟨_, _, rfl⟩ := h
      exact Nat.lt_trans (length_lt_of_readParameterValue read) shorter
  · simp at h

/-- The parameters and the value behind the delimiter that ended the name or a
parameter: a semicolon announces a parameter, a colon the value. -/
def readParameters (delimiter : Char) (cs : List Char) :
    Except Flaw (List Parameter × List Char) :=
  if delimiter = ';' then
    match read : readParameter cs with
    | .error flaw => .error flaw
    | .ok (p, stop, rest) =>
      have := length_lt_of_readParameter read
      (readParameters stop rest).map fun (ps, value) => (p :: ps, value)
  else .ok ([], cs)
termination_by cs.length

/-- Cuts a line into its pieces. -/
def tokenizeChars (cs : List Char) : Except Flaw Token :=
  match scanTo [';', ':'] cs with
  | none => .error .unendedName
  | some (name, stop, rest) =>
    (readParameters stop rest).map fun (ps, value) =>
      ⟨String.ofList name, ps, String.ofList value⟩

def tokenize (line : String) : Except Flaw Token :=
  tokenizeChars line.toList

end Line

end VCalendar
