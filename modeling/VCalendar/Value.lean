import VCalendar.Number.Numeral
import VCalendar.Number.Shortest
import VCalendar.Text.Quoted

/-!
# Setting values

A setting is given as one of the plain data values that configuration formats
share: nothing, a truth value, a number, a text, a list or a mapping.  Values of
other kinds, such as dates, are known by what settings can see of them.  The
module has the literal text of a value and its readings as a truth value, as
an integer and as a text.
-/

namespace VCalendar

open VCalendar.Number

/-- A value of a further kind: its literal, its text, whether it counts as true, and the
integer that it reads as.  As a key it is no text. -/
structure ForeignValue where
  literal : String
  text : String
  truthy : Bool
  integer : Option Int
deriving DecidableEq, Repr

inductive Value where
  | null
  | bool (b : Bool)
  | int (i : Int)
  | float (x : Binary64)
  | text (s : String)
  | list (items : List Value)
  | map (entries : List (Value × Value))
  | foreign (v : ForeignValue)
deriving Inhabited, Repr

namespace Value

/-- The words for the two truth values. -/
def boolText (b : Bool) : String :=
  if b then "True" else "False"

mutual

/-- The literal text of a value. -/
def literal : Value → String
  | .null => "None"
  | .bool b => boolText b
  | .int i => toString i
  | .float x => x.text
  | .text s => Text.quote s
  | .list items => "[" ++ ", ".intercalate (itemLiterals items) ++ "]"
  | .map entries => "\x7b" ++ ", ".intercalate (entryLiterals entries) ++ "\x7d"
  | .foreign v => v.literal

def itemLiterals : List Value → List String
  | [] => []
  | v :: rest => v.literal :: itemLiterals rest

def entryLiterals : List (Value × Value) → List String
  | [] => []
  | (k, v) :: rest => (k.literal ++ ": " ++ v.literal) :: entryLiterals rest

end

mutual

/-- Whether a value has a literal: an integer of too many digits is not written. -/
def isWritable : Value → Bool
  | .int i => i.natAbs < Nat.pow 10 maxDigits
  | .list items => areItemsWritable items
  | .map entries => areEntriesWritable entries
  | .null | .bool _ | .float _ | .text _ | .foreign _ => true

def areItemsWritable : List Value → Bool
  | [] => true
  | v :: rest => v.isWritable && areItemsWritable rest

def areEntriesWritable : List (Value × Value) → Bool
  | [] => true
  | (k, v) :: rest => k.isWritable && v.isWritable && areEntriesWritable rest

end

/-- A value as plain text: a text stands for itself, plain data for its literal. -/
def display : Value → String
  | .text s => s
  | .foreign v => v.text
  | v => v.literal

/-- Nothing, zero and what is empty count as false. -/
def truthy : Value → Bool
  | .null => false
  | .bool b => b
  | .int i => i ≠ 0
  | .float x => !x.isZero
  | .text s => s ≠ ""
  | .list items => !items.isEmpty
  | .map entries => !entries.isEmpty
  | .foreign v => v.truthy

/-- A value read as an integer. -/
inductive IntReading where
  | int (i : Int)
  | infinite
  | notInt
deriving DecidableEq, Repr

/-- An integer, if there is one. -/
def IntReading.ofOption : Option Int → IntReading
  | some i => .int i
  | none => .notInt

/-- Numbers lose their fraction and texts are read as numerals. -/
def toIntReading : Value → IntReading
  | .bool b => .int (if b then 1 else 0)
  | .int i => .int i
  | .float (.infinite _) => .infinite
  | .float x => .ofOption x.truncate?
  | .text s => .ofOption (readInt? s)
  | .foreign v => .ofOption v.integer
  | .null | .list _ | .map _ => .notInt

/-- Whether two values are the same key of a mapping: texts by their characters, and
numbers and truth values by their numeric value.  As a key the undefined number is
the same as itself. -/
def sameKey : Value → Value → Bool
  | .text s, .text t => s = t
  | .null, .null => true
  | a, b =>
    match exactInt? a, exactInt? b with
    | some i, some j => i = j
    | none, none =>
      match a, b with
      | .float x, .float y => x = y
      | _, _ => false
    | _, _ => false
where
  exactInt? : Value → Option Int
    | .bool b => some (if b then 1 else 0)
    | .int i => some i
    | .float x => match x.truncate? with
      | some i => if x.isInteger then some i else none
      | none => none
    | _ => none

end Value

/-- The entries of a mapping in order; later entries do not repeat a key. -/
abbrev Mapping := List (Value × Value)

namespace Mapping

/-- Sets a key: in its old place if it is there, else at the end. -/
def put : Mapping → Value → Value → Mapping
  | [], k, v => [(k, v)]
  | (k', v') :: rest, k, v =>
    if k'.sameKey k then (k', v) :: rest else (k', v') :: put rest k v

/-- The value under a text key. -/
def find? (m : Mapping) (key : String) : Option Value :=
  (List.find? (fun entry : Value × Value => entry.1.sameKey (.text key)) m).map (·.2)

end Mapping

end VCalendar
