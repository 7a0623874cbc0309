import VCalendar.Journal.Event

/-!
# The hierarchy of loggers

A logger lies under the nearest logger whose name stands before a dot in its own
name, and under the root if there is none.  Loggers come into being when they are
first named, so a new one may slip in between an older one and what that lay
under.  The level in force at a logger is the first one set on the way up to the
root.  A logger remembers whether it let a level pass until some level is set.
-/

namespace VCalendar

/-- A logger below the root: the level set at it, 0 for none, and the logger that it
lies under, none for the root. -/
structure Branch where
  name : String
  level : Int := 0
  above : Option String := none
deriving DecidableEq, Repr

/-- The loggers that have been named, oldest first, and what they remember. -/
structure LoggerTree where
  rootLevel : Int := Level.warning.number
  branches : List Branch := []
  answers : List ((String × Int) × Bool) := []
deriving DecidableEq, Repr

namespace LoggerTree

/-- The name of the root. -/
def rootName : String := "root"

/-- Whether a name is that of the root. -/
def isRoot (name : String) : Bool :=
  name = "" || name = rootName

/-- What stands before the dots of a name, both read from the end.  A dot right before
a dot that counts does not count, nor does one at the beginning of the name. -/
def partsBeforeDots : List Char → List (List Char)
  | [] => []
  | '.' :: c :: rest => (c :: rest) :: partsBeforeDots rest
  | _ :: rest => partsBeforeDots rest

/-- The names under which a logger may lie, nearest first. -/
def places (name : String) : List String :=
  (partsBeforeDots name.toList.reverse).map fun part => String.ofList part.reverse

def branch? (t : LoggerTree) (name : String) : Option Branch :=
  t.branches.find? (·.name = name)

/-- Puts an older logger under a new one, if it may lie there and does not yet lie under
a logger whose name begins with that of the new one. -/
def adopt (name : String) (b : Branch) : Branch :=
  if name ∈ places b.name ∧ !name.isPrefixOf (b.above.getD rootName) then
    { b with above := some name }
  else b

/-- Makes sure that there is a logger of a name. -/
def register (t : LoggerTree) (name : String) : LoggerTree :=
  if isRoot name || (t.branch? name).isSome then t
  else
    let above := (places name).find? fun place => (t.branch? place).isSome
    { t with branches := t.branches.map (adopt name) ++ [⟨name, 0, above⟩] }

/-- Sets the level of a logger, and lets all loggers forget. -/
def setLevel (t : LoggerTree) (name : String) (level : Int) : LoggerTree :=
  if isRoot name then { t with rootLevel := level, answers := [] }
  else
    let t := t.register name
    { t with
      branches := t.branches.map fun b => if b.name = name then { b with level := level } else b
      answers := [] }

/-- The level set at a logger. -/
def ownLevel (t : LoggerTree) (name : String) : Int :=
  if isRoot name then t.rootLevel else (t.branch? name).elim 0 (·.level)

/-- The level in force at a logger, looked for in so many loggers before the root. -/
def levelFrom (t : LoggerTree) : Nat → String → Int
  | 0, _ => t.rootLevel
  | fuel + 1, name =>
    match t.branch? name with
    | none => t.rootLevel
    | some b => if b.level ≠ 0 then b.level else b.above.elim t.rootLevel (t.levelFrom fuel)

/-- The level in force at a logger; names get shorter on the way up. -/
def effectiveLevel (t : LoggerTree) (name : String) : Int :=
  t.levelFrom (name.length + 1) name

/-- Whether a logger lets a level pass, as it remembers or decides now; what is not
positive never passes. -/
def ask (t : LoggerTree) (name : String) (level : Int) : LoggerTree × Bool :=
  let t := t.register name
  match t.answers.lookup (name, level) with
  | some answer => (t, answer)
  | none =>
    let answer := 0 < level && t.effectiveLevel name ≤ level
    ({ t with answers := ((name, level), answer) :: t.answers }, answer)

end LoggerTree

end VCalendar
