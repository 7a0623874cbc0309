import VCalendar.Text.Quoted

/-!
# Files

What a run can see of its files: by the path of a file, its bytes or why it
cannot be read.  A tree of named files gives that view without a disk.
-/

namespace VCalendar

/-- Why a file cannot be read. -/
inductive FileError where
  | absent
  | notDirectory
  | isDirectory
  | nameTooLong
  /-- The path holds a NUL character. -/
  | nulInPath
  /-- Another failure, by its number and words. -/
  | other (number : Nat) (words : String)
deriving DecidableEq, Repr

/-- The number and the words of a file error. -/
def FileError.words : FileError → Nat × String
  | .absent => (2, "No such file or directory")
  | .notDirectory => (20, "Not a directory")
  | .isDirectory => (21, "Is a directory")
  | .nameTooLong => (36, "File name too long")
  | .nulInPath => (22, "embedded null byte")
  | .other number words => (number, words)

/-- Whether a file that cannot be read counts as not there: nothing is at its path, which
may also be no path or lead around in circles. -/
def FileError.meansAbsent : FileError → Bool
  | .absent | .notDirectory | .nulInPath => true
  | .isDirectory | .nameTooLong => false
  | .other number _ => number = 9 ∨ number = 40

def FileError.message (e : FileError) (path : String) : String :=
  match e with
  | .nulInPath => e.words.2
  | _ => "[Errno " ++ toString e.words.1 ++ "] " ++ e.words.2 ++ ": " ++ Text.quote path

/-! ## Paths -/

namespace Path

/-- The names in a path; empty ones and single dots do not count. -/
def names (path : String) : List String :=
  ((path.toList.splitOn '/').map String.ofList).filter fun name => name ≠ "" ∧ name ≠ "."

/-- The root of a path: exactly two slashes in front are kept, other numbers are one. -/
def root (path : String) : String :=
  match (path.toList.takeWhile (· = '/')).length with
  | 0 => ""
  | 2 => "//"
  | _ => "/"

/-- A path as it is shown. -/
def normalize (path : String) : String :=
  let s := root path ++ "/".intercalate (names path)
  if s = "" then "." else s

/-- A name inside a directory. -/
def join (directory name : String) : String :=
  if directory.toList.getLast? = some '/' then directory ++ name else directory ++ "/" ++ name

end Path

/-! ## Trees -/

/-- An entry of a tree. -/
inductive FileEntry where
  | file (bytes : ByteArray)
  | directory

/-- Files and directories by the names on the way to them.  A name on the way to an
entry is a directory. -/
abbrev FileTree := List (List String × FileEntry)

namespace FileTree

/-- The longest name in bytes. -/
def maxNameSize : Nat := 255

/-- The longest path in bytes. -/
def maxPathSize : Nat := 4095

/-- What lies at a place. -/
def entry? (t : FileTree) (place : List String) : Option FileEntry :=
  match t.find? (·.1 = place) with
  | some (_, e) => some e
  | none =>
    if place.isEmpty || t.any (fun (names, _) => place.isPrefixOf names) then some .directory
    else none

/-- Follows names above a tree, where nothing is known but the directories on the way up. -/
def followOutside : List String → Except FileError FileEntry
  | [] => .ok .directory
  | name :: rest =>
    if name = ".." then followOutside rest
    else if maxNameSize < name.utf8ByteSize then .error .nameTooLong
    else .error .absent

/-- Follows names from a directory. -/
def follow (t : FileTree) (place : List String) : List String → Except FileError FileEntry
  | [] =>
    match t.entry? place with
    | some e => .ok e
    | none => .error .absent
  | name :: rest =>
    match t.entry? place with
    | none => .error .absent
    | some (.file _) => .error .notDirectory
    | some .directory =>
      if maxNameSize < name.utf8ByteSize then .error .nameTooLong
      else if name ≠ ".." then follow t (place ++ [name]) rest
      else if place.isEmpty then followOutside rest
      else follow t place.dropLast rest

/-- What is known of the files outside of every tree: the null device is empty. -/
def devices : FileTree :=
  [(["dev", "null"], .file .empty)]

/-- Reads the file at a path. -/
def read (t : FileTree) (path : String) : Except FileError ByteArray :=
  if path.toList.contains '\x00' then .error .nulInPath
  else if maxPathSize < (Path.normalize path).utf8ByteSize then .error .nameTooLong
  else
    let names := Path.names path
    match if Path.root path = "" then t.follow [] names else devices.follow [] names with
    | .error e => .error e
    | .ok .directory => .error .isDirectory
    | .ok (.file bytes) => .ok bytes

end FileTree

/-- What a run is given from outside: the name of its directory, its files by path,
and the variables of its environment. -/
structure Surroundings where
  directory : String
  read : String → Except FileError ByteArray
  environment : String → Option String

end VCalendar
