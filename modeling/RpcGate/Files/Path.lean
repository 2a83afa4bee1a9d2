import RpcGate.Text.Utf8

/-!
# Paths

A path is kept as it was written; joining neither normalises nor looks at
any file. Its names are walked from a directory; a slash at the end is one
more step, under no name, to a place that has to be a directory.
-/

namespace RpcGate

abbrev Path := Text

abbrev Name := Text

namespace Path

def isAbsolute (p : Path) : Bool := p.head? == some '/'

/-- `p` seen from `dir`; an absolute `p` stays. -/
def join (dir p : Path) : Path :=
  if isAbsolute p then p
  else if dir = [] ∨ dir.getLast? = some '/' then dir ++ p
  else dir ++ '/' :: p

/-- The path with `ending` added to its last name. -/
def withEnding (p : Path) (ending : String) : Path := p ++ ending.toList

/-- What stands after the last slash. -/
def lastPiece (p : Path) : Name := (Text.pieces '/' p).getLast?.getD []

/-- The names between the slashes. -/
def names (p : Path) : List Name := (Text.pieces '/' p).filter (· ≠ [])

/-- The names to walk, and an empty one for a slash at the end. -/
def steps (p : Path) : List Name := names p ++ if p.getLast? = some '/' then [[]] else []

/-- The last name, slashes after it left out; empty when the path ends in no name of its own but in
the root, `.` or `..`. -/
def lastName (p : Path) : Name :=
  match (names p).getLast? with
  | some n => if n = ['.'] ∨ n = ['.', '.'] then [] else n
  | none => []

/-- Whether the path ends right after a name of its own, so that the entry of that name is meant. -/
def endsInName (p : Path) : Bool := lastPiece p ≠ [] && lastName p ≠ []

def nameLimit : Nat := 255

def lengthLimit : Nat := 4096

end Path

end RpcGate
