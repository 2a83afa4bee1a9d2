import RpcGate.Files.Fault
import RpcGate.Files.Path

/-!
# File systems

A file system is a finite map from locations to files, directories and
symbolic links. `node?` is its one view: every operation is described by
what it does to `node?`.

Operations see the world as the owner of all files without any privilege:
the owner's three permission bits decide.
-/

namespace RpcGate

/-- The twelve permission bits. -/
abbrev Mode := BitVec 12

namespace Mode

def canRead (m : Mode) : Bool := m &&& 0o400 ≠ 0
def canWrite (m : Mode) : Bool := m &&& 0o200 ≠ 0
def canSearch (m : Mode) : Bool := m &&& 0o100 ≠ 0

def show4 (m : Mode) : Text := Text.octal4 m.toNat

end Mode

/-- A place in the tree: the names on the way to it, the innermost first. -/
abbrev Location := List Name

def Location.path (loc : Location) : Path :=
  if loc = [] then ['/'] else loc.reverse.flatMap fun n => '/' :: n

inductive Node
  | file (content : Bytes) (mode : Mode)
  | directory (mode : Mode)
  | link (target : Path)
  deriving DecidableEq, Repr

namespace Node

def isFile : Node → Bool
  | file .. => true
  | _ => false

def isDirectory : Node → Bool
  | directory _ => true
  | _ => false

/-- A link has no bits of its own. -/
def mode : Node → Mode
  | file _ m => m
  | directory m => m
  | link _ => 0o777

def withMode (m : Mode) : Node → Node
  | file c _ => file c m
  | directory _ => directory m
  | link t => link t

end Node

structure FileSystem where
  nodes : List (Location × Node)
  /-- The bits that new files do not get. -/
  umask : Mode
  /-- Where relative paths start. -/
  here : Location
  deriving DecidableEq, Repr

namespace FileSystem

def empty (umask : Mode) : FileSystem := ⟨[([], .directory 0o755)], umask, []⟩

def node? (fs : FileSystem) (loc : Location) : Option Node := fs.nodes.lookup loc

def insert (fs : FileSystem) (loc : Location) (n : Node) : FileSystem :=
  { fs with nodes := (loc, n) :: fs.nodes.filter fun e => e.1 ≠ loc }

def erase (fs : FileSystem) (loc : Location) : FileSystem :=
  { fs with nodes := fs.nodes.filter fun e => e.1 ≠ loc }

theorem lookup_filter_self (loc : Location) (l : List (Location × Node)) :
    (l.filter fun e => e.1 ≠ loc).lookup loc = none := by
  induction l with
  | nil => rfl
  | cons e l ih =>
    obtain ⟨a, n⟩ := e
    rw [List.filter_cons]
    split
    next h =>
      have h : a ≠ loc := by simpa using h
      have : (loc == a) = false := by simp [Ne.symm h]
      rw [List.lookup_cons, this, ih]
    next => exact ih

theorem lookup_filter_of_ne {loc other : Location} (h : other ≠ loc) (l : List (Location × Node)) :
    (l.filter fun e => e.1 ≠ loc).lookup other = l.lookup other := by
  induction l with
  | nil => rfl
  | cons e l ih =>
    obtain ⟨a, n⟩ := e
    rw [List.filter_cons]
    split
    next => rw [List.lookup_cons, List.lookup_cons, ih]
    next ha =>
      have ha : a = loc := by simpa using ha
      rw [ih, List.lookup_cons]
      have : (other == a) = false := by simp [ha, h]
      simp [this]

theorem node?_insert (fs : FileSystem) (loc other : Location) (n : Node) :
    (fs.insert loc n).node? other = if other = loc then some n else fs.node? other := by
  unfold insert node?
  by_cases h : other = loc
  · simp [h]
  · have : (other == loc) = false := by simp [h]
    simp only [List.lookup_cons, this, h, if_false]
    exact lookup_filter_of_ne h _

theorem node?_insert_self (fs : FileSystem) (loc : Location) (n : Node) : (fs.insert loc n).node? loc = some n := by
  rw [node?_insert, if_pos rfl]

theorem node?_erase (fs : FileSystem) (loc other : Location) :
    (fs.erase loc).node? other = if other = loc then none else fs.node? other := by
  unfold erase node?
  by_cases h : other = loc
  · subst h; simpa using lookup_filter_self other fs.nodes
  · simpa [h] using lookup_filter_of_ne h fs.nodes

theorem insert_insert (fs : FileSystem) (loc : Location) (a b : Node) :
    (fs.insert loc a).insert loc b = fs.insert loc b := by
  simp [insert, List.filter_filter]

theorem erase_insert (fs : FileSystem) (loc : Location) (n : Node) :
    (fs.insert loc n).erase loc = fs.erase loc := by
  simp [insert, erase, List.filter_filter]

theorem insert_erase (fs : FileSystem) (loc : Location) (n : Node) :
    (fs.erase loc).insert loc n = fs.insert loc n := by
  simp [insert, erase, List.filter_filter]

theorem erase_eq_self {fs : FileSystem} {loc : Location} (h : fs.node? loc = none) : fs.erase loc = fs := by
  have hne : ∀ e ∈ fs.nodes, e.1 ≠ loc := by
    intro e he
    have := List.lookup_eq_none_iff.1 h e he
    exact Ne.symm (by simpa using this)
  unfold erase
  rw [List.filter_eq_self.2 fun e he => by simpa using hne e he]

/-! ## Walking a path -/

/-- How many links one walk may follow. -/
def linkLimit : Nat := 40

/-- What a walk is for: to reach what a path leads to, to find the entry it names, or to make a file
there, where nothing may be yet or where there may be one. -/
inductive Aim
  | reach
  | entry
  | makeNew
  | make
  deriving DecidableEq, Repr

def Aim.follows : Aim → Bool
  | reach | make => true
  | entry | makeNew => false

def Aim.makes : Aim → Bool
  | makeNew | make => true
  | reach | entry => false

/-- Walks `names` from `loc`. The last name may have no entry. No file can be made under a name with
a slash after it, whatever has that name. -/
def walk (fs : FileSystem) (aim : Aim) (links : Nat) (loc : Location) :
    List Name → Except Errno Location
  | [] => .ok loc
  | n :: ns =>
    match fs.node? loc with
    | some (.directory m) =>
      if n = [] then walk fs aim links loc ns
      else if !m.canSearch then .error .accessDenied
      else if n = ['.'] then walk fs aim links loc ns
      else if n = ['.', '.'] then walk fs aim links loc.tail ns
      else if aim.makes ∧ ns = [[]] then .error .isDirectory
      else if Path.nameLimit < (Text.utf8 n).length then .error .nameTooLong
      else match fs.node? (n :: loc) with
        | none => if ns = [] then .ok (n :: loc) else .error .notFound
        | some (.link target) =>
          if ns = [] ∧ !aim.follows then .ok (n :: loc)
          else match links with
            | 0 => .error .tooManyLinks
            | links + 1 =>
              walk fs aim links (if Path.isAbsolute target then [] else loc)
                (Path.steps target ++ ns)
        | some _ => walk fs aim links (n :: loc) ns
    | some _ => .error .notDirectory
    | none => .error .notFound
termination_by ns => (links, ns.length)

def locate (fs : FileSystem) (aim : Aim) (p : Path) : Except Fault Location :=
  if p.contains '\x00' then .error .nulInName
  else if p = [] then .error (.system .notFound)
  else if Path.lengthLimit ≤ (Text.utf8 p).length then .error (.system .nameTooLong)
  else (fs.walk aim linkLimit (if Path.isAbsolute p then [] else fs.here) (Path.steps p)).mapError
    .system

/-- What a path names, its last link followed. -/
def stat (fs : FileSystem) (p : Path) : Except Fault (Location × Node) := do
  let loc ← fs.locate .reach p
  match fs.node? loc with
  | some n => .ok (loc, n)
  | none => .error (.system .notFound)

def isFile (fs : FileSystem) (p : Path) : Bool :=
  match fs.stat p with
  | .ok (_, n) => n.isFile
  | .error _ => false

def isDirectory (fs : FileSystem) (p : Path) : Bool :=
  match fs.stat p with
  | .ok (_, n) => n.isDirectory
  | .error _ => false

/-- The entry a path names itself, a link not followed. -/
def entry? (fs : FileSystem) (p : Path) : Option Node :=
  match fs.locate .entry p with
  | .ok loc => fs.node? loc
  | .error _ => none

/-- Entries can be added to and taken from the directory of `loc`. -/
def mayChange (fs : FileSystem) (loc : Location) : Bool :=
  match fs.node? loc.tail with
  | some (.directory m) => m.canWrite && m.canSearch
  | _ => false

/-! ## Reading -/

def read (fs : FileSystem) (p : Path) : Except Fault Bytes := do
  let (_, n) ← fs.stat p
  if !n.mode.canRead then .error (.system .accessDenied)
  else match n with
    | .file content _ => .ok content
    | _ => .error (.system .isDirectory)

def readText (fs : FileSystem) (p : Path) : Except Fault Text := do
  match Text.ofUtf8? (← fs.read p) with
  | some t => .ok t
  | none => .error .notUtf8

/-! ## Changing -/

/-- The bits of a new file that asks for `mode`. -/
def granted (fs : FileSystem) (mode : Mode) : Mode := mode &&& ~~~fs.umask

/-- A new empty file; anything that already has the name, a link too, is in the way. -/
def createNew (fs : FileSystem) (p : Path) (mode : Mode) : Except Fault FileSystem := do
  let loc ← fs.locate .makeNew p
  if (fs.node? loc).isSome then .error (.system .exists)
  else if !fs.mayChange loc then .error (.system .accessDenied)
  else .ok (fs.insert loc (.file [] (fs.granted mode)))

/-- Adds to the file that was opened at `p`. Its bits were asked for when it was opened. -/
def extend (fs : FileSystem) (p : Path) (more : Bytes) : Except Fault FileSystem := do
  match ← fs.stat p with
  | (loc, .file content mode) => .ok (fs.insert loc (.file (content ++ more) mode))
  | _ => .error (.system .isDirectory)

/-- Opens a file for appending and adds to it; a missing file is made. -/
def append (fs : FileSystem) (p : Path) (more : Bytes) : Except Fault FileSystem := do
  let loc ← fs.locate .make p
  match fs.node? loc with
  | some (.file content mode) =>
    if mode.canWrite then .ok (fs.insert loc (.file (content ++ more) mode))
    else .error (.system .accessDenied)
  | some _ => .error (.system .isDirectory)
  | none =>
    if fs.mayChange loc then .ok (fs.insert loc (.file more (fs.granted 0o666)))
    else .error (.system .accessDenied)

def setMode (fs : FileSystem) (p : Path) (mode : Mode) : Except Fault FileSystem := do
  let (loc, n) ← fs.stat p
  .ok (fs.insert loc (n.withMode mode))

def remove (fs : FileSystem) (p : Path) : Except Fault FileSystem := do
  let loc ← fs.locate .entry p
  match fs.node? loc with
  | none => .error (.system .notFound)
  | some n =>
    if !Path.endsInName p then .error (.system .isDirectory)
    else if !fs.mayChange loc then .error (.system .accessDenied)
    else if n.isDirectory then .error (.system .isDirectory)
    else .ok (fs.erase loc)

/-- Moves the file at `source` to `target`, in one step and over anything but a directory. -/
def rename (fs : FileSystem) (source target : Path) : Except Fault FileSystem := do
  let old ← fs.locate .entry source
  let new ← fs.locate .entry target
  if Path.lastName target = [] then .error (.system .busy)
  else if Path.lastPiece target = [] then .error (.system .notDirectory)
  else match fs.node? old with
    | none => .error (.system .notFound)
    | some n =>
      if !fs.mayChange old || !fs.mayChange new then .error (.system .accessDenied)
      else if (fs.node? new).any Node.isDirectory then .error (.system .isDirectory)
      else .ok ((fs.erase old).insert new n)

end FileSystem

/-- How the disk takes what is written to a file that is open. -/
structure Disk where
  /-- What stops a write of so many bytes, and how many of them are there by then. -/
  stop? : (size : Nat) → Option (Nat × Fault)
  sync : Except Fault Unit

namespace Disk

/-- Takes everything. -/
def sound : Disk := ⟨fun _ => none, .ok ()⟩

end Disk

end RpcGate
