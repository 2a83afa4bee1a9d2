import RpcGate.Credential.Entry

/-!
# Directives

What the settings say about credentials, in the order in which they say it.
Adding an empty value adds nothing; a file adds the entries of its lines.
-/

namespace RpcGate

inductive Directive
  | addInline (raw : Text)
  | addFile (path : Path)
  /-- Drops what has been added so far. -/
  | clear
  /-- Takes the last clear back. -/
  | reEnable
  deriving DecidableEq, Repr

namespace Entry

/-- The entry on a numbered line of the file `path`; a blank line holds none. -/
def ofLine (path : Path) (line : Nat × Text) : Except AuthError (Option Entry) :=
  let content := Text.trim line.2
  if content = [] then .ok none
  else match parse content with
    | .ok e => .ok (some e)
    | .error fault => .error (.malformedLine path line.1 fault)

def ofContents (path : Path) (contents : Text) : Except AuthError (List Entry) := do
  return ((← (Text.numberedLines contents).mapM (ofLine path)).filterMap id)

def ofFile (fs : FileSystem) (path : Path) : Except AuthError (List Entry) :=
  match fs.readText path with
  | .ok contents => ofContents path contents
  | .error fault => .error (.unreadableFile path fault)

end Entry

namespace Directive

/-- An added value without content. -/
def isBlank : Directive → Bool
  | addInline raw => Text.trim raw = []
  | addFile path => path = []
  | clear | reEnable => false

def isAdd : Directive → Bool
  | addInline _ | addFile _ => true
  | clear | reEnable => false

/-- The file a directive adds. -/
def file? : Directive → Option Path
  | addFile path => if path = [] then none else some path
  | _ => none

def entries (fs : FileSystem) (d : Directive) : Except AuthError (List Entry) :=
  if d.isBlank then .ok []
  else match d with
    | addInline raw => match Entry.parse raw with
      | .ok e => .ok [e]
      | .error fault => .error (.malformed fault)
    | addFile path => Entry.ofFile fs path
    | clear | reEnable => .ok []

end Directive

end RpcGate
