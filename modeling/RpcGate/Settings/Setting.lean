import RpcGate.Text.Quoted
import RpcGate.Files.Fault
import RpcGate.Files.Path

/-!
# Settings

One grammar for lines of a config file and for override tokens: `name`,
`name=value`, `noname` and `noname=1` (negated), `noname=0` (as `name`).
`Setting.render` writes a setting in it.
-/

namespace RpcGate

inductive Source
  | configFile
  | commandLine
  deriving DecidableEq, Repr

namespace Source

def text : Source → Text
  | configFile => "config file".toList
  | commandLine => "command line".toList

end Source

inductive Value
  | bare
  | set (text : Text)
  | negated
  deriving DecidableEq, Repr

structure Setting where
  name : Text
  value : Value
  source : Source
  deriving DecidableEq, Repr

inductive SettingFault
  | emptyName
  | badName
  | badNegation
  | noDash
  deriving DecidableEq, Repr

namespace SettingFault

def reason : SettingFault → Text
  | emptyName => "empty name".toList
  | badName => "name contains invalid characters".toList
  | badNegation => "negated setting only accepts 0 or 1".toList
  | noDash => "overrides must start with '-'".toList

end SettingFault

inductive SettingsError
  | unreadable (path : Path) (fault : Fault)
  | malformed (origin token : Text) (fault : SettingFault)
  | unknown (source : Source) (name : Text)
  deriving DecidableEq, Repr

namespace SettingsError

def message : SettingsError → Text
  | unreadable path fault =>
    "unable to read config file ".toList ++ path ++ ": ".toList ++ fault.message
  | malformed origin token fault =>
    origin ++ ": invalid setting ".toList ++ Text.quoted token ++ ": ".toList ++ fault.reason
  | unknown source name => source.text ++ ": unknown setting -".toList ++ name

end SettingsError

namespace Setting

def isNameChar (c : Char) : Bool := c.isAlphanum || c == '_' || c == '-' || c == '.'

def split (raw : Text) : Text × Option Text :=
  match Text.splitOnce '=' raw with
  | some (name, value) => (Text.trim name, some (Text.trim value))
  | none => (Text.trim raw, none)

theorem split_append {front : Text} (h : '=' ∉ front) (v : Text) :
    split (front ++ '=' :: v) = (Text.trim front, some (Text.trim v)) := by
  unfold split
  rw [Text.splitOnce_eq_some_iff.2 ⟨rfl, h⟩]

theorem split_of_not_mem {raw : Text} (h : '=' ∉ raw) : split raw = (Text.trim raw, none) := by
  unfold split
  rw [Text.splitOnce_eq_none_iff.2 h]

/-- The name under a leading `no`, if there is one left. -/
def negatedName? (name : Text) : Option Text :=
  match Text.dropPrefix ['n', 'o'] name with
  | some (c :: rest) => some (c :: rest)
  | _ => none

/-- The name and the value that a name part and a value part stand for. -/
def read (name : Text) (value : Option Text) : Except SettingFault (Text × Value) :=
  if name = [] then .error .emptyName
  else if !name.all isNameChar then .error .badName
  else match negatedName? name, value with
    | some base, none => .ok (base, .negated)
    | some base, some v =>
      if v = ['1'] then .ok (base, .negated)
      else if v = ['0'] then .ok (base, .bare)
      else .error .badNegation
    | none, none => .ok (name, .bare)
    | none, some v => .ok (name, .set v)

def parse (raw : Text) (source : Source) (origin : Text) : Except SettingsError Setting :=
  let (name, value) := split raw
  match read name value with
  | .ok (name, value) => .ok ⟨name, value, source⟩
  | .error fault => .error (.malformed origin raw fault)

/-- An override token less its one or two dashes. -/
def undash (token : Text) : Option Text :=
  match token with
  | '-' :: '-' :: rest => some rest
  | '-' :: rest => some rest
  | _ => none

def parseOverride (token : Text) : Except SettingsError Setting :=
  match undash token with
  | some raw => parse raw .commandLine Source.commandLine.text
  | none => .error (.malformed Source.commandLine.text token .noDash)

def render (s : Setting) : Text :=
  match s.value with
  | .set v => s.name ++ '=' :: v
  | .negated => 'n' :: 'o' :: s.name
  | .bare => 'n' :: 'o' :: s.name ++ ['=', '0']

end Setting

end RpcGate
