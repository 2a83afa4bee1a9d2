import RpcGate.Settings.Setting
import RpcGate.Files.System

/-!
# Lists of settings

Settings keep the order in which they were given, those of the config file
before the overrides. A scalar is decided by the last setting of its name, a
list is what came after its last negation.
-/

namespace RpcGate

abbrev Settings := List Setting

namespace Settings

/-- The lines of a config file that hold a setting: blank lines and comments do not. -/
def settingLines (contents : Text) : List (Nat × Text) :=
  ((Text.numberedLines contents).map fun p => (p.1, Text.trim p.2)).filter fun p =>
    p.2 ≠ [] && p.2.head? ≠ some '#'

def parseConfig (contents : Text) (path : Path) : Except SettingsError Settings :=
  (settingLines contents).mapM fun p =>
    Setting.parse p.2 .configFile (path ++ ':' :: Text.decimal p.1)

/-- Reads a config file; one that is not required may be missing. -/
def loadConfig (fs : FileSystem) (path : Path) (required : Bool) : Except SettingsError Settings :=
  match fs.readText path with
  | .ok contents => parseConfig contents path
  | .error fault =>
    if fault = .system .notFound ∧ !required then .ok []
    else .error (.unreadable path fault)

def parseOverrides (tokens : List Text) : Except SettingsError Settings :=
  tokens.mapM Setting.parseOverride

/-- Refuses the first setting whose name is not among `known`. -/
def ensureKnown (s : Settings) (known : List Text) : Except SettingsError Unit :=
  match s.find? fun x => !known.contains x.name with
  | some x => .error (.unknown x.source x.name)
  | none => .ok ()

def named (s : Settings) (name : Text) : Settings := s.filter (·.name = name)

def last? (s : Settings) (name : Text) : Option Value := (named s name).getLast?.map Setting.value

/-- The text of a scalar: empty when bare, none when negated or never set. -/
def text? (s : Settings) (name : Text) : Option Text :=
  match last? s name with
  | some .bare => some []
  | some (.set v) => some v
  | some .negated | none => none

/-- A switch: off when negated, `0` or `false`, none when never set. -/
def switch? (s : Settings) (name : Text) : Option Bool :=
  (last? s name).map fun
    | .bare => true
    | .set v => v ≠ "0".toList && v ≠ "false".toList
    | .negated => false

/-- What one more setting of its name does to a list. -/
def extendList (values : List Text) : Value → List Text
  | .negated => []
  | .set v => if v = [] then values else values ++ [v]
  | .bare => values

def list (s : Settings) (name : Text) : List Text :=
  (named s name).foldl (fun values x => extendList values x.value) []

end Settings

end RpcGate
