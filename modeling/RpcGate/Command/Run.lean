import RpcGate.Codec.Base64
import RpcGate.Command.Action
import RpcGate.Logging.Filter

/-!
# Runs of the program

One run from its command line to its end. It either makes an entry for a user,
which is printed together with its password and, on request, added to a
credential file as one more line; or it loads the configuration of a server
and serves until it is interrupted.
-/

namespace RpcGate

namespace Command

/-! ## Making an entry -/

def passwordOf (bytes : Vector UInt8 32) : Text := Base64.encode Base64.urlSafe bytes.toList

def render (e : Entry) (password : Text) : Text :=
  "String to be appended to rpcauth.conf:\nrpcauth=".toList ++ e.encode
    ++ "\nYour password:\n".toList ++ password

def append (fs : FileSystem) (path : Path) (e : Entry) : Except Report FileSystem :=
  match fs.append path (Text.utf8 (e.encode ++ ['\n'])) with
  | .ok fs => .ok fs
  | .error fault => .error ((Report.plain fault.message).under ("Unable to open ".toList ++ path))

/-- Makes an entry, adds it to the output file if there is one, and gives the text to print. -/
def generate (args : GenArgs) (salt : Vector UInt8 16) (random : Vector UInt8 32)
    (fs : FileSystem) : FileSystem × Except Report Text :=
  let password := args.password.getD (passwordOf random)
  let entry := Entry.generate salt args.username password
  match args.output with
  | none => (fs, .ok (render entry password))
  | some path => match append fs path entry with
    | .ok fs' => (fs', .ok (render entry password))
    | .error r => (fs, .error r)

/-! ## Loading a configuration -/

/-- Why there is nothing to serve. -/
inductive LoadError
  | noDatadir (path : Path)
  | settings (e : SettingsError)
  | startup (e : StartupError)
  deriving DecidableEq, Repr

def LoadError.report : LoadError → Report
  | .noDatadir path =>
    .plain ("data directory ".toList ++ path ++ " does not exist".toList)
  | .settings e => .ofSettings e
  | .startup e => .ofStartup e

def load (args : ServeArgs) (fs : FileSystem) : Except LoadError ServerConfig :=
  if !fs.isDirectory args.datadir then .error (.noDatadir args.datadir)
  else match Settings.loadConfig fs args.conf args.confRequired with
    | .error e => .error (.settings e)
    | .ok config => match Settings.parseOverrides args.overrides with
      | .error e => .error (.settings e)
      | .ok overrides =>
        (ServerConfig.ofSettings args.address args.datadir (config ++ overrides)).mapError .startup

/-! ## A run -/

/-- The paths that an action looks at, as far as the files tell. -/
def Action.paths (fs : FileSystem) : Action → List Path
  | .gen args => args.output.toList
  | .serve args => match load args fs with
    | .ok config => [args.datadir, args.conf] ++ config.auth.paths
    | .error _ => [args.datadir, args.conf]

structure Exit where
  code : Nat
  stdout : Text
  stderr : Text
  deriving DecidableEq, Repr

inductive Progression
  | exited (e : Exit)
  | serving (s : Server) (warnings : Text)

structure World where
  files : FileSystem
  env : List (Text × Text)
  secret : Vector UInt8 32
  password : Vector UInt8 32
  salt : Vector UInt8 16
  binding : SocketAddress → Binding

def programName : Text := "rpcauth".toList

def programVersion : Text := "0.1.0".toList

def versionText (build : Text) (long : Bool) : Text :=
  programName ++ ' ' :: programVersion ++ (if long then " - ".toList ++ build else []) ++ ['\n']

def helpText : Text :=
  "Authenticated JSON-RPC listener

Usage: rpcauth [OPTIONS] --datadir <datadir> [OVERRIDES]...
       rpcauth <COMMAND>

Commands:
  gen   Generate an rpcauth entry for a user
  help  Print this message or the help of the given subcommand(s)
".toList

/-- Help and version are printed, every other refusal is an error. -/
def refuse (build : Text) (r : Refusal) : Exit :=
  match r with
  | .displayHelp => ⟨0, helpText, []⟩
  | .displayVersion long => ⟨0, versionText build long, []⟩
  | r => ⟨r.exitCode, [], r.headline ++ ['\n']⟩

def filterWarnings (env : List (Text × Text)) : Text :=
  (Logging.Filter.warnings ((env.lookup "RUST_LOG".toList).getD [])).flatMap fun l => l ++ ['\n']

def fail (warnings : Text) (r : Report) : Progression := .exited ⟨1, [], warnings ++ r.text⟩

def failStart (warnings : Text) (e : StartupError) : Progression :=
  fail warnings ((Report.ofStartup e).under "Unable to start RPC server".toList)

/-- How far a run comes before it has to do with the network. -/
inductive Stage
  | ended (p : Progression)
  | prepared (config : ServerConfig) (registry : Registry) (cookie : Option Cookie) (warnings : Text)

def perform (w : World) (warnings : Text) (disk : Disk) : Action → FileSystem × Stage
  | .gen args =>
    match generate args w.salt w.password w.files with
    | (fs, .ok text) => (fs, .ended (.exited ⟨0, text ++ ['\n'], warnings⟩))
    | (fs, .error r) => (fs, .ended (fail warnings r))
  | .serve args =>
    match load args w.files with
    | .error e => (w.files, .ended (fail warnings e.report))
    | .ok config => match Server.prepare config w.secret w.files disk with
      | (fs, .error e) => (fs, .ended (failStart warnings e))
      | (fs, .ok (registry, cookie)) => (fs, .prepared config registry cookie warnings)

/-- A run up to its first use of the network. -/
def begin (build : Text) (words : List Text) (w : World) (disk : Disk) : FileSystem × Stage :=
  match parse words w.env with
  | .error r => (w.files, .ended (.exited (refuse build r)))
  | .ok p =>
    let warnings := filterWarnings w.env
    match p.action with
    | .error r => (w.files, .ended (fail warnings r))
    | .ok action => perform w warnings disk action

/-- The rest of a run, when the network has answered. -/
def Stage.proceed (net : SocketAddress → Binding) (fs : FileSystem) : Stage → FileSystem × Progression
  | .ended p => (fs, p)
  | .prepared config registry cookie warnings =>
    match Server.listen config (net config.address) registry cookie fs with
    | (fs, .ok server) => (fs, .serving server warnings)
    | (fs, .error e) => (fs, failStart warnings e)

def run (build : Text) (words : List Text) (w : World) (disk : Disk := Disk.sound) : FileSystem × Progression :=
  let (fs, stage) := begin build words w disk
  stage.proceed w.binding fs

/-- What an interrupt does to a run that serves. -/
def interrupt (s : Server) (warnings : Text) (fs : FileSystem) : FileSystem × Exit :=
  (s.stop fs, ⟨0, [], warnings⟩)

end Command

end RpcGate
