import RpcGate.Cookie.Permissions
import RpcGate.Credential.Entry

/-!
# Cookies

A cookie is a user with a fresh secret, written to a file on every start.
The file is published by a list of steps: it is written under another name,
given its bits there, and moved into place by one rename, so that no prefix of
the steps shows a part of it. Whatever fails afterwards or before is fatal.
-/

namespace RpcGate

structure Cookie where
  secret : Text
  path : Path
  deriving DecidableEq, Repr

namespace Cookie

def username : Text := "__cookie__".toList

/-- The name of the file when the settings give none. -/
def fileName : Name := ".cookie".toList

def secretOf (bytes : Vector UInt8 32) : Text := Hex.encode bytes.toList

def content (secret : Text) : Bytes := Text.utf8 (username ++ ':' :: secret)

def verify (c : Cookie) (user password : Text) : Bool :=
  sameBytes (Text.utf8 user) (Text.utf8 username) && sameSecret (Text.utf8 password) (Text.utf8 c.secret)

/-- Takes the cookie file away; a file that cannot be taken away stays. -/
def remove (c : Cookie) (fs : FileSystem) : FileSystem :=
  match fs.remove c.path with
  | .ok fs => fs
  | .error _ => fs

/-- The form for logs, which does not show the secret. -/
def redacted (c : Cookie) : Text :=
  "CookieCredential \x7b secret: SecretBox<str>([REDACTED]), path: ".toList
    ++ Text.quoted c.path ++ " \x7d".toList

/-! ## Publication -/

inductive Step
  /-- Takes away a file left over under the temporary name. -/
  | discard
  | create (mode : Mode)
  | write (bytes : Bytes)
  | sync
  | permit (mode : Mode)
  | rename
  deriving DecidableEq, Repr

/-- The name under which the file is written. -/
def temporary (path : Path) : Path := Path.withEnding path ".tmp"

/-- A file that is to get its bits is created for its owner alone. -/
def steps (permissions : CookiePermissions) (secret : Text) : List Step :=
  [.discard, .create (if permissions.target?.isSome then CookiePermissions.ownerBits else 0o666),
    .write (Text.utf8 username), .write (Text.utf8 [':']), .write (Text.utf8 secret), .sync]
    ++ (permissions.target?.map Step.permit).toList ++ [.rename]

namespace Step

def run (disk : Disk) (capability : Capability) (path : Path) (fs : FileSystem) : Step → Except Fault FileSystem
  | discard => if fs.isFile (temporary path) then fs.remove (temporary path) else .ok fs
  | create mode => fs.createNew (temporary path) mode
  | write bytes => match disk.stop? bytes.length with
    | some (_, fault) => .error fault
    | none => fs.extend (temporary path) bytes
  | sync => disk.sync.map fun _ => fs
  | permit mode => capability.apply fs (temporary path) mode
  | rename => fs.rename (temporary path) path

/-- What a step leaves that fails: of a write the first bytes may be there. -/
def leave (disk : Disk) (path : Path) (fs : FileSystem) : Step → FileSystem
  | write bytes => match disk.stop? bytes.length with
    | some (n, _) => match fs.extend (temporary path) (bytes.take n) with
      | .ok fs' => fs'
      | .error _ => fs
    | none => fs
  | _ => fs

def subject (path : Path) : Step → Path
  | rename => path
  | _ => temporary path

/-- What is cleared away after a failure of the step. -/
def undo (path : Path) (fs : FileSystem) : Step → FileSystem
  | discard => fs
  | rename => match fs.remove (temporary path) with
    | .ok fs => fs
    | .error _ => fs
  | _ => if fs.isFile (temporary path) then
      match fs.remove (temporary path) with
      | .ok fs => fs
      | .error _ => fs
    else fs

end Step

/-- Runs steps up to the first that fails: the state they leave, and that step with its fault. -/
def runSteps (disk : Disk) (capability : Capability) (path : Path) :
    List Step → FileSystem → FileSystem × Option (Step × Fault)
  | [], fs => (fs, none)
  | s :: rest, fs => match s.run disk capability path fs with
    | .ok fs' => runSteps disk capability path rest fs'
    | .error fault => (s.leave disk path fs, some (s, fault))

def publish (disk : Disk) (capability : Capability) (permissions : CookiePermissions) (path : Path)
    (secret : Text) (fs : FileSystem) : FileSystem × Option AuthError :=
  match runSteps disk capability path (steps permissions secret) fs with
  | (fs', none) => (fs', none)
  | (fs', some (s, fault)) => (s.undo path fs', some (.cookieNotWritten (s.subject path) fault))

/-- Reads the bits back; a capability that knows of none is believed. -/
def checkMode (capability : Capability) (permissions : CookiePermissions) (path : Path)
    (fs : FileSystem) : Option AuthError :=
  match permissions.target? with
  | none => none
  | some expected => match capability.mode fs path with
    | .error fault => some (.cookieNotWritten path fault)
    | .ok none => none
    | .ok (some actual) =>
      if actual = expected.toNat then none else some (.cookieMode path expected actual)

/-! ## Providers -/

inductive State
  | uninitialized
  | active
  | failedFatal
  deriving DecidableEq, Repr

namespace State

def name : State → Text
  | uninitialized => "Uninitialized".toList
  | active => "Active".toList
  | failedFatal => "FailedFatal".toList

end State

structure Provider where
  path : Path
  permissions : CookiePermissions
  capability : Capability
  state : State

namespace Provider

def new (path : Path) (permissions : CookiePermissions)
    (capability : Capability := Capability.posix) : Provider :=
  ⟨path, permissions, capability, .uninitialized⟩

def label (p : Provider) : Text :=
  "CookieProvider \x7b path: ".toList ++ Text.quoted p.path ++ ", permissions: ".toList
    ++ p.permissions.label ++ ", state: ".toList ++ p.state.name ++ ", .. \x7d".toList

/-- What provisioning leaves: the files, the provider's state, and the cookie or what went wrong. -/
structure Outcome where
  files : FileSystem
  state : State
  result : Except AuthError Cookie

def provision (p : Provider) (bytes : Vector UInt8 32) (fs : FileSystem) (disk : Disk := Disk.sound) : Outcome :=
  let secret := secretOf bytes
  match publish disk p.capability p.permissions p.path secret fs with
  | (fs', some e) => ⟨fs', .failedFatal, .error e⟩
  | (fs', none) => match checkMode p.capability p.permissions p.path fs' with
    | some e => ⟨fs', .failedFatal, .error e⟩
    | none => ⟨fs', .active, .ok ⟨secret, p.path⟩⟩

end Provider

end Cookie

end RpcGate
