import RpcGate.Access.Authenticator
import RpcGate.Access.Options
import RpcGate.Net.Address

/-!
# Starting and stopping

Credentials are resolved first, then the cookie is provisioned, and only
then the listener binds. A failed bind takes the new cookie away again, and
so does stopping.
-/

namespace RpcGate

inductive StartupError
  | settings (e : SettingsError)
  | auth (e : AuthError)
  | bind (address : SocketAddress) (fault : Fault)
  deriving DecidableEq, Repr

namespace StartupError

def message : StartupError → Text
  | settings e => e.message
  | auth e => e.message
  | bind address fault =>
    "unable to bind RPC listener on ".toList ++ address.label ++ ": ".toList ++ fault.message

def isCredential : StartupError → Bool
  | auth e => e.isCredential
  | _ => false

def isCookie : StartupError → Bool
  | auth e => e.isCookie
  | _ => false

def cause? : StartupError → Option Fault
  | settings (.unreadable _ fault) => some fault
  | settings _ => none
  | auth e => e.cause?
  | bind _ fault => some fault

end StartupError

structure ServerConfig where
  address : SocketAddress
  auth : AuthOptions
  deriving DecidableEq, Repr

namespace ServerConfig

/-- Refuses settings with unknown names first. -/
def ofSettings (address : SocketAddress) (datadir : Path) (s : Settings) :
    Except StartupError ServerConfig :=
  match s.ensureKnown AuthOptions.knownNames with
  | .error e => .error (.settings e)
  | .ok () => match AuthOptions.ofSettings s datadir with
    | .error e => .error (.auth e)
    | .ok auth => .ok ⟨address, auth⟩

end ServerConfig

/-- How the network answers a listener: whether it binds, and the address it then has. -/
structure Binding where
  bound : Except Fault Unit
  address : Except Fault SocketAddress

structure Server where
  address : SocketAddress
  authenticator : Authenticator
  whitelist : Whitelist

namespace Server

def cookiePath? (s : Server) : Option Path := s.authenticator.cookie.map Cookie.path

def provisionCookie (options : Option CookieOptions) (secret : Vector UInt8 32) (fs : FileSystem)
    (disk : Disk := Disk.sound) : FileSystem × Except AuthError (Option Cookie) :=
  match options with
  | none => (fs, .ok none)
  | some o =>
    let outcome := (Cookie.Provider.new o.path o.permissions).provision secret fs disk
    (outcome.files, outcome.result.map some)

/-- Resolves the credentials of a start and provisions its cookie. -/
def prepare (config : ServerConfig) (secret : Vector UInt8 32) (fs : FileSystem) (disk : Disk := Disk.sound) :
    FileSystem × Except StartupError (Registry × Option Cookie) :=
  match Registry.build fs config.auth.directives config.auth.legacy with
  | .error e => (fs, .error (.auth e))
  | .ok registry => match provisionCookie config.auth.cookie secret fs disk with
    | (fs', .error e) => (fs', .error (.auth e))
    | (fs', .ok cookie) => (fs', .ok (registry, cookie))

/-- Binds for a start whose credentials and cookie are there. -/
def listen (config : ServerConfig) (net : Binding) (registry : Registry) (cookie : Option Cookie)
    (fs : FileSystem) : FileSystem × Except StartupError Server :=
  match net.bound with
  | .error fault =>
    (match cookie with | some c => c.remove fs | none => fs, .error (.bind config.address fault))
  | .ok () => match net.address with
    | .error fault => (fs, .error (.bind config.address fault))
    | .ok address => (fs, .ok ⟨address, ⟨registry, cookie⟩, config.auth.whitelist⟩)

def start (config : ServerConfig) (secret : Vector UInt8 32) (net : Binding) (fs : FileSystem)
    (disk : Disk := Disk.sound) : FileSystem × Except StartupError Server :=
  match prepare config secret fs disk with
  | (fs', .error e) => (fs', .error e)
  | (fs', .ok (registry, cookie)) => listen config net registry cookie fs'

def stop (s : Server) (fs : FileSystem) : FileSystem :=
  match s.authenticator.cookie with
  | some c => c.remove fs
  | none => fs

end Server

end RpcGate
