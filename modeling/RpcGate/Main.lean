import RpcGate.Command.Run
import RpcGate.Http.Framing
import RpcGate.Listener.Service
import Std.Async.Select
import Std.Async.Signal
import Std.Async.TCP

/-!
# The program

Hands the library its arguments, its environment, random bytes and the files
that it looks at, and carries out what comes of them: prints, writes the
files that changed, binds when they are written, and answers connections
until an interrupt. What the system refuses to write comes back to the library
as a fault of the disk.
-/

namespace RpcGate.Main

def build : Text := "unknown".toList

/-! ## Files -/

def opens (path : String) (mode : IO.FS.Mode) : IO Bool := do
  try
    let _ ← IO.FS.Handle.mk path mode
    return true
  catch _ => return false

/-- What the owner may do with a file, found out by opening it. -/
def fileBits (path : String) : IO Mode := do
  let readable ← opens path .read
  let writable ← opens path .append
  return (if readable then 0o400 else 0) ||| (if writable then 0o200 else 0)

/-- Where a link leads. One that leads nowhere is taken to lead to itself. -/
def target (path : String) : IO Path := do
  try return (← IO.FS.realPath path).toString.toList
  catch _ => return path.toList

/-- What stands at a location. Whether a directory takes new names is left for the system to say when
one is written. -/
def nodeAt (loc : Location) : IO (Option Node) := do
  let path := String.ofList loc.path
  try
    match (← ((← IO.currentDir) / path).symlinkMetadata).type with
    | .dir => return some (.directory 0o700)
    | .symlink => return some (.link (← target path))
    | .file =>
      let bits ← fileBits path
      let content ← if bits.canRead then IO.FS.readBinFile path else pure ByteArray.empty
      return some (.file content.toList bits)
    | .other => return none
  catch _ => return none

/-- Takes in what stands at a location that no link is on the way to. -/
def takeIn (fs : FileSystem) (loc : Location) : IO FileSystem := do
  match ← nodeAt loc with
  | some n => return fs.insert loc n
  | none => return fs

/-- A location and those around it. -/
def outward : Location → List Location
  | [] => [[]]
  | n :: loc => (n :: loc) :: outward loc

/-- Goes one name further, and through a link if there is one. -/
def onward (come : FileSystem × Location) (n : Name) : IO (FileSystem × Location) := do
  let (fs, loc) := come
  if n = ['.'] then return (fs, loc)
  else if n = ['.', '.'] then return (fs, loc.tail)
  else
    let fs ← takeIn fs (n :: loc)
    match fs.node? (n :: loc) with
    | some (.link there) =>
      let real := (Path.names there).reverse
      if real = n :: loc then return (fs, real)
      else return (← (outward real).foldlM takeIn fs, real)
    | _ => return (fs, n :: loc)

/-- Takes in what stands on the way to a path, and what it leads to. -/
def look (fs : FileSystem) (p : Path) : IO FileSystem := do
  let start := if Path.isAbsolute p then [] else fs.here
  return (← (Path.names p).foldlM onward (fs, start)).1

/-- The bits that the system keeps back from new files. -/
def umask : IO Mode := do
  try
    let lines := Text.lines (← IO.FS.readFile "/proc/self/status").toList
    let value := lines.firstM (Text.dropPrefix "Umask:".toList)
    return BitVec.ofNat 12 ((value.bind fun v => Text.digits? 8 (Text.trim v)).getD 0o022)
  catch _ => return 0o022

/-- The files that an action looks at: those that its arguments name, then those that its settings
name. -/
def filesFor (action : Option Command.Action) : IO FileSystem := do
  let here := (Path.names (← IO.currentDir).toString.toList).reverse
  let bare := { FileSystem.empty (← umask) with here := here }
  match action with
  | none => return bare
  | some a =>
    let around ← (outward here).foldlM takeIn bare
    let named ← (a.paths around).foldlM look around
    (a.paths named).foldlM look named

def rights (m : Mode) : IO.FileRight :=
  let three (i : Nat) : IO.AccessRight := ⟨m.getLsbD (i + 2), m.getLsbD (i + 1), m.getLsbD i⟩
  ⟨three 6, three 3, three 0⟩

def remove (path : String) : IO Unit := do
  try IO.FS.removeFile path
  catch
    | .noFileOrDirectory .. => return
    | e => throw e

/-- Writes a file under another name, for its owner alone, and moves it into place. -/
def replace (path : String) (content : Bytes) (mode : Mode) : IO Unit := do
  let aside := path ++ ".tmp"
  try
    IO.FS.writeFile aside ""
    IO.setAccessRights aside (rights 0o600)
    IO.FS.writeBinFile aside content.toByteArray
    IO.setAccessRights aside (rights mode)
    IO.FS.rename aside path
  catch e =>
    remove aside
    throw e

/-- Brings one location from its old state to the new one. -/
def store (old new : FileSystem) (loc : Location) : IO Unit := do
  let path := String.ofList loc.path
  match old.node? loc, new.node? loc with
  | some (.file before _), some (.file after mode) =>
    if before = after then return
    else if before.isPrefixOf after then
      let handle ← IO.FS.Handle.mk path .append
      handle.write (after.drop before.length).toByteArray
    else replace path after mode
  | none, some (.file after mode) | some (.link _), some (.file after mode) => replace path after mode
  | some (.file ..), none | some (.link _), none => remove path
  | _, _ => return

/-- What has gone is taken away first, since a new file may come by its name. -/
def storeAll (old new : FileSystem) : IO Unit :=
  let (left, gone) := ((old.nodes ++ new.nodes).map (·.1)).eraseDups.partition fun loc => (new.node? loc).isSome
  (gone ++ left).forM (store old new)

/-! ## The outside world -/

def environment : IO (List (Text × Text)) := do
  let params : List Command.Param := [.datadir, .conf, .bind, .port, .verbosity, .logJson]
  let names := params.filterMap Command.Param.environment? ++ ["RUST_LOG".toList]
  let values ← names.mapM fun n => do return (n, ← IO.getEnv (String.ofList n))
  return values.filterMap fun v => v.2.map fun t => (v.1, t.toList)

def randomBytes (n : Nat) : IO (Vector UInt8 n) := do
  let drawn := (← IO.getRandomBytes n.toUSize).toList
  return Vector.ofFn fun i => drawn.getD i 0

def ofNet : Std.Net.SocketAddress → SocketAddress
  | .v4 a => .ofIp (.v4 a.addr.octets) a.port
  | .v6 a => .ofIp (.v6 a.addr.segments) a.port

def toNet (a : SocketAddress) : Std.Net.SocketAddress :=
  match a.ip with
  | .v4 octets => .v4 ⟨⟨octets⟩, a.port⟩
  | .v6 groups => .v6 ⟨⟨groups⟩, a.port⟩

def fault : IO.Error → Fault
  | .permissionDenied .. => .system .accessDenied
  | .noFileOrDirectory .. => .system .notFound
  | e => .refused (toString e).toList

def bindFault : IO.Error → Fault
  | .resourceBusy .. => .system .addressInUse
  | e => fault e

/-- A socket at an address, and how the network took it. -/
def listen (a : SocketAddress) : IO (Std.Async.TCP.Socket.Server × Binding) := do
  let socket ← Std.Async.TCP.Socket.Server.mk
  try
    socket.bind (toNet a)
    socket.listen 128
  catch e =>
    return (socket, ⟨.error (bindFault e), .error (bindFault e)⟩)
  try
    let here := ofNet (← socket.getSockName)
    return (socket, ⟨.ok (), .ok here⟩)
  catch e =>
    return (socket, ⟨.ok (), .error (fault e)⟩)

/-- The socket of a run that is prepared to listen. -/
def listenFor : Command.Stage → IO (Option Std.Async.TCP.Socket.Server × Binding)
  | .prepared config .. => do
    let (socket, binding) ← listen config.address
    return (some socket, binding)
  | .ended _ =>
    let unasked := Fault.system .addressNotAvailable
    return (none, ⟨.error unasked, .error unasked⟩)

/-- Prepares a run and writes its files. If the system does not take them, the run is prepared anew
on a disk with that fault. -/
def prepare (words : List Text) (w : Command.World) : IO (FileSystem × Command.Stage) := do
  let (files, stage) := Command.begin build words w .sound
  try
    storeAll w.files files
    return (files, stage)
  catch e =>
    let (files, stage) := Command.begin build words w ⟨fun _ => none, .error (fault e)⟩
    storeAll w.files files
    return (files, stage)

/-! ## Connections -/

/-- Of a body that is too long no more is read than shows it. -/
partial def receive (client : Std.Async.TCP.Socket.Client) (arrived : Bytes) :
    Std.Async.Async Http.Arrived := do
  match Http.readRequest (Server.bodyLimit + 1) arrived with
  | .incomplete => match ← client.recv? 65536 with
    | some more => receive client (arrived ++ more.toList)
    | none => return .malformed
  | ended => return ended

def answer (s : Server) (since : Nat) (client : Std.Async.TCP.Socket.Client) :
    Std.Async.Async Unit := do
  let package : Package := ⟨Command.programName, Command.programVersion, build⟩
  let response ← match ← receive client [] with
    | .request r => do
      let now ← IO.monoMsNow
      let fresh := Server.freshId now (← randomBytes 10)
      pure (s.respond package ((now - since) / 1000) fresh r)
    | _ => pure (Http.Response.bare 400)
  client.send (Http.writeResponse response).toByteArray
  client.shutdown

partial def serve (s : Server) (since : Nat) (listener : Std.Async.TCP.Socket.Server)
    (interrupt : Std.Async.Signal.Waiter) : Std.Async.Async Unit := do
  let next ← Std.Async.Selectable.one #[
    .case listener.acceptSelector fun client => return some client,
    .case interrupt.selector fun _ => return none]
  match next with
  | some client =>
    Std.Async.background (answer s since client)
    serve s since listener interrupt
  | none => return

def finish (e : Command.Exit) : IO UInt32 := do
  IO.print (String.ofList e.stdout)
  IO.eprint (String.ofList e.stderr)
  return e.code.toUInt32

end RpcGate.Main

open RpcGate RpcGate.Main in
def main (args : List String) : IO UInt32 := do
  let words := args.map String.toList
  let env ← environment
  let action := (Command.parse words env).toOption.bind fun p => p.action.toOption
  let refused : Binding := ⟨.error (.system .addressNotAvailable), .error (.system .addressNotAvailable)⟩
  let world : Command.World :=
    ⟨← filesFor action, env, ← randomBytes 32, ← randomBytes 32, ← randomBytes 16, fun _ => refused⟩
  let (files, stage) ← prepare words world
  let (listener, binding) ← listenFor stage
  let (after, progress) := stage.proceed (fun _ => binding) files
  storeAll files after
  match progress with
  | .exited e => finish e
  | .serving s warnings =>
    if let some listener := listener then
      let interrupt ← Std.Async.Signal.Waiter.mk .sigint false
      Std.Async.Async.block (serve s (← IO.monoMsNow) listener interrupt)
    let (left, e) := Command.interrupt s warnings after
    storeAll after left
    finish e
