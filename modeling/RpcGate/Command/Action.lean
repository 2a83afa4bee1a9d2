import RpcGate.Command.Arguments
import RpcGate.Command.Report

/-!
# Actions

What a command line asks for: to serve, or to make a credential entry.
-/

namespace RpcGate

namespace Command

structure ServeArgs where
  datadir : Path
  conf : Path
  confRequired : Bool
  address : SocketAddress
  overrides : List Text
  deriving DecidableEq, Repr

structure GenArgs where
  username : Text
  password : Option Text
  output : Option Path
  deriving DecidableEq, Repr

inductive Action
  | serve (args : ServeArgs)
  | gen (args : GenArgs)
  deriving DecidableEq, Repr

def defaultConf : Name := "rpcauth.conf".toList

def defaultPort : UInt16 := 8332

def missing (what : String) : Report := .plain ("missing required argument: ".toList ++ what.toList)

/-- A config file that is named has to be there. -/
def confPath (datadir : Path) (conf : Option Path) : Path × Bool :=
  match conf with
  | some conf => (Path.join datadir conf, true)
  | none => (Path.join datadir defaultConf, false)

def serveArgs (m : Matches) : Except Report ServeArgs :=
  match m.value? .datadir with
  | some (c :: datadir) =>
    let datadir := c :: datadir
    let (conf, confRequired) := confPath datadir (m.value? .conf)
    let ip := ((m.value? .bind).bind IpAddress.parse?).getD IpAddress.loopback
    let port := ((m.value? .port).bind fun t => (portNumber t).toOption).getD defaultPort
    let overrides := match m.find? .overrides with
      | some g => g.values
      | none => []
    .ok ⟨datadir, conf, confRequired, .ofIp ip port, overrides⟩
  | _ => .error (missing "--datadir")

def genArgs (m : Matches) : Except Report GenArgs :=
  match m.value? .username with
  | some (c :: username) =>
    let username := c :: username
    if username.contains ':' then .error (.plain "username must not contain ':'".toList)
    else .ok ⟨username, m.value? .password, m.value? .output⟩
  | _ => .error (missing "<username>")

namespace Parsed

def level? (p : Parsed) : Option Level :=
  Verbosity.level?
    ((((p.global .verbosity).bind (·.values.head?)).bind Verbosity.parse?).getD 0)

def json (p : Parsed) : Bool :=
  ((p.global .logJson).bind (·.values.head?)) = some "true".toList

def action (p : Parsed) : Except Report Action :=
  match p.gen with
  | some m => (genArgs m).map .gen
  | none => (serveArgs p.server).map .serve

end Parsed

end Command

end RpcGate
