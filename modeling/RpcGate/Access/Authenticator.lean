import RpcGate.Codec.Base64
import RpcGate.Credential.Registry
import RpcGate.Cookie.Provision

/-!
# Authentication

An authorization header of the scheme `Basic` carries user and password in
base 64, set apart by the first colon. A request is accepted as a user whose
password the cookie or, failing that, the registry finds right.
-/

namespace RpcGate

namespace BasicHeader

def scheme : Text := "Basic ".toList

def encode (user password : Text) : Text :=
  scheme ++ Base64.encode Base64.standard (Text.utf8 (user ++ ':' :: password))

/-- User and password. White space around the base 64 is let through. -/
def parse? (header : Text) : Option (Text × Text) := do
  let rest ← Text.dropPrefix scheme header
  let bytes ← Base64.decode? Base64.standard (Text.trim rest)
  Text.splitOnce ':' (← Text.ofUtf8? bytes)

end BasicHeader

inductive Decision
  | accepted (username : Text)
  | rejected
  deriving DecidableEq, Repr

structure Authenticator where
  registry : Registry
  cookie : Option Cookie

namespace Authenticator

def check (a : Authenticator) (username password : Text) : Bool :=
  a.cookie.any (·.verify username password) || a.registry.verify username password

def authenticate (a : Authenticator) (header : Option Text) : Decision :=
  match header.bind BasicHeader.parse? with
  | some (username, password) =>
    if a.check username password then .accepted username else .rejected
  | none => .rejected

end Authenticator

end RpcGate
