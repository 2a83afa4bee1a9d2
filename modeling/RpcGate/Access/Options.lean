import RpcGate.Settings.Basic
import RpcGate.Access.Whitelist
import RpcGate.Credential.Directive
import RpcGate.Cookie.Provision

/-!
# Authentication options

What the settings say about credentials, the cookie and the whitelist.
Relative paths start at the data directory. A plain password takes the place
of the cookie.
-/

namespace RpcGate

structure CookieOptions where
  path : Path
  permissions : CookiePermissions
  deriving DecidableEq, Repr

structure AuthOptions where
  directives : List Directive
  legacy : Option LegacyPair
  cookie : Option CookieOptions
  whitelist : Whitelist
  deriving DecidableEq, Repr

namespace AuthOptions

def rpcauth : Text := "rpcauth".toList
def rpcauthfile : Text := "rpcauthfile".toList
def rpcuser : Text := "rpcuser".toList
def rpcpassword : Text := "rpcpassword".toList
def rpccookiefile : Text := "rpccookiefile".toList
def rpccookieperms : Text := "rpccookieperms".toList
def rpcwhitelist : Text := "rpcwhitelist".toList
def rpcwhitelistdefault : Text := "rpcwhitelistdefault".toList

def knownNames : List Text :=
  [rpcauth, rpcauthfile, rpcuser, rpcpassword, rpccookiefile, rpccookieperms, rpcwhitelist,
    rpcwhitelistdefault]

/-- The directive a setting gives. -/
def directive? (datadir : Path) (s : Setting) : Option Directive :=
  if s.name = rpcauth then
    match s.value with
    | .negated => some .clear
    | .bare => some .reEnable
    | .set raw => some (.addInline raw)
  else if s.name = rpcauthfile then
    match s.value with
    | .negated => some .clear
    | .bare => some .reEnable
    | .set path => some (.addFile (if path = [] then [] else Path.join datadir path))
  else none

def directivesOf (s : Settings) (datadir : Path) : List Directive := s.filterMap (directive? datadir)

/-- The plain pair, there as soon as a password is. -/
def legacyOf (s : Settings) : Option LegacyPair :=
  match s.text? rpcpassword with
  | some (c :: password) => some ⟨(s.text? rpcuser).getD [], c :: password⟩
  | _ => none

def cookiePath? (s : Settings) (datadir : Path) : Option Path :=
  match s.last? rpccookiefile with
  | some .negated => none
  | some (.set (c :: path)) => some (Path.join datadir (c :: path))
  | _ => some (Path.join datadir Cookie.fileName)

def cookiePermissions (s : Settings) : Except AuthError CookiePermissions :=
  match s.last? rpccookieperms with
  | none | some .bare => .ok .ownerOnly
  | some .negated => .ok .osDefault
  | some (.set value) => CookiePermissions.parse value

def cookieOf (s : Settings) (datadir : Path) : Except AuthError (Option CookieOptions) :=
  if (legacyOf s).isSome then .ok none
  else match cookiePath? s datadir with
    | none => .ok none
    | some path => do return some ⟨path, ← cookiePermissions s⟩

def ofSettings (s : Settings) (datadir : Path) : Except AuthError AuthOptions := do
  let cookie ← cookieOf s datadir
  let whitelist ← Whitelist.build (s.list rpcwhitelist) (s.switch? rpcwhitelistdefault)
  return ⟨directivesOf s datadir, legacyOf s, cookie, whitelist⟩

def paths (o : AuthOptions) : List Path :=
  let cookie := match o.cookie with
    | some c => [c.path, Cookie.temporary c.path]
    | none => []
  o.directives.filterMap Directive.file? ++ cookie

end AuthOptions

end RpcGate
