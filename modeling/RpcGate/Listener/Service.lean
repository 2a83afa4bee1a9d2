import RpcGate.Listener.Call
import RpcGate.Listener.Startup
import RpcGate.Http.Message

/-!
# Answering requests

Everything but the health report asks for Basic credentials. Whoever is
accepted may call the methods that the whitelist allows.
-/

namespace RpcGate

/-- The program that answers: its name, its version, and what it was built from. -/
structure Package where
  name : Text
  version : Text
  build : Text

namespace Server

open Http

def methodNames : List Text :=
  ["echo".toList, "getrpcinfo".toList, "help".toList, "uptime".toList]

/-- The result of a method, if there is such a method. -/
def call? (s : Server) (uptime : Nat) (method : Text) (params : Json) : Option Json :=
  if method = "echo".toList then some params
  else if method = "getrpcinfo".toList then
    some (Json.ofMembers [("bind", .string s.address.label),
      ("credentials", .ofNat s.authenticator.registry.size),
      ("cookie", .bool s.authenticator.cookie.isSome)])
  else if method = "help".toList then some (.array (methodNames.map Json.string))
  else if method = "uptime".toList then some (.ofNat uptime)
  else none

def json (status : Nat) (value : Json) : Response :=
  ⟨status, [("content-type".toList, Text.utf8 "application/json".toList)], Text.utf8 value.print⟩

def dispatch (s : Server) (uptime : Nat) (user : Text) (body : Bytes) : Response :=
  match Json.ofBytes? body with
  | none => json 400 (CallResult.parseError.reply false .null)
  | some value => match Call.ofJson? value with
    | none => json 400 (CallResult.invalidRequest.reply false .null)
    | some c =>
      if !s.whitelist.allows user c.method then Response.bare 403
      else match s.call? uptime c.method c.params with
        | some result => json 200 ((CallResult.ok result).reply c.isVersion2 c.id)
        | none => json 404 (CallResult.methodNotFound.reply c.isVersion2 c.id)

/-- No body is longer. -/
def bodyLimit : Nat := 2097152

def tooLong : Response :=
  ⟨413, [("content-type".toList, Text.utf8 "text/plain; charset=utf-8".toList)],
    Text.utf8 "Failed to buffer the request body: length limit exceeded".toList⟩

def unauthorized : Response :=
  ⟨401, [("www-authenticate".toList, Text.utf8 "Basic realm=\"jsonrpc\"".toList)], []⟩

/-- A method that a path does not have, with those that it has. -/
def notAllowed (methods : String) : Response :=
  ⟨405, [("allow".toList, Text.utf8 methods.toList)], []⟩

/-- Name, version and build; in the header the build's first seven characters. -/
def health (p : Package) : Response :=
  let short := p.name ++ ':' :: p.version ++ ':' :: p.build.take 7
  ⟨200, [("content-type".toList, Text.utf8 "application/json".toList), ("x-app".toList, Text.utf8 short)],
    Text.utf8 (Json.print (Json.ofMembers
      [("name", .string p.name), ("version", .string p.version), ("build", .string p.build)]))⟩

def healthMethods : List Text := ["GET".toList, "HEAD".toList, "OPTIONS".toList]

/-- The first authorization header, absent when it is not visible ASCII. -/
def authorization? (r : Request) : Option Text :=
  (r.headers.lookup "authorization".toList).bind visible?

/-- Takes the body in before anything is made of it. -/
def serveBody (s : Server) (uptime : Nat) (user : Text) (body : Bytes) : Response :=
  if bodyLimit < body.length then tooLong else s.dispatch uptime user body

def serveUser (s : Server) (uptime : Nat) (user : Text) (r : Request) : Response :=
  if r.path ≠ ['/'] then Response.bare 404
  else if r.method = "POST".toList then s.serveBody uptime user r.body
  else notAllowed "POST"

def route (s : Server) (p : Package) (uptime : Nat) (r : Request) : Response :=
  if r.path = "/health".toList then
    if healthMethods.contains r.method then
      if r.method = "HEAD".toList then { health p with body := [] } else health p
    else notAllowed "GET,HEAD,OPTIONS"
  else match s.authenticator.authenticate (authorization? r) with
    | .rejected => unauthorized
    | .accepted user => s.serveUser uptime user r

def requestId : Text := "x-request-id".toList

/-- The signs of identifiers: digits and capital letters but for I, L, O and U. -/
def idSigns : Text := "0123456789ABCDEFGHJKMNPQRSTVWXYZ".toList

/-- An identifier of 26 signs, from 48 bits of the clock and 80 random ones. -/
def freshId (milliseconds : Nat) (random : Vector UInt8 10) : Text :=
  let bits := random.toList.foldl (fun n b => n * 256 + b.toNat) (milliseconds % 0x1000000000000)
  (List.range 26).map fun i => idSigns.getD (bits >>> (5 * (25 - i)) % 32) '0'

/-- The whole answer: a request without an identifier gets `fresh`, and the answer carries it. -/
def respond (s : Server) (p : Package) (uptime : Nat) (fresh : Text) (r : Request) : Response :=
  let id := (r.headers.lookup requestId).getD (Text.utf8 fresh)
  let answer := s.route p uptime r
  { answer with headers := Headers.orElse answer.headers requestId id }

end Server

end RpcGate
