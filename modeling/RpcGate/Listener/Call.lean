import RpcGate.Json.Reader

/-!
# Calls

A body that is JSON is read as a call: an object with a method, or an array
that lists version, method, parameters and identifier in this order. The
reply has the form of the version that the call asks for.
-/

namespace RpcGate

structure Call where
  version : Option Text
  method : Text
  params : Json
  id : Json

namespace Call

/-- A version member: a text, or null for none. -/
def version? : Json → Option (Option Text)
  | .null => some none
  | .string t => some (some t)
  | _ => none

def text? : Json → Option Text
  | .string t => some t
  | _ => none

/-- Reads an object's members; those of other names do not matter. -/
def ofMembers? (members : List (Text × Json)) : Option Call := do
  let version ← version? ((members.lookup "jsonrpc".toList).getD .null)
  let method ← text? (← members.lookup "method".toList)
  return ⟨version, method, (members.lookup "params".toList).getD .null,
    (members.lookup "id".toList).getD .null⟩

/-- Reads an array of two to four items. -/
def ofItems? : List Json → Option Call
  | [v, m] => do return ⟨← version? v, ← text? m, .null, .null⟩
  | [v, m, p] => do return ⟨← version? v, ← text? m, p, .null⟩
  | [v, m, p, i] => do return ⟨← version? v, ← text? m, p, i⟩
  | _ => none

def ofJson? : Json → Option Call
  | .object members => ofMembers? members
  | .array items => ofItems? items
  | _ => none

/-- Whether the call asks for a reply in the form of version 2.0. -/
def isVersion2 (c : Call) : Bool := c.version = some "2.0".toList

end Call

inductive CallResult
  | ok (result : Json)
  | failed (code : Int) (message : String)

namespace CallResult

def parseError : CallResult := failed (-32700) "Parse error"
def invalidRequest : CallResult := failed (-32600) "Invalid Request object"
def methodNotFound : CallResult := failed (-32601) "Method not found"

/-- The reply: version 2.0 has a result or an error, the older form always has both. -/
def reply (r : CallResult) (version2 : Bool) (id : Json) : Json :=
  match r, version2 with
  | ok result, true =>
    Json.ofMembers [("jsonrpc", .ofString "2.0"), ("result", result), ("id", id)]
  | ok result, false => Json.ofMembers [("result", result), ("error", .null), ("id", id)]
  | failed code message, true =>
    Json.ofMembers [("jsonrpc", .ofString "2.0"),
      ("error", Json.ofMembers [("code", .ofInt code), ("message", .ofString message)]), ("id", id)]
  | failed code message, false =>
    Json.ofMembers [("result", .null),
      ("error", Json.ofMembers [("code", .ofInt code), ("message", .ofString message)]), ("id", id)]

end CallResult

end RpcGate
