import RpcGate.Json.Binary64

/-!
# JSON values

Members of an object stand in the order of their names and have distinct
names: `put` keeps both, and a name put twice has its last value.
-/

namespace RpcGate

inductive JsonNumber
  /-- An integer of 64 bits without a sign. -/
  | natural (n : Nat)
  /-- `-n`, for a positive `n` that fits in 64 bits with a sign. -/
  | negative (n : Nat)
  | double (x : Binary64)
  deriving DecidableEq, Repr

inductive Json
  | null
  | bool (b : Bool)
  | number (n : JsonNumber)
  | string (t : Text)
  | array (items : List Json)
  | object (members : List (Text × Json))
  deriving Repr

namespace Json

def put (name : Text) (value : Json) : List (Text × Json) → List (Text × Json)
  | [] => [(name, value)]
  | (n, v) :: rest =>
    if n = name then (name, value) :: rest
    else if Text.before n name then (n, v) :: put name value rest
    else (name, value) :: (n, v) :: rest

def ofMembers (members : List (String × Json)) : Json :=
  .object (members.foldl (fun acc m => put m.1.toList m.2 acc) [])

def get? (name : Text) : Json → Option Json
  | .object members => members.lookup name
  | _ => none

def ofNat (n : Nat) : Json := .number (.natural n)

def ofInt (i : Int) : Json :=
  .number (if i < 0 then .negative i.natAbs else .natural i.natAbs)

def ofString (s : String) : Json := .string s.toList

/-! ## Printing -/

def escaped (c : Char) : Text :=
  if c = '"' then ['\\', '"']
  else if c = '\\' then ['\\', '\\']
  else if c = '\x08' then ['\\', 'b']
  else if c = '\x0c' then ['\\', 'f']
  else if c = '\n' then ['\\', 'n']
  else if c = '\r' then ['\\', 'r']
  else if c = '\t' then ['\\', 't']
  else if c.toNat < 0x20 then
    ['\\', 'u', '0', '0', Nat.digitChar (c.toNat / 16), Nat.digitChar (c.toNat % 16)]
  else [c]

def printString (t : Text) : Text := '"' :: t.flatMap escaped ++ ['"']

def printNumber : JsonNumber → Text
  | .natural n => Text.decimal n
  | .negative n => '-' :: Text.decimal n
  | .double x => x.label

mutual

def print : Json → Text
  | .null => "null".toList
  | .bool b => if b then "true".toList else "false".toList
  | .number n => printNumber n
  | .string t => printString t
  | .array [] => ['[', ']']
  | .array (item :: items) => '[' :: print item ++ printItems items
  | .object [] => ['\x7b', '\x7d']
  | .object ((name, value) :: members) =>
    '\x7b' :: printString name ++ ':' :: print value ++ printMembers members

/-- Further items and the end of an array. -/
def printItems : List Json → Text
  | [] => [']']
  | item :: items => ',' :: print item ++ printItems items

/-- Further members and the end of an object. -/
def printMembers : List (Text × Json) → Text
  | [] => ['\x7d']
  | (name, value) :: members =>
    ',' :: printString name ++ ':' :: print value ++ printMembers members

end

end Json

end RpcGate
