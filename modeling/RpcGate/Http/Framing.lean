import RpcGate.Codec.Hex
import RpcGate.Http.Message

/-!
# Framing

A connection carries one request and its response. A message is a head of
lines that end in `\r\n`, an empty line, and a body: as many bytes as the
head announces, or chunks that each announce their own size. `readRequest`
takes in what has arrived so far, and no more of the body than the caller has
a use for; `writeResponse` gives the bytes to send.
-/

namespace RpcGate

namespace Http

/-- What has arrived on a connection. -/
inductive Arrived
  /-- The head or the body has not ended. -/
  | incomplete
  | malformed
  | request (r : Request)
  deriving DecidableEq, Repr

/-- The bytes before the first empty line and those after it. -/
def splitHead : Bytes → Option (Bytes × Bytes)
  | 13 :: 10 :: 13 :: 10 :: rest => some ([], rest)
  | b :: bs => (splitHead bs).map fun p => (b :: p.1, p.2)
  | [] => none

def ofLatin1 (b : Bytes) : Text := b.map fun b => Char.ofNat b.toNat

def toLatin1 (t : Text) : Bytes := t.map fun c => UInt8.ofNat c.toNat

/-- Method and path of a request line; the path ends where the query begins. -/
def requestLine? (line : Text) : Option (Text × Text) :=
  match Text.pieces ' ' line with
  | [method, target, _] =>
    if method = [] ∨ target = [] then none else some (method, target.takeWhile (· ≠ '?'))
  | _ => none

/-- A header line; the name may not be set off from its colon. -/
def headerLine? (line : Text) : Option (Text × Bytes) := do
  let (name, value) ← Text.splitOnce ':' line
  if name = [] ∨ name.any Text.isBlank then none
  else some (Text.lowerAscii name, fieldValue (toLatin1 value))

def readHead? (head : Bytes) : Option (Text × Text × Headers) :=
  match Text.lines (ofLatin1 head) with
  | first :: rest => do
    let (method, path) ← requestLine? first
    return (method, path, ← rest.mapM headerLine?)
  | [] => none

/-! ## Bodies -/

/-- What has arrived of a body. -/
inductive Body
  | incomplete
  | malformed
  | taken (bytes : Bytes)
  deriving DecidableEq, Repr

/-- The bytes before the first line end and those after it. -/
def splitLine : Bytes → Option (Bytes × Bytes)
  | 13 :: 10 :: rest => some ([], rest)
  | b :: bs => (splitLine bs).map fun p => (b :: p.1, p.2)
  | [] => none

theorem length_lt_of_splitLine {bs line rest : Bytes} (h : splitLine bs = some (line, rest)) :
    rest.length < bs.length := by
  fun_induction splitLine bs generalizing line with
  | case1 =>
    cases h
    simp only [List.length_cons]
    omega
  | case2 b bs _ ih =>
    obtain ⟨p, hp, he⟩ := Option.map_eq_some_iff.1 h
    obtain rfl := congrArg Prod.snd he
    exact Nat.lt_succ_of_lt (ih hp)
  | case3 => cases h

/-- The first bytes, at most `most` of them; `n` are to come. -/
def takeBody (most n : Nat) (arrived : Bytes) : Body :=
  if arrived.length < min most n then .incomplete else .taken (arrived.take (min most n))

/-- The size of a chunk; what follows a semicolon says nothing. -/
def chunkSize? (line : Bytes) : Option Nat :=
  let digits := (ofLatin1 (fieldValue (line.takeWhile (· ≠ 59)))).mapM fun c => Hex.digit? c
  digits.bind fun ds => if ds = [] then none else some (ds.foldl (fun n d => n * 16 + d) 0)

/-- The bytes of all chunks, at most `most` of them. The chunk of no size is the last one, and ends
like a head. -/
def unchunk (most : Nat) (arrived : Bytes) : Body :=
  match h : splitLine arrived with
  | none => .incomplete
  | some (line, rest) =>
    have := length_lt_of_splitLine h
    match chunkSize? line with
    | none => .malformed
    | some 0 => if (splitHead (13 :: 10 :: rest)).isSome then .taken [] else .incomplete
    | some n =>
      if most ≤ n then takeBody most n rest
      else if rest.length < n + 2 then .incomplete
      else if (rest.drop n).take 2 ≠ [13, 10] then .malformed
      else match unchunk (most - n) (rest.drop (n + 2)) with
        | .taken more => .taken (rest.take n ++ more)
        | ended => ended
termination_by arrived.length
decreasing_by
  simp only [List.length_drop]
  omega

/-- The body that a head announces; a head that announces none has an empty one. -/
def readBody (headers : Headers) (most : Nat) (arrived : Bytes) : Body :=
  match headers.first? "transfer-encoding".toList with
  | some coding =>
    if Text.lowerAscii (ofLatin1 coding) = "chunked".toList then unchunk most arrived else .malformed
  | none => match headers.first? "content-length".toList with
    | none => .taken []
    | some value => match Text.digits? 10 (ofLatin1 value) with
      | none => .malformed
      | some n => takeBody most n arrived

/-- Reads a request, of whose body no more than `most` bytes matter. -/
def readRequest (most : Nat) (arrived : Bytes) : Arrived :=
  match splitHead arrived with
  | none => .incomplete
  | some (head, rest) => match readHead? (head ++ [13, 10]) with
    | none => .malformed
    | some (method, path, headers) => match readBody headers most rest with
      | .incomplete => .incomplete
      | .malformed => .malformed
      | .taken body => .request ⟨method, path, headers, body⟩

/-! ## Responses -/

def reason : Nat → String
  | 200 => "OK"
  | 400 => "Bad Request"
  | 401 => "Unauthorized"
  | 403 => "Forbidden"
  | 404 => "Not Found"
  | 405 => "Method Not Allowed"
  | 413 => "Payload Too Large"
  | _ => ""

def statusLine (status : Nat) : Text :=
  "HTTP/1.1 ".toList ++ Text.decimal status ++ ' ' :: (reason status).toList ++ ['\r', '\n']

def writeHeader (h : Text × Bytes) : Bytes := toLatin1 h.1 ++ [58, 32] ++ h.2 ++ [13, 10]

/-- The response of a connection that ends with it. -/
def writeResponse (r : Response) : Bytes :=
  let framing : Headers := [("content-length".toList, toLatin1 (Text.decimal r.body.length)),
    ("connection".toList, toLatin1 "close".toList)]
  toLatin1 (statusLine r.status) ++ (r.headers ++ framing).flatMap writeHeader ++ [13, 10] ++ r.body

end Http

end RpcGate
