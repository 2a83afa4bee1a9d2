import RpcGate.Codec.Hex

/-!
# Network addresses

Addresses are written in one way: without leading zeros, and in version 6
with the first longest run of at least two zero groups left out.
-/

namespace RpcGate

inductive IpAddress
  | v4 (octets : Vector UInt8 4)
  | v6 (groups : Vector UInt16 8)
  deriving DecidableEq, Repr

namespace IpAddress

def loopback : IpAddress := v4 #v[127, 0, 0, 1]

/-! ## Reading -/

/-- A number of at most three digits below 256, without leading zeros. -/
def octet? (t : Text) : Option UInt8 :=
  if 3 < t.length ∨ (t.head? = some '0' ∧ t.length ≠ 1) then none
  else match Text.digits? 10 t with
    | some n => if n < 256 then some (UInt8.ofNat n) else none
    | none => none

def octets? (t : Text) : Option (Vector UInt8 4) := do
  match Text.pieces '.' t with
  | [a, b, c, d] => return #v[← octet? a, ← octet? b, ← octet? c, ← octet? d]
  | _ => none

def group? (t : Text) : Option UInt16 :=
  if t = [] ∨ 4 < t.length then none
  else (t.mapM Hex.digit?).map fun ds => UInt16.ofNat (ds.foldl (fun n d => n * 16 + d) 0)

/-- The two groups of an embedded version 4 address. -/
def embedded (o : Vector UInt8 4) : List UInt16 :=
  [(o[0].toUInt16 <<< 8) ||| o[1].toUInt16, (o[2].toUInt16 <<< 8) ||| o[3].toUInt16]

/-- Groups set apart by colons. The last may be a version 4 address where `mixed` allows it. -/
def groups? (mixed : Bool) : List Text → Option (List UInt16)
  | [] => some []
  | [last] => match octets? last with
    | some o => if mixed then some (embedded o) else none
    | none => (group? last).map ([·])
  | g :: gs => do return (← group? g) :: (← groups? mixed gs)

/-- The groups on one side of `::`, which may be empty. -/
def side? (mixed : Bool) (t : Text) : Option (List UInt16) :=
  if t = [] then some [] else groups? mixed (Text.pieces ':' t)

/-- What stands before and after the first `::`. -/
def splitGap : Text → Option (Text × Text)
  | ':' :: ':' :: rest => some ([], rest)
  | c :: cs => (splitGap cs).map fun p => (c :: p.1, p.2)
  | [] => none

def vector? (gs : List UInt16) : Option (Vector UInt16 8) :=
  if h : gs.length = 8 then some ⟨gs.toArray, by simpa using h⟩ else none

def version6? (t : Text) : Option (Vector UInt16 8) :=
  match splitGap t with
  | none => (groups? true (Text.pieces ':' t)).bind vector?
  | some (before, after) => do
    let head ← side? false before
    let tail ← side? true after
    if head.length + tail.length < 8 then
      vector? (head ++ List.replicate (8 - head.length - tail.length) 0 ++ tail)
    else none

def parse? (t : Text) : Option IpAddress :=
  match octets? t with
  | some o => some (v4 o)
  | none => (version6? t).map v6

/-! ## Writing -/

def showOctets (o : List UInt8) : Text :=
  (o.map fun b => Text.decimal b.toNat).intersperse ['.'] |>.flatten

def showGroups (gs : List UInt16) : Text :=
  (gs.map fun g => Nat.toDigits 16 g.toNat).intersperse [':'] |>.flatten

def zeroRun (gs : List UInt16) : Nat := (gs.takeWhile (· == 0)).length

/-- Start and length of the first longest run of zeros. -/
def longestRun (gs : List UInt16) : Nat × Nat :=
  (List.range gs.length).foldl
    (fun best i => if best.2 < zeroRun (gs.drop i) then (i, zeroRun (gs.drop i)) else best) (0, 0)

def bytes (gs : List UInt16) : List UInt8 := gs.flatMap fun (g : UInt16) => [(g >>> 8).toUInt8, g.toUInt8]

def showVersion6 (g : Vector UInt16 8) : Text :=
  let gs := g.toList
  if gs.take 6 = [0, 0, 0, 0, 0, 0xffff] then "::ffff:".toList ++ showOctets (bytes (gs.drop 6))
  else
    let (start, length) := longestRun gs
    if 1 < length then
      showGroups (gs.take start) ++ [':', ':'] ++ showGroups (gs.drop (start + length))
    else showGroups gs

def label : IpAddress → Text
  | v4 o => showOctets o.toList
  | v6 g => showVersion6 g

end IpAddress

/-- An address and a port on it. In version 6 a zone may say which of the machine's links the address
belongs to; zero is none. -/
structure SocketAddress where
  ip : IpAddress
  port : UInt16
  zone : UInt32
  deriving DecidableEq, Repr

namespace SocketAddress

def ofIp (ip : IpAddress) (port : UInt16) : SocketAddress := ⟨ip, port, 0⟩

def label (a : SocketAddress) : Text :=
  let zone := if a.zone = 0 then [] else '%' :: Text.decimal a.zone.toNat
  match a.ip with
  | .v4 _ => a.ip.label ++ ':' :: Text.decimal a.port.toNat
  | .v6 _ => '[' :: a.ip.label ++ zone ++ ']' :: ':' :: Text.decimal a.port.toNat

def port? (t : Text) : Option UInt16 :=
  match Text.digits? 10 t with
  | some n => if n < 0x10000 then some (UInt16.ofNat n) else none
  | none => none

def zone? (t : Text) : Option UInt32 :=
  match Text.digits? 10 t with
  | some n => if n < 0x100000000 then some (UInt32.ofNat n) else none
  | none => none

/-- `a.b.c.d:port`, `[groups]:port` or `[groups%zone]:port`. -/
def parse? (t : Text) : Option SocketAddress :=
  match t with
  | '[' :: rest => do
    let (inside, after) ← Text.splitOnce ']' rest
    let port ← port? (← Text.dropPrefix [':'] after)
    match Text.splitOnce '%' inside with
    | some (groups, zone) => return ⟨.v6 (← IpAddress.version6? groups), port, ← zone? zone⟩
    | none => return ofIp (.v6 (← IpAddress.version6? inside)) port
  | _ => do
    let (ip, port) ← Text.splitOnce ':' t
    return ofIp (.v4 (← IpAddress.octets? ip)) (← port? port)

end SocketAddress

end RpcGate
