import RpcGate.Codec.Hex

/-!
# SHA-256

The message is padded to whole blocks of 64 bytes; each block stirs a state
of eight words, and the last state is the digest. With a key, HMAC over it
gives the digests that entries keep, written in hexadecimal.
-/

namespace RpcGate

abbrev Digest := Vector UInt8 32

namespace Sha256

abbrev State := Vector UInt32 8

def initial : State := #v[
  0x6a09e667, 0xbb67ae85, 0x3c6ef372, 0xa54ff53a, 0x510e527f, 0x9b05688c, 0x1f83d9ab, 0x5be0cd19]

def constants : List UInt32 := [
  0x428a2f98, 0x71374491, 0xb5c0fbcf, 0xe9b5dba5, 0x3956c25b, 0x59f111f1, 0x923f82a4, 0xab1c5ed5,
  0xd807aa98, 0x12835b01, 0x243185be, 0x550c7dc3, 0x72be5d74, 0x80deb1fe, 0x9bdc06a7, 0xc19bf174,
  0xe49b69c1, 0xefbe4786, 0x0fc19dc6, 0x240ca1cc, 0x2de92c6f, 0x4a7484aa, 0x5cb0a9dc, 0x76f988da,
  0x983e5152, 0xa831c66d, 0xb00327c8, 0xbf597fc7, 0xc6e00bf3, 0xd5a79147, 0x06ca6351, 0x14292967,
  0x27b70a85, 0x2e1b2138, 0x4d2c6dfc, 0x53380d13, 0x650a7354, 0x766a0abb, 0x81c2c92e, 0x92722c85,
  0xa2bfe8a1, 0xa81a664b, 0xc24b8b70, 0xc76c51a3, 0xd192e819, 0xd6990624, 0xf40e3585, 0x106aa070,
  0x19a4c116, 0x1e376c08, 0x2748774c, 0x34b0bcb5, 0x391c0cb3, 0x4ed8aa4a, 0x5b9cca4f, 0x682e6ff3,
  0x748f82ee, 0x78a5636f, 0x84c87814, 0x8cc70208, 0x90befffa, 0xa4506ceb, 0xbef9a3f7, 0xc67178f2]

def rotr (x : UInt32) (n : UInt32) : UInt32 := (x >>> n) ||| (x <<< (32 - n))

def word (a b c d : UInt8) : UInt32 :=
  (a.toUInt32 <<< 24) ||| (b.toUInt32 <<< 16) ||| (c.toUInt32 <<< 8) ||| d.toUInt32

def words : Bytes → List UInt32
  | a :: b :: c :: d :: rest => word a b c d :: words rest
  | _ => []

/-- Moves the window of sixteen schedule words on by one. -/
def slide : List UInt32 → List UInt32
  | w0 :: rest =>
    let w1 := rest[0]?.getD 0
    let w9 := rest[8]?.getD 0
    let w14 := rest[13]?.getD 0
    let s0 := rotr w1 7 ^^^ rotr w1 18 ^^^ (w1 >>> 3)
    let s1 := rotr w14 17 ^^^ rotr w14 19 ^^^ (w14 >>> 10)
    rest ++ [w0 + s0 + w9 + s1]
  | [] => []

def round (s : State) (k w : UInt32) : State :=
  let a := s[0]
  let e := s[4]
  let s1 := rotr e 6 ^^^ rotr e 11 ^^^ rotr e 25
  let ch := (e &&& s[5]) ^^^ (~~~e &&& s[6])
  let t1 := s[7] + s1 + ch + k + w
  let s0 := rotr a 2 ^^^ rotr a 13 ^^^ rotr a 22
  let maj := (a &&& s[1]) ^^^ (a &&& s[2]) ^^^ (s[1] &&& s[2])
  #v[t1 + (s0 + maj), a, s[1], s[2], s[3] + t1, e, s[5], s[6]]

def compress (s : State) (block : Bytes) : State :=
  let last := constants.foldl
    (fun (p : State × List UInt32) k => (round p.1 k (p.2.headD 0), slide p.2)) (s, words block)
  Vector.zipWith (· + ·) s last.1

/-- The first `count` blocks of a message. -/
def blocks : (count : Nat) → Bytes → List Bytes
  | 0, _ => []
  | count + 1, message => message.take 64 :: blocks count (message.drop 64)

/-- A one bit, zeros, and the length in bits as eight bytes, up to a whole block. -/
def padding (length : Nat) : Bytes :=
  0x80 :: List.replicate ((119 - length % 64) % 64) 0
    ++ (List.range 8).map fun i => (UInt64.ofNat (length * 8) >>> UInt64.ofNat (8 * (7 - i))).toUInt8

def bytes (s : State) : Digest :=
  Vector.ofFn fun i : Fin 32 =>
    (s.get ⟨i.val / 4, by have := i.isLt; omega⟩ >>> UInt32.ofNat (8 * (3 - i.val % 4))).toUInt8

def hash (message : Bytes) : Digest :=
  let padded := message ++ padding message.length
  bytes ((blocks (padded.length / 64) padded).foldl compress initial)

end Sha256

namespace Hmac

/-- A key longer than a block gives way to its digest; a shorter one is filled up with zeros. -/
def blockKey (key : Bytes) : Bytes :=
  let k := if key.length ≤ 64 then key else (Sha256.hash key).toList
  k ++ List.replicate (64 - k.length) 0

def hash (key message : Bytes) : Digest :=
  let k := blockKey key
  let inner := Sha256.hash (k.map (· ^^^ 0x36) ++ message)
  Sha256.hash (k.map (· ^^^ 0x5c) ++ inner.toList)

end Hmac

namespace Digest

def hex (d : Digest) : Text := Hex.encode d.toList

def ofHex? (t : Text) : Option Digest :=
  match Hex.decode? t with
  | none => none
  | some bs => if h : bs.length = 32 then some ⟨bs.toArray, by simpa using h⟩ else none

end Digest

end RpcGate
