import RpcGate.Credential.Error
import RpcGate.Digest.Sha256

/-!
# Salted entries

An entry `user:salt$hash` lets its user in with every password whose digest
keyed by the salt's text is the hash. `parse` and `encode` are the two sides
of that format.
-/

namespace RpcGate

structure Entry where
  username : Text
  salt : Text
  hash : Digest
  deriving DecidableEq, Repr

def keyedHash (salt password : Bytes) : Digest := Hmac.hash salt password

namespace Entry

def ofPassword (username salt password : Text) : Entry :=
  ⟨username, salt, keyedHash (Text.utf8 salt) (Text.utf8 password)⟩

/-- The entry of `password` under 16 salt bytes, written as hexadecimal. -/
def generate (salt : Vector UInt8 16) (username password : Text) : Entry :=
  ofPassword username (Hex.encode salt.toList) password

def encode (e : Entry) : Text := e.username ++ ':' :: e.salt ++ '$' :: Digest.hex e.hash

/-- Salt and hash, the part after the user. -/
def parseMaterial (username material : Text) : Except EntryFault Entry :=
  match Text.pieces '$' material with
  | [salt, hash] =>
    if username = [] then .error .emptyUser
    else if hash = [] then .error .emptyHash
    else match Digest.ofHex? hash with
      | some digest => .ok ⟨username, salt, digest⟩
      | none => .error .badHash
  | _ => .error .dollarCount

def parse (raw : Text) : Except EntryFault Entry :=
  match Text.pieces ':' raw with
  | [username, material] => parseMaterial username material
  | _ => .error .colonCount

def accepts (e : Entry) (password : Text) : Bool :=
  keyedHash (Text.utf8 e.salt) (Text.utf8 password) = e.hash

/-- The form for logs, which shows neither salt nor hash. -/
def redacted (e : Entry) : Text :=
  "CredentialEntry \x7b username: ".toList ++ Text.quoted e.username
    ++ ", salt: \"[REDACTED]\", hash: \"[REDACTED]\" \x7d".toList

end Entry

structure LegacyPair where
  username : Text
  password : Text
  deriving DecidableEq, Repr

/-- The key under which plain secrets are compared. -/
def decoyKey : Bytes := Text.utf8 "rpcauth-decoy-0c6f1e6a2d4b".toList

/-- Equality of bytes; only the length may show in the time it takes. -/
def sameBytes (a b : Bytes) : Bool := a = b

/-- Compares two secrets through their digests, so that neither length nor content shows. -/
def sameSecret (presented stored : Bytes) : Bool :=
  keyedHash decoyKey presented = keyedHash decoyKey stored

namespace LegacyPair

def accepts (p : LegacyPair) (password : Text) : Bool :=
  sameSecret (Text.utf8 password) (Text.utf8 p.password)

/-- The form for logs, which does not show the password. -/
def redacted (p : LegacyPair) : Text :=
  "LegacyCredential \x7b username: ".toList ++ Text.quoted p.username
    ++ ", password: SecretBox<str>([REDACTED]) \x7d".toList

end LegacyPair

inductive Credential
  | hashed (entry : Entry)
  | legacy (pair : LegacyPair)
  deriving DecidableEq, Repr

namespace Credential

def username : Credential → Text
  | hashed e => e.username
  | legacy p => p.username

def accepts : Credential → Text → Bool
  | hashed e, password => e.accepts password
  | legacy p, password => p.accepts password

end Credential

end RpcGate
