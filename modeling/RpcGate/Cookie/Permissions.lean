import RpcGate.Credential.Error

/-!
# Permissions of the cookie file

What the settings ask for, and the two ways in which a platform can be asked
to give a file its bits.
-/

namespace RpcGate

inductive CookiePermissions
  | ownerOnly
  | osDefault
  | mode (bits : Mode)
  deriving DecidableEq, Repr

namespace CookiePermissions

def ownerBits : Mode := 0o600

/-- An octal number that fits in the twelve bits. -/
def modeOf? (t : Text) : Option Mode :=
  match Text.natural? 8 t with
  | some n => if n ≤ 0o7777 then some (BitVec.ofNat 12 n) else none
  | none => none

def parse (value : Text) : Except AuthError CookiePermissions :=
  let t := Text.trim value
  if t = [] ∨ t = ['1'] then .ok .ownerOnly
  else if t = ['0'] then .ok .osDefault
  else match modeOf? t with
    | some m => .ok (.mode m)
    | none => .error (.badPermissions value)

/-- The bits the file has to end up with; without any, those of a new file stay. -/
def target? : CookiePermissions → Option Mode
  | ownerOnly => some ownerBits
  | osDefault => none
  | mode m => some m

/-- The form for logs, bits in base 10. -/
def label : CookiePermissions → Text
  | ownerOnly => "OwnerOnly".toList
  | osDefault => "OsDefault".toList
  | mode m => "Mode(".toList ++ Text.decimal m.toNat ++ ")".toList

end CookiePermissions

/-- How a platform gives a file its bits and reads them back. Both answers may use the bits that
the file has, or the fault of asking for them. -/
structure Capability where
  /-- The bits to set when `wanted` is asked for. -/
  choose : (present : Except Fault Mode) → (wanted : Mode) → Except Fault Mode
  /-- The number it reports for the bits, if it knows of any. -/
  report : (present : Except Fault Mode) → Except Fault (Option Nat)

namespace Capability

/-- Sets exactly the bits that are wanted and reports those that are there. -/
def posix : Capability where
  choose _ wanted := .ok wanted
  report present := present.map fun bits => some bits.toNat

/-- Knows only whether a file can be written: all write bits or none. -/
def readOnlyFlag : Capability where
  choose present wanted := present.map fun bits =>
    if wanted &&& 0o222 = 0 then bits &&& ~~~0o222 else bits ||| 0o222
  report _ := .ok none

def present (fs : FileSystem) (path : Path) : Except Fault Mode :=
  (fs.stat path).map fun p => p.2.mode

def apply (c : Capability) (fs : FileSystem) (path : Path) (wanted : Mode) :
    Except Fault FileSystem := do
  fs.setMode path (← c.choose (present fs path) wanted)

def mode (c : Capability) (fs : FileSystem) (path : Path) : Except Fault (Option Nat) :=
  c.report (present fs path)

end Capability

end RpcGate
