import RpcGate.Command.Param
import RpcGate.Logging.Level
import RpcGate.Net.Address

/-!
# Refusals

Why a command line is not carried out, and the rules by which a single value
of a parameter is refused.
-/

namespace RpcGate

namespace Command

/-- Why a command line is not carried out, or what it asks for instead. -/
inductive Refusal
  | displayHelp
  /-- The long form also tells what the program was built from. -/
  | displayVersion (long : Bool)
  | unknownSubcommand (word : Text)
  | unknownArgument (word : Text)
  | missing (params : List Param)
  | noValue (param : Param)
  | badSwitch (param : Param) (value : Text)
  | badValue (param : Param) (value reason : Text)
  | repeated (param : Param)
  | unneededValue (param : Param) (value : Text)
  deriving DecidableEq, Repr

namespace Refusal

def exitCode : Refusal → Nat
  | displayHelp | displayVersion _ => 0
  | _ => 2

def headline : Refusal → Text
  | displayHelp | displayVersion _ => []
  | unknownSubcommand word => "error: unrecognized subcommand '".toList ++ word ++ "'".toList
  | unknownArgument word => "error: unexpected argument '".toList ++ word ++ "' found".toList
  | missing _ => "error: the following required arguments were not provided:".toList
  | noValue p =>
    "error: a value is required for '".toList ++ p.label ++ "' but none was supplied".toList
  | badSwitch p value =>
    "error: invalid value '".toList ++ value ++ "' for '".toList ++ p.label ++ "'".toList
  | badValue p value reason =>
    "error: invalid value '".toList ++ value ++ "' for '".toList ++ p.label ++ "': ".toList ++ reason
  | repeated p =>
    "error: the argument '".toList ++ p.label ++ "' cannot be used multiple times".toList
  | unneededValue p value =>
    "error: unexpected value '".toList ++ value ++ "' for '".toList ++ p.label
      ++ "' found; no more were expected".toList

end Refusal

/-! ## Values -/

/-- The least number of 64 bits with a sign is minus this. -/
def integerLimit : Nat := 0x8000000000000000

def invalidDigit : Text := "invalid digit found in string".toList

/-- The digits read on from `acc`. The first character that is no digit or leads beyond `limit`
decides what is wrong. -/
def digitsUpTo (limit : Nat) (beyond : Text) : Nat → Text → Except Text Nat
  | acc, [] => .ok acc
  | acc, c :: cs => match Text.digit? 10 c with
    | none => .error invalidDigit
    | some d =>
      if limit < acc * 10 + d then .error beyond else digitsUpTo limit beyond (acc * 10 + d) cs

def magnitude (limit : Nat) (beyond : String) (ds : Text) : Except Text Nat :=
  if ds = [] then .error invalidDigit else digitsUpTo limit beyond.toList 0 ds

def integer (t : Text) : Except Text Int :=
  let positive (ds : Text) : Except Text Int :=
    (magnitude (integerLimit - 1) "number too large to fit in target type" ds).map Int.ofNat
  match t with
  | [] => .error "cannot parse integer from empty string".toList
  | '-' :: ds =>
    (magnitude integerLimit "number too small to fit in target type" ds).map fun n => -Int.ofNat n
  | '+' :: ds => positive ds
  | ds => positive ds

def portNumber (t : Text) : Except Text UInt16 := do
  let n ← integer t
  if 0 ≤ n ∧ n ≤ 65535 then .ok (UInt16.ofNat n.toNat)
  else
    let digits := if n < 0 then '-' :: Text.decimal n.natAbs else Text.decimal n.natAbs
    .error (digits ++ " is not in 0..=65535".toList)

def judge (p : Param) (value : Text) : Except Refusal Unit :=
  match p with
  | .datadir | .conf | .output => if value = [] then .error (.noValue p) else .ok ()
  | .bind => if (IpAddress.parse? value).isSome then .ok ()
    else .error (.badValue p value "invalid IP address syntax".toList)
  | .port => match portNumber value with
    | .ok _ => .ok ()
    | .error reason => .error (.badValue p value reason)
  | .verbosity => if (Verbosity.parse? value).isSome then .ok ()
    else .error (.badValue p value ("invalid log level: ".toList ++ value))
  | .logJson => if value = "true".toList ∨ value = "false".toList then .ok ()
    else .error (if value = [] then .noValue p else .badSwitch p value)
  | _ => .ok ()

end Command

end RpcGate
