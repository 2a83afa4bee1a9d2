import RpcGate.Credential.Error

/-!
# Whitelists

Which user may call which method. A user named more than once keeps only the
methods that stand in every one of its lists.
-/

namespace RpcGate

structure Whitelist where
  users : List (Text × List Text)
  restrictUnlisted : Bool
  deriving DecidableEq, Repr

namespace Whitelist

def methods (t : Text) : List Text := ((Text.pieces ',' t).map Text.trim).filter (· ≠ [])

def parseValue (value : Text) : Except AuthError (Text × List Text) :=
  match Text.splitOnce ':' value with
  | some (user, rest) => .ok (user, methods rest)
  | none => .error (.badWhitelist value)

/-- One more list for a user, on top of the lists so far. -/
def allow (users : List (Text × List Text)) (user : Text) (ms : List Text) :
    List (Text × List Text) :=
  if (users.lookup user).isSome then
    users.map fun p => if p.1 = user then (p.1, p.2.filter ms.contains) else p
  else users ++ [(user, ms)]

/-- Without a default, users that no value names are restricted as soon as there is a value. -/
def build (values : List Text) (default : Option Bool) : Except AuthError Whitelist := do
  let read ← values.mapM parseValue
  return ⟨read.foldl (fun users p => allow users p.1 p.2) [], default.getD !values.isEmpty⟩

def allows (w : Whitelist) (user method : Text) : Bool :=
  match w.users.lookup user with
  | some ms => ms.contains method
  | none => !w.restrictUnlisted

end Whitelist

end RpcGate
