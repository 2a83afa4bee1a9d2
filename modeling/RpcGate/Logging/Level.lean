import RpcGate.Text.Basic

/-!
# Levels of log events

From errors, which are rarest, to traces. A filter lets events up to some
level through, or none at all.
-/

namespace RpcGate

inductive Level
  | error
  | warn
  | info
  | debug
  | trace
  deriving DecidableEq, Repr

namespace Level

def all : List Level := [error, warn, info, debug, trace]

def rank : Level → Nat
  | error => 1
  | warn => 2
  | info => 3
  | debug => 4
  | trace => 5

def name : Level → Text
  | error => "ERROR".toList
  | warn => "WARN".toList
  | info => "INFO".toList
  | debug => "DEBUG".toList
  | trace => "TRACE".toList

def ofName? (t : Text) : Option Level :=
  all.find? fun l => Text.lowerAscii l.name = Text.lowerAscii t

end Level

namespace Verbosity

def limit : Nat := 5

/-- A count up to the limit, or a level name, `error` standing for a count of zero. -/
def parse? (t : Text) : Option Nat :=
  match Text.natural? 10 t with
  | some n => if n ≤ limit then some n else none
  | none => (Level.ofName? t).map fun l => l.rank - 1

def level? : Nat → Option Level
  | 0 => none
  | 1 => some .warn
  | 2 => some .info
  | 3 => some .debug
  | _ => some .trace

end Verbosity

end RpcGate
