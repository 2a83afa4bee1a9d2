import RpcGate.Text.Basic

/-!
# Parameters

Everything that can be given on the command line: its names there, the
environment variable that stands in for it, and how messages name it.
-/

namespace RpcGate

namespace Command

inductive Param
  | datadir
  | conf
  | bind
  | port
  | overrides
  | verbosity
  | logJson
  | username
  | password
  | output
  | help
  | version
  deriving DecidableEq, Repr

namespace Param

def long? : Param → Option Text
  | datadir => some "datadir".toList
  | conf => some "conf".toList
  | bind => some "bind".toList
  | port => some "port".toList
  | verbosity => some "verbose".toList
  | logJson => some "log-json".toList
  | output => some "output".toList
  | help => some "help".toList
  | version => some "version".toList
  | _ => none

def short? : Param → Option Char
  | verbosity => some 'v'
  | output => some 'o'
  | help => some 'h'
  | version => some 'V'
  | _ => none

/-- The environment variable that stands in for a missing argument. -/
def environment? : Param → Option Text
  | datadir => some "RPCAUTH_DATADIR".toList
  | conf => some "RPCAUTH_CONF".toList
  | bind => some "RPCAUTH_BIND".toList
  | port => some "RPCAUTH_PORT".toList
  | verbosity => some "RPCAUTH_LOG_LEVEL".toList
  | logJson => some "RPCAUTH_LOG_JSON".toList
  | _ => none

/-- Whether an option takes the word after it. -/
def takesValue : Param → Bool
  | datadir | conf | bind | port | output => true
  | _ => false

/-- How messages name it. -/
def label : Param → Text
  | datadir => "--datadir <datadir>".toList
  | conf => "--conf <conf>".toList
  | bind => "--bind <bind>".toList
  | port => "--port <port>".toList
  | overrides => "[OVERRIDES]...".toList
  | verbosity => "--verbose...".toList
  | logJson => "--log-json".toList
  | username => "<username>".toList
  | password => "[password]".toList
  | output => "--output <output>".toList
  | help => "--help".toList
  | version => "--version".toList

end Param

end Command

end RpcGate
