import RpcGate.Command.Param

/-!
# Grammars

What one level of the command line consists of, and what was given there.
-/

namespace RpcGate

namespace Command

/-- Where a value comes from; what comes later wins. -/
inductive Origin
  | environment
  | words
  deriving DecidableEq, Repr

structure Given where
  param : Param
  origin : Origin
  values : List Text
  deriving DecidableEq, Repr

abbrev Matches := List Given

namespace Matches

def find? (m : Matches) (p : Param) : Option Given := List.find? (fun g : Given => g.param = p) m

def set (m : Matches) (g : Given) : Matches := g :: m.filter (·.param ≠ g.param)

def value? (m : Matches) (p : Param) : Option Text := (m.find? p).bind (·.values.head?)

end Matches

/-- One level of the command line: the program itself, or a subcommand. -/
structure Grammar where
  /-- In the order in which the environment is asked. -/
  params : List Param
  positionals : List Param
  subcommands : List Text
  required : List Param
  /-- An unknown option is a free word, and the first free word takes all that follow. -/
  takesRest : Bool

def genName : Text := "gen".toList
def helpName : Text := "help".toList

namespace Grammar

def server : Grammar where
  params := [.datadir, .conf, .bind, .port, .overrides, .verbosity, .logJson, .help, .version]
  positionals := [.overrides]
  subcommands := [genName, helpName]
  required := [.datadir]
  takesRest := true

def gen : Grammar where
  params := [.username, .password, .output, .verbosity, .logJson, .help]
  positionals := [.username, .password]
  subcommands := []
  required := [.username]
  takesRest := false

def long? (g : Grammar) (name : Text) : Option Param := g.params.find? (·.long? = some name)

def short? (g : Grammar) (c : Char) : Option Param := g.params.find? (·.short? = some c)

end Grammar

end Command

end RpcGate
