import RpcGate.Command.Progress

/-!
# Command lines

A command line has one level for the program and, where it names a subcommand,
one more for that. A refusal of the inner level comes before those that the
outer level finds at its end.
-/

namespace RpcGate

namespace Command

/-- What a global parameter comes to: the subcommand's, unless the program's comes from the words
and the subcommand's from the environment. -/
def mergeGlobal (outer inner : Matches) (p : Param) : Option Given :=
  match outer.find? p, inner.find? p with
  | some o, some i => if o.origin = .words ∧ i.origin = .environment then some o else some i
  | some o, none => some o
  | none, i => i

structure Parsed where
  server : Matches
  gen : Option Matches

/-- Help on subcommands: each word has to name one. -/
def helpOn : List Text → Refusal
  | [] => .displayHelp
  | [w] => if w = genName ∨ w = helpName then .displayHelp else .unknownSubcommand w
  | w :: w' :: _ =>
    if w = genName ∨ w = helpName then .unknownSubcommand w' else .unknownSubcommand w

def parse (words : List Text) (env : List (Text × Text)) : Except Refusal Parsed := do
  let (s, sub) ← Progress.run .server .start words
  match sub with
  | none => return ⟨← s.finish .server env false, none⟩
  | some (name, rest) =>
    if name = helpName then .error (helpOn rest)
    else
      let (t, _) ← Progress.run .gen .start rest
      let inner ← t.finish .gen env false
      let outer ← s.finish .server env true
      return ⟨outer, some inner⟩

def Parsed.global (p : Parsed) (param : Param) : Option Given :=
  match p.gen with
  | none => p.server.find? param
  | some inner => mergeGlobal p.server inner param

end Command

end RpcGate
