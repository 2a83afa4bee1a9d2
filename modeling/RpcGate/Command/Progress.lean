import RpcGate.Command.Grammar
import RpcGate.Command.Refusal

/-!
# Reading words

The words of a command line are read from left to right. An option waits for
its value, and what it got is judged when the next argument begins or the
words end; then the environment fills in what the words left out. The first
free word of the server, or the first that looks like an unknown option,
takes all that follow with it.
-/

namespace RpcGate

namespace Command

structure Progress where
  found : Matches
  /-- A parameter whose values are not judged yet. -/
  pending : Option (Param × List Text)
  /-- Only free words follow. -/
  verbatim : Bool
  /-- How many free words there were. -/
  position : Nat

namespace Progress

def start : Progress := ⟨[], none, false, 0⟩

def accept (found : Matches) (origin : Origin) (p : Param) (short : Bool) (values : List Text) :
    Except Refusal Matches :=
  match p with
  | .help => .error .displayHelp
  | .version => .error (.displayVersion !short)
  | .verbosity =>
    let values := if values = [] then
        let count := ((found.value? p).bind Verbosity.parse?).getD 0
        [Text.decimal (min 255 (count + 1))]
      else values
    do
      values.forM (judge p)
      return found.set ⟨p, origin, values⟩
  | _ =>
    if p.takesValue ∧ values = [] then .error (.noValue p)
    else if (found.find? p).isSome then .error (.repeated p)
    else do
      let values := if values = [] then ["true".toList] else values
      values.forM (judge p)
      return found.set ⟨p, origin, values⟩

def settle (s : Progress) : Except Refusal Progress :=
  match s.pending with
  | none => .ok s
  | some (p, values) => do
    return { s with found := ← accept s.found .words p false values, pending := none }

/-- A parameter that is complete as it stands. -/
def take (s : Progress) (p : Param) (short : Bool) (values : List Text) : Except Refusal Progress := do
  let s ← s.settle
  return { s with found := ← accept s.found .words p short values }

def await (s : Progress) (p : Param) : Except Refusal Progress := do
  let s ← s.settle
  return { s with pending := some (p, []) }

def awaited? (s : Progress) : Option Param :=
  match s.pending with
  | some (p, []) => some p
  | _ => none

def free (g : Grammar) (s : Progress) (word : Text) : Except Refusal Progress :=
  if g.takesRest then
    match s.pending with
    | some (.overrides, words) =>
      .ok { s with pending := some (.overrides, words ++ [word]), verbatim := true }
    | _ => do
      let s ← s.settle
      return { s with pending := some (.overrides, [word]), verbatim := true }
  else match g.positionals[s.position]? with
    | some p => do
      let s ← s.settle
      return { s with pending := some (p, [word]), position := s.position + 1 }
    | none => .error (.unknownArgument word)

/-- A word that is no option: the value that is waited for, or a free word. -/
def plain (g : Grammar) (s : Progress) (word : Text) : Except Refusal Progress :=
  match s.awaited? with
  | some p => .ok { s with pending := some (p, [word]) }
  | none => free g s word

def long (g : Grammar) (s : Progress) (word name : Text) (value : Option Text) :
    Except Refusal Progress :=
  match g.long? name with
  | some p =>
    if p.takesValue then
      match value with
      | some v => s.take p false [v]
      | none => s.await p
    else match value with
      | some v => .error (.unneededValue p v)
      | none => s.take p false []
  | none => if g.takesRest then plain g s word else .error (.unknownArgument ('-' :: '-' :: name))

def letters (g : Grammar) (s : Progress) : Text → Except Refusal Progress
  | [] => .ok s
  | c :: rest => match g.short? c with
    | none => .error (.unknownArgument ['-', c])
    | some p =>
      if p.takesValue then
        match rest with
        | [] => s.await p
        | '=' :: value => s.take p true [value]
        | value => s.take p true [value]
      else do letters g (← s.take p true []) rest

def short (g : Grammar) (s : Progress) (word cluster : Text) : Except Refusal Progress :=
  if g.takesRest ∧ cluster.any fun c => (g.short? c).isNone then plain g s word
  else letters g s cluster

def step (g : Grammar) (s : Progress) (word : Text) : Except Refusal Progress :=
  if s.verbatim then free g s word
  else match word with
    | ['-', '-'] => .ok { s with verbatim := true }
    | '-' :: '-' :: rest =>
      match Text.splitOnce '=' rest with
      | some (name, value) => long g s word name (some value)
      | none => long g s word rest none
    | '-' :: c :: rest => short g s word (c :: rest)
    | _ => plain g s word

/-- Reads words up to a subcommand, which is given back with the words after it. -/
def run (g : Grammar) (s : Progress) : List Text → Except Refusal (Progress × Option (Text × List Text))
  | [] => .ok (s, none)
  | word :: rest =>
    if !s.verbatim ∧ s.awaited?.isNone ∧ g.subcommands.contains word then .ok (s, some (word, rest))
    else do run g (← step g s word) rest

def fill (env : List (Text × Text)) (found : Matches) (p : Param) : Except Refusal Matches :=
  if (found.find? p).isSome then .ok found
  else match p.environment?.bind (fun name => List.lookup name env) with
    | some value => accept found .environment p false [value]
    | none => .ok found

/-- The end of a level: what is pending, the environment, and what has to be there. -/
def finish (g : Grammar) (env : List (Text × Text)) (s : Progress) (excused : Bool) :
    Except Refusal Matches := do
  let s ← s.settle
  let found ← g.params.foldlM (fill env) s.found
  let absent := g.required.filter fun p => (found.find? p).isNone
  if excused ∨ absent = [] then .ok found else .error (.missing absent)

end Progress

end Command

end RpcGate
