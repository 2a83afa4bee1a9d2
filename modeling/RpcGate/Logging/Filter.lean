import RpcGate.Logging.Level
import RpcGate.Logging.Pattern
import RpcGate.Text.Utf8

/-!
# Log filters

A filter is a set of rules. Among the rules whose target is the beginning of
an event's target the most specific decides up to which level events pass;
without any, none do. A rule that names a span holds inside spans of that
name.
-/

namespace RpcGate

namespace Logging

/-- A field that a rule asks for, and whether it asks for a value too. -/
structure Field where
  name : Text
  valued : Bool
  deriving DecidableEq, Repr

structure Rule where
  target : Option Text
  span : Option Text
  field : Option Field
  /-- Nothing passes where there is no level. -/
  level : Option Level
  deriving DecidableEq, Repr

namespace Rule

/-- Decided without looking at spans. -/
def isStatic (r : Rule) : Bool := r.span.isNone && !r.field.any (·.valued)

/-- Rules on the same things: the later replaces the earlier. -/
def isSame (r s : Rule) : Bool := r.target = s.target && r.span = s.span && r.field = s.field

def matchesTarget (r : Rule) (target : Text) : Bool :=
  match r.target with
  | some t => (Text.dropPrefix t target).isSome
  | none => true

def allows (r : Rule) (l : Level) : Bool :=
  match r.level with
  | some most => l.rank ≤ most.rank
  | none => false

/-- Whether the rule speaks of events of a target that have the given fields; without fields only
the target counts. -/
def cares (r : Rule) (target : Text) (fields : Option (List Text)) : Bool :=
  r.matchesTarget target && match r.field, fields with
    | some f, some names => names.contains f.name
    | _, _ => true

/-- The longer target is more specific, then the rule with a field, then the greater field name. -/
def isMoreSpecific (r s : Rule) : Bool :=
  let length (r : Rule) : Nat := (r.target.map fun t => t.length + 1).getD 0
  if length r ≠ length s then length s < length r
  else match r.field, s.field with
    | some f, some g => f.name ≠ g.name && Text.before g.name f.name
    | some _, none => true
    | none, _ => false

/-! ## Reading -/

/-- A number up to 5, a level name, or `off`; nothing at all is `error`. -/
def level? (t : Text) : Option (Option Level) :=
  match Text.natural? 10 t with
  | some n => match n with
    | 0 => some none
    | 1 => some (some .error)
    | 2 => some (some .warn)
    | 3 => some (some .info)
    | 4 => some (some .debug)
    | 5 => some (some .trace)
    | _ => none
  | none =>
    if t = [] then some (some .error)
    else if Text.lowerAscii t = "off".toList then some none
    else (Level.ofName? t).map some

inductive RuleFault
  | badRule
  | badLevel
  | badField (why : PatternFault)
  deriving DecidableEq, Repr

def RuleFault.message : RuleFault → Text
  | .badRule => "invalid filter directive".toList
  | .badLevel =>
    "error parsing level filter: expected one of \"off\", \"error\", \"warn\", \"info\", \"debug\", \"trace\", or a number 0-5".toList
  | .badField why => "invalid field filter: ".toList ++ why.message

/-- Where in a rule the characters so far have led, and where its last part began. -/
inductive Reading
  | start
  | target (start : Nat)
  | span (target : Option Text) (start : Nat)
  | field (rule : Rule) (start : Nat)
  | fieldEnd (rule : Rule)
  | ended (rule : Rule)
  | level (rule : Rule) (start : Nat)

/-- A field's name and, after a `=`, its value: a truth value, a number or a pattern. What follows
another `=` does not count. -/
def fieldOf (t : Text) : Except RuleFault Field :=
  match Text.pieces '=' t with
  | name :: value :: _ =>
    if isNumeral value then .ok ⟨name, true⟩
    else match Pattern.fault? value with
      | some why => .error (.badField why)
      | none => .ok ⟨name, true⟩
  | _ => .ok ⟨t, false⟩

/-- One more character, `c`, at `i`; `part` gives what stands between two places. -/
def step (part : Nat → Nat → Except RuleFault Text) (i : Nat) (c : Char) :
    Reading → Except RuleFault Reading
  | .start =>
    if c = '[' then .ok (.span none (i + 1))
    else if c = '-' || c = ':' || c = '_' || Text.isLetterOrNumber c then .ok (.target i)
    else .error .badRule
  | .target start =>
    if c = '=' then do return .level ⟨some (← part start i), none, none, none⟩ (i + 1)
    else if c = '[' then do return .span (some (← part start i)) (i + 1)
    else .ok (.target start)
  | .span target start =>
    if c = ']' then do return .ended ⟨target, some (← part start i), none, some .trace⟩
    else if c = '\x7b' then do
      let name ← part start i
      return .field ⟨target, if name = [] then none else some name, none, some .trace⟩ (i + 1)
    else .ok (.span target start)
  | .field rule start =>
    if c = '\x7d' then do
      let field ← part start i
      if field = [] then .error .badRule
      else return .fieldEnd { rule with field := some (← fieldOf field) }
    else .ok (.field rule start)
  | .fieldEnd rule => if c = ']' then .ok (.ended rule) else .error .badRule
  | .ended rule => if c = '=' then .ok (.level rule (i + 1)) else .error .badRule
  | .level rule start => .ok (.level rule start)

def steps (part : Nat → Nat → Except RuleFault Text) (i : Nat) (r : Reading) :
    Text → Except RuleFault Reading
  | [] => .ok r
  | c :: cs => do steps part (i + c.utf8Size) (← step part i c r) cs

/-- The rule, once the characters have ended; its last part goes on to `stop`. -/
def finish (part : Nat → Nat → Except RuleFault Text) (stop : Nat) :
    Reading → Except RuleFault Rule
  | .target start => do
    let last ← part start stop
    match level? last with
    | some l => return ⟨none, none, none, l⟩
    | none => return ⟨some last, none, none, some .trace⟩
  | .level rule start => do
    let last ← part start stop
    if last = [] then return { rule with level := some .trace }
    else match level? last with
      | some l => return { rule with level := l }
      | none => .error .badLevel
  | .ended rule => .ok rule
  | _ => .error .badRule

/-- Reads a rule. Its marks are looked for in the text less the blanks around it, but the parts
between them are taken from the same places, counted in bytes, of the text as it stands. A part
that would begin or end within a character is none. -/
def parse (t : Text) : Except RuleFault Rule := do
  let bytes := Text.utf8 t
  let part (start stop : Nat) : Except RuleFault Text :=
    match Text.ofUtf8? ((bytes.take stop).drop start) with
    | some p => .ok p
    | none => .error .badRule
  finish part bytes.length (← steps part 0 .start (Text.trim t))

end Rule

abbrev Filter := List Rule

namespace Filter

/-- One more rule, in the place of one on the same things. -/
def add (f : Filter) (r : Rule) : Filter := r :: f.filter fun s => !s.isSame r

def rule (target : Option Text) (level : Level) : Rule := ⟨target, none, none, some level⟩

/-- The rules of a comma-separated list, and the parts that are none. -/
def parts (t : Text) : List (Text × Except Rule.RuleFault Rule) :=
  ((Text.pieces ',' t).filter (· ≠ [])).map fun p => (p, Rule.parse p)

/-- What is said of the parts that are no rules. -/
def warnings (t : Text) : List Text :=
  (parts t).filterMap fun p => match p.2 with
    | .error fault => some ("ignoring `".toList ++ p.1 ++ "`: ".toList ++ fault.message)
    | .ok _ => none

/-- The rules of a list; an empty one gives way to the default. Two noisy libraries are held down
in any case. -/
def ofList (default : Level) (t : Text) : Filter :=
  let given := (parts t).filterMap fun p => p.2.toOption
  let f : Filter := if given = [] then [rule none default] else given.foldl add []
  (f.add (rule (some "hyper".toList) .error)).add (rule (some "tokio".toList) .error)

/-- The static rule that decides: the most specific that cares. -/
def deciding? (f : Filter) (target : Text) (fields : Option (List Text)) : Option Rule :=
  (f.filter fun r => r.isStatic && r.cares target fields).foldl
    (fun best r => if best.all r.isMoreSpecific then some r else best) none

def passes (f : Filter) (target : Text) (fields : Option (List Text)) (l : Level) : Bool :=
  (f.deciding? target fields).any (·.allows l)

/-- Whether they pass inside a span of the same target that has no fields. -/
def passesInside (f : Filter) (span target : Text) (fields : Option (List Text)) (l : Level) :
    Bool :=
  f.passes target fields l
    || f.any fun r => r.span = some span && r.field.isNone && r.matchesTarget target && r.allows l

/-- Whether a span without fields is entered: a rule on spans that speaks of it lets it in at every
level. -/
def enters (f : Filter) (span target : Text) (l : Level) : Bool :=
  f.passes target none l
    || f.any fun r => r.span = some span && r.field.isNone && r.matchesTarget target

/-- The most verbose level that may pass. -/
def most? (f : Filter) (target : Text) : Option Level :=
  (Level.all.filter (f.passes target none)).getLast?

end Filter

def alreadySet : Text := "a global default trace dispatcher has already been set".toList

end Logging

end RpcGate
