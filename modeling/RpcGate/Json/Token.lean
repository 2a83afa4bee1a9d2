import RpcGate.Json.Number
import RpcGate.Codec.Hex

/-!
# JSON tokens

Characters are taken one by one. A token ends at the first character that
cannot go on with it, and that character is then looked at anew.
-/

namespace RpcGate

namespace Json

inductive Token
  | openArray
  | closeArray
  | openObject
  | closeObject
  | comma
  | colon
  | string (t : Text)
  | number (n : JsonNumber)
  | null
  | bool (b : Bool)
  deriving DecidableEq, Repr

/-- Where the characters so far have led; collected characters stand in reverse. -/
inductive Lexing
  | between
  | word (seen : Text)
  | number (seen : Text)
  | string (seen : Text)
  /-- After a backslash. -/
  | escape (seen : Text)
  /-- Inside `\u`: digits left, value so far, and a leading surrogate that waits for its partner. -/
  | unicode (seen : Text) (left : Nat) (value : Nat) (lead : Option Nat)
  /-- After a leading surrogate: the backslash, then the `u`, of its partner. -/
  | partnerSlash (seen : Text) (lead : Nat)
  | partnerLetter (seen : Text) (lead : Nat)
  deriving DecidableEq, Repr

namespace Lexing

def isBlank (c : Char) : Bool := c = ' ' || c = '\n' || c = '\t' || c = '\r'

def isNumberChar (c : Char) : Bool :=
  c.isDigit || c = '-' || c = '+' || c = '.' || c = 'e' || c = 'E'

def isWordChar (c : Char) : Bool := 'a' ≤ c && c ≤ 'z'

def wordToken? (seen : Text) : Option Token :=
  let w := seen.reverse
  if w = "null".toList then some .null
  else if w = "true".toList then some (.bool true)
  else if w = "false".toList then some (.bool false)
  else none

def mark? : Char → Option Token
  | '[' => some .openArray
  | ']' => some .closeArray
  | '\x7b' => some .openObject
  | '\x7d' => some .closeObject
  | ',' => some .comma
  | ':' => some .colon
  | _ => none

/-- The first character of a token, or one between tokens. -/
def begin? (c : Char) : Option (Lexing × List Token) :=
  if isBlank c then some (between, [])
  else if c = '"' then some (string [], [])
  else if c = '-' || c.isDigit then some (number [c], [])
  else if isWordChar c then some (word [c], [])
  else (mark? c).map fun t => (between, [t])

def short? : Char → Option Char
  | '"' => some '"'
  | '\\' => some '\\'
  | '/' => some '/'
  | 'b' => some '\x08'
  | 'f' => some '\x0c'
  | 'n' => some '\n'
  | 'r' => some '\r'
  | 't' => some '\t'
  | _ => none

def isLead (n : Nat) : Bool := 0xD800 ≤ n && n < 0xDC00

def isTrail (n : Nat) : Bool := 0xDC00 ≤ n && n < 0xE000

/-- What four digits stand for: a character, or half of one. -/
def unicode? (seen : Text) (value : Nat) : Option Nat → Option Lexing
  | some lead =>
    if isTrail value then
      some (string (Char.ofNat (0x10000 + (lead - 0xD800) * 0x400 + (value - 0xDC00)) :: seen))
    else none
  | none =>
    if isLead value then some (partnerSlash seen value)
    else if isTrail value then none
    else some (string (Char.ofNat value :: seen))

/-- One more character: the new state and the tokens that it completes. -/
def step? (c : Char) : Lexing → Option (Lexing × List Token)
  | between => begin? c
  | word seen =>
    if isWordChar c then some (word (c :: seen), [])
    else do
      let t ← wordToken? seen
      let (l, ts) ← begin? c
      return (l, t :: ts)
  | number seen =>
    if isNumberChar c then some (number (c :: seen), [])
    else do
      let n ← JsonNumber.read? seen.reverse
      let (l, ts) ← begin? c
      return (l, .number n :: ts)
  | string seen =>
    if c = '"' then some (between, [.string seen.reverse])
    else if c = '\\' then some (escape seen, [])
    else if c.toNat < 0x20 then none
    else some (string (c :: seen), [])
  | escape seen =>
    if c = 'u' then some (unicode seen 4 0 none, [])
    else (short? c).map fun d => (string (d :: seen), [])
  | unicode seen left value lead => do
    let value := value * 16 + (← Hex.digit? c)
    if left ≤ 1 then return (← unicode? seen value lead, [])
    else return (unicode seen (left - 1) value lead, [])
  | partnerSlash seen lead => if c = '\\' then some (partnerLetter seen lead, []) else none
  | partnerLetter seen lead => if c = 'u' then some (unicode seen 4 0 (some lead), []) else none

def finish? : Lexing → Option (List Token)
  | between => some []
  | word seen => (wordToken? seen).map ([·])
  | number seen => (JsonNumber.read? seen.reverse).map fun n => [.number n]
  | _ => none

def run? (l : Lexing) : Text → Option (List Token)
  | [] => finish? l
  | c :: cs => do
    let (l, ts) ← step? c l
    return ts ++ (← run? l cs)

end Lexing

def tokens? (t : Text) : Option (List Token) := Lexing.run? .between t

end Json

end RpcGate
