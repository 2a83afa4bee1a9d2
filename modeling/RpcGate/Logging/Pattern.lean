import RpcGate.Codec.Hex
import RpcGate.Text.Letters

/-!
# Patterns of field values

A rule may ask for the values of a field by a regular expression. No value
ever comes before it here, so all that counts is whether a text can be such
a pattern at all: whether it is well formed, needs no table of Unicode
properties and can be matched without looking at Unicode words.

A pattern stands inside the braces of a rule and holds no closing brace. A
brace that opens a count or a code point is therefore never closed.
-/

namespace RpcGate

namespace Logging

inductive PatternFault
  | malformed
  /-- The end of a word, words being of letters of all scripts. -/
  | wordBoundary
  deriving DecidableEq, Repr

def PatternFault.message : PatternFault → Text
  | .malformed => "error building NFA".toList
  | .wordBoundary =>
    ("unsupported regex feature for DFAs: cannot build DFAs for regexes with Unicode word boundaries; ".toList
      ++ "switch to ASCII word boundaries, or heuristically enable Unicode word boundaries or use a ".toList
      ++ "different regex engine".toList)

namespace Pattern

/-- What letters in a group's head switch on and off. -/
structure Switches where
  unicode : Bool
  ignoreCase : Bool
  /-- Blanks and comments between the parts mean nothing. -/
  spaced : Bool
  deriving DecidableEq, Repr

namespace Switches

def initial : Switches := ⟨true, false, false⟩

/-- The switches after the letters of a head; those after a `-` are switched off. -/
def after (s : Switches) (letters : List Char) : Switches :=
  (letters.foldl (fun (on, s) c => match c with
    | '-' => (false, s)
    | 'u' => (on, { s with unicode := on })
    | 'i' => (on, { s with ignoreCase := on })
    | 'x' => (on, { s with spaced := on })
    | _ => (on, s)) (true, s)).2

end Switches

/-- Drops blanks and comments; `comment` tells whether one has begun. -/
def dropSpace (comment : Bool) : Text → Text
  | [] => []
  | c :: cs =>
    if comment then dropSpace (c ≠ '\n') cs
    else if Text.isBlank c then dropSpace false cs
    else if c = '#' then dropSpace true cs
    else c :: cs

def Switches.skip (s : Switches) (t : Text) : Text := if s.spaced then dropSpace false t else t

/-! ## Escapes -/

inductive Part
  /-- A character; `byte` tells whether it was given by two hexadecimal digits. -/
  | char (c : Char) (byte : Bool)
  /-- Digits, blanks or word characters, or all but them. -/
  | kind (negated : Bool)
  /-- A beginning or end of the text. -/
  | anchor
  | wordBoundary
  deriving DecidableEq, Repr

def codePoint? (s : Switches) (value : Nat) : Nat → Text → Option (Nat × Text)
  | 0, t => some (value, t)
  | count + 1, t => match s.skip t with
    | c :: t => (Hex.digit? c).bind fun d => codePoint? s (value * 16 + d) count t
    | [] => none

def charByCode? (s : Switches) (count : Nat) (t : Text) : Option (Part × Text) := do
  let (n, rest) ← codePoint? s 0 count t
  if n.isValidChar then some (.char (Char.ofNat n) (count = 2), rest) else none

/-- What a backslash and the characters after it stand for. Letters and digits have meanings of
their own or none; properties would need tables. -/
def escape? (s : Switches) : Text → Option (Part × Text)
  | [] => none
  | c :: t =>
    if c = 'x' then charByCode? s 2 t
    else if c = 'u' then charByCode? s 4 t
    else if c = 'U' then charByCode? s 8 t
    else if "dsw".toList.contains c then some (.kind false, t)
    else if "DSW".toList.contains c then some (.kind true, t)
    else if c = 'A' || c = 'z' then some (.anchor, t)
    else if "bB<>".toList.contains c then some (.wordBoundary, t)
    else if "aftnrv".toList.contains c then some (.char c false, t)
    else if c.toNat < 0x80 && !c.isAlphanum then some (.char c false, t)
    else none

/-- Whether a part may stand outside brackets. Without the tables no case can be ignored and no
kind be known but in ASCII, and there nothing may match half a character. -/
def Part.isAllowed (s : Switches) : Part → Bool
  | char c byte => if s.unicode then !s.ignoreCase else !byte || c.toNat < 0x80
  | kind negated => !s.unicode && !negated
  | anchor | wordBoundary => true

/-! ## Brackets -/

/-- Where the innermost open bracket stands. -/
inductive Place
  | opened
  /-- Only dashes so far. -/
  | dashes
  | inside
  deriving DecidableEq, Repr

def openBracket? (s : Switches) (t : Text) : Option Text :=
  match s.skip t with
  | '^' :: t => if s.unicode then some t else none
  | t => some t

def asciiKinds : List Text :=
  ["alnum", "alpha", "ascii", "blank", "cntrl", "digit", "graph", "lower", "print", "punct", "space",
    "upper", "word", "xdigit"].map String.toList

/-- A kind by name, `:alpha:]` or `:^alpha:]`: whether it is negated, and what follows it. -/
def asciiKind? : Text → Option (Bool × Text)
  | ':' :: t => do
    let (negated, t) := match t with
      | '^' :: t => (true, t)
      | t => (false, t)
    let (name, rest) ← Text.splitOnce ':' t
    match rest with
    | ']' :: rest => if asciiKinds.contains name then some (negated, rest) else none
    | _ => none
  | _ => none

/-- Whether a part may stand in brackets. -/
def Part.isAllowedInside (s : Switches) : Part → Bool
  | char c _ => if s.unicode then !s.ignoreCase else c.toNat < 0x80
  | kind negated => !s.unicode && !negated
  | anchor | wordBoundary => false

def bracketPart? (s : Switches) : Text → Option (Part × Text)
  | [] => none
  | '\\' :: t => escape? s t
  | c :: t => some (.char c false, t)

/-- A part, or a range between two characters, and what follows. -/
def range? (s : Switches) (t : Text) : Option Text := do
  let (a, t) ← bracketPart? s t
  guard (a.isAllowedInside s)
  match s.skip t with
  | '-' :: t =>
    match s.skip t with
    | ']' :: _ | '-' :: _ => some ('-' :: t)
    | t =>
      let (b, t) ← bracketPart? s t
      guard (b.isAllowedInside s)
      match a, b with
      | .char a _, .char b _ => if a.toNat ≤ b.toNat then some t else none
      | _, _ => none
  | t => some t

/-! ## Reading -/

structure State where
  switches : Switches
  /-- The switches to return to at the end of each open group. -/
  outer : List Switches
  /-- Whether something stands before that can be repeated. -/
  repeatable : Bool
  names : List Text
  /-- The open brackets, one in the other, and the place in the innermost. -/
  brackets : Option (Nat × Place)
  wordBoundary : Bool
  deriving DecidableEq, Repr

namespace State

def initial : State := ⟨.initial, [], false, [], none, false⟩

/-- Ends a round before `rest` with something that can be repeated. -/
def item (s : State) (rest : Text) : State × Text := ({ s with repeatable := true }, rest)

def enter (s : State) (inner : Switches) : State :=
  { s with switches := inner, outer := s.switches :: s.outer, repeatable := false }

def isNameChar (first : Bool) (c : Char) : Bool :=
  if first then c = '_' || Text.isLetter c
  else "_.[]".toList.contains c || Text.isLetterOrNumber c

/-- A group whose name begins here. -/
def openNamed? (s : State) (t : Text) : Option (State × Text) := do
  let (name, rest) ← Text.splitOnce '>' t
  match name with
  | [] => none
  | c :: cs =>
    if isNameChar true c && cs.all (isNameChar false) && !s.names.contains name then
      some ({ s.enter s.switches with names := name :: s.names }, rest)
    else none

/-- The letters of a group's head up to the `:` or `)` that ends it, each at most once. -/
def letters? (seen : List Char) : Text → Option (List Char × Char × Text)
  | [] => none
  | c :: t =>
    if c = ':' || c = ')' then
      if seen.head? = some '-' then none else some (seen.reverse, c, t)
    else if "imsUuRx-".toList.contains c && !seen.contains c then letters? (c :: seen) t
    else none

/-- A head with letters is a group's, or speaks of the rest of the group around it. -/
def openSwitched? (s : State) (t : Text) : Option (State × Text) := do
  let (letters, last, rest) ← letters? [] t
  let switches := s.switches.after letters
  if last = ':' then some (s.enter switches, rest)
  else if letters = [] then none
  else some ({ s with switches, repeatable := false }, rest)

/-- What follows an opening parenthesis. Nothing looks ahead or back. -/
def openGroup? (s : State) (t : Text) : Option (State × Text) :=
  match s.switches.skip t with
  | '?' :: 'P' :: '<' :: t => s.openNamed? t
  | '?' :: '<' :: '=' :: _ | '?' :: '<' :: '!' :: _ | '?' :: '=' :: _ | '?' :: '!' :: _ => none
  | '?' :: '<' :: t => s.openNamed? t
  | '?' :: t => s.openSwitched? t
  | t => some (s.enter s.switches, t)

def next? (s : State) : Text → Option (State × Text)
  | [] => none
  | '(' :: t => s.openGroup? t
  | ')' :: t => match s.outer with
    | [] => none
    | before :: outer => some ({ s with switches := before, outer, repeatable := true }, t)
  | '|' :: t => some ({ s with repeatable := false }, t)
  | '[' :: t =>
    (openBracket? s.switches t).map fun t => ({ s with brackets := some (0, .opened) }, t)
  | '?' :: t | '*' :: t | '+' :: t => if s.repeatable then some (s, t) else none
  | '\x7b' :: _ => none
  | '.' :: t => if s.switches.unicode then some (s.item t) else none
  | '^' :: t | '$' :: t => some (s.item t)
  | '\\' :: t => do
    let (part, t) ← escape? s.switches t
    guard (part.isAllowed s.switches)
    let found := part = .wordBoundary && s.switches.unicode
    some ({ s with wordBoundary := s.wordBoundary || found }.item t)
  | c :: t => if (Part.char c false).isAllowed s.switches then some (s.item t) else none

/-- One round inside brackets, `depth` of them around the innermost. -/
def nextInside? (s : State) (depth : Nat) (place : Place) (t : Text) : Option (State × Text) :=
  let dash := Part.char '-' false
  let goOn (place : Place) (t : Text) : State × Text := ({ s with brackets := some (depth, place) }, t)
  match t with
  | [] => none
  | '-' :: t' =>
    if place ≠ .inside then
      if dash.isAllowedInside s.switches then some (goOn .dashes t') else none
    else match t' with
      | '-' :: t => some (goOn .inside t)
      | _ => (range? s.switches t).map (goOn .inside)
  | ']' :: t =>
    if place = .opened then
      if dash.isAllowedInside s.switches then some (goOn .inside t) else none
    else match depth with
      | 0 => some ({ s with brackets := none }.item t)
      | depth + 1 => some ({ s with brackets := some (depth, .inside) }, t)
  | '[' :: t => match asciiKind? t with
    | some (negated, t) =>
      if if s.switches.unicode then s.switches.ignoreCase else negated then none
      else some (goOn .inside t)
    | none =>
      (openBracket? s.switches t).map fun t => ({ s with brackets := some (depth + 1, .opened) }, t)
  | '&' :: '&' :: t | '~' :: '~' :: t => some (goOn .inside t)
  | t => (range? s.switches t).map (goOn .inside)

/-- Goes round until the text ends; every round takes a character at least. -/
def run? : Nat → State → Text → Option State
  | 0, _, _ => none
  | rounds + 1, s, t =>
    match s.brackets, s.switches.skip t with
    | none, [] => if s.outer = [] then some s else none
    | none, t => do
      let (s, t) ← s.next? t
      run? rounds s t
    | some (depth, place), t => do
      let (s, t) ← s.nextInside? depth place t
      run? rounds s t

end State

def fault? (t : Text) : Option PatternFault :=
  match State.initial.run? (t.length + 1) t with
  | none => some .malformed
  | some s => if s.wordBoundary then some .wordBoundary else none

end Pattern

/-- Decimal numbers with a sign, a point and an exponent, infinity, and what is no number. -/
def isNumeral (t : Text) : Bool :=
  let unsigned (t : Text) : Text := if t.head? = some '+' || t.head? = some '-' then t.tail else t
  let t := unsigned t
  let whole := t.takeWhile Char.isDigit
  let (fraction, rest) := match t.dropWhile Char.isDigit with
    | '.' :: t => (t.takeWhile Char.isDigit, t.dropWhile Char.isDigit)
    | t => ([], t)
  let exponent := match rest with
    | [] => true
    | e :: t => (e = 'e' || e = 'E') && unsigned t ≠ [] && (unsigned t).all Char.isDigit
  ["inf".toList, "infinity".toList, "nan".toList].contains (Text.lowerAscii t)
    || (whole ++ fraction ≠ [] && exponent)

end Logging

end RpcGate
