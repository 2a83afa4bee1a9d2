/-!
# Texts

A text is the list of its characters, so that every rule about texts is a
recursion on data: cutting at a separator, trimming blanks, reading lines.
-/

namespace RpcGate

abbrev Text := List Char

namespace Text

/-- White space, by the Unicode property. -/
def isBlank (c : Char) : Bool :=
  let n := c.toNat
  (9 ≤ n && n ≤ 13) || n == 0x20 || n == 0x85 || n == 0xA0 || n == 0x1680
    || (0x2000 ≤ n && n ≤ 0x200A) || n == 0x2028 || n == 0x2029 || n == 0x202F
    || n == 0x205F || n == 0x3000

/-- What holds of the first 128 code points holds of every character among them. -/
theorem forall_ascii {P : Char → Prop} (h : ∀ n < 128, P (Char.ofNat n)) {c : Char} (hc : c.toNat < 128) : P c := by
  have hp := h c.toNat hc
  rwa [Char.ofNat_toNat] at hp

theorem toNat_lt_of_le {c last : Char} {n : Nat} (h : c ≤ last) (hn : last.toNat < n) : c.toNat < n :=
  Nat.lt_of_le_of_lt (UInt32.le_iff_toNat_le.1 h) hn

/-- Whether one of the inclusive ranges holds the character's code point. -/
def inRanges (ranges : List (Nat × Nat)) (c : Char) : Bool :=
  ranges.any fun r => r.1 ≤ c.toNat && c.toNat ≤ r.2

def trimStart (t : Text) : Text := t.dropWhile isBlank

def trimEnd (t : Text) : Text := (t.reverse.dropWhile isBlank).reverse

def trim (t : Text) : Text := trimEnd (trimStart t)

/-- What stands before and after the first `sep`. -/
def splitOnce (sep : Char) : Text → Option (Text × Text)
  | [] => none
  | c :: cs => if c = sep then some ([], cs) else (splitOnce sep cs).map fun p => (c :: p.1, p.2)

theorem splitOnce_eq_some_iff {sep : Char} {t a b : Text} :
    splitOnce sep t = some (a, b) ↔ t = a ++ sep :: b ∧ sep ∉ a := by
  induction t generalizing a with
  | nil => simp [splitOnce]
  | cons c cs ih =>
    by_cases h : c = sep
    · subst h
      cases a with
      | nil => simp [splitOnce]
      | cons d a => simp [splitOnce]; intro h _ h'; exact absurd h h'
    · cases a with
      | nil => simp [splitOnce, h]
      | cons d a => simp [splitOnce, h, ih]; grind

theorem splitOnce_eq_none_iff {sep : Char} {t : Text} : splitOnce sep t = none ↔ sep ∉ t := by
  induction t with
  | nil => simp [splitOnce]
  | cons c cs ih =>
    by_cases h : c = sep
    · simp [splitOnce, h]
    · simp [splitOnce, h, ih, Ne.symm h]

/-- The pieces between the occurrences of `sep`; without any, the text itself. -/
def pieces (sep : Char) : Text → List Text
  | [] => [[]]
  | c :: cs =>
    if c = sep then [] :: pieces sep cs
    else match pieces sep cs with
      | [] => [[c]]
      | p :: ps => (c :: p) :: ps

theorem pieces_ne_nil (sep : Char) (t : Text) : pieces sep t ≠ [] := by
  fun_cases pieces sep t <;> simp_all

theorem pieces_of_not_mem {sep : Char} {t : Text} (h : sep ∉ t) : pieces sep t = [t] := by
  induction t with
  | nil => rfl
  | cons c cs ih =>
    simp only [List.mem_cons, not_or] at h
    simp [pieces, Ne.symm h.1, ih h.2]

theorem pieces_append {sep : Char} {a : Text} (h : sep ∉ a) (b : Text) :
    pieces sep (a ++ sep :: b) = a :: pieces sep b := by
  induction a with
  | nil => simp [pieces]
  | cons c cs ih =>
    simp only [List.mem_cons, not_or] at h
    simp [pieces, Ne.symm h.1, ih h.2]

/-- `t` less a leading `p`. -/
def dropPrefix (p : Text) : Text → Option Text := fun t =>
  match p, t with
  | [], t => some t
  | _ :: _, [] => none
  | a :: p, c :: t => if a = c then dropPrefix p t else none

theorem dropPrefix_eq_some_iff {p t r : Text} : dropPrefix p t = some r ↔ t = p ++ r := by
  induction p generalizing t with
  | nil => simp [dropPrefix, eq_comm]
  | cons a p ih =>
    cases t with
    | nil => simp [dropPrefix]
    | cons c t => by_cases h : a = c <;> simp [dropPrefix, h, ih, eq_comm]

/-- A line ending in `\n` also loses one `\r` before it. -/
def dropReturn (line : Text) : Text :=
  if line.getLast? = some '\r' then line.dropLast else line

/-- From the pieces between newlines to the lines: what follows the last newline is a line only
if it is not empty. -/
def ended : List Text → List Text
  | [] => []
  | [last] => if last = [] then [] else [last]
  | p :: ps => dropReturn p :: ended ps

def lines (t : Text) : List Text := ended (pieces '\n' t)

def numberedLines (t : Text) : List (Nat × Text) :=
  (lines t).zipIdx 1 |>.map fun p => (p.2, p.1)

/-- ASCII letters to lower case; all else stays. -/
def lowerAscii (t : Text) : Text := t.map Char.toLower

def decimal (n : Nat) : Text := Nat.toDigits 10 n

/-- `n` in base 8, filled up to four digits. -/
def octal4 (n : Nat) : Text :=
  let digits := Nat.toDigits 8 n
  List.replicate (4 - digits.length) '0' ++ digits

/-- The value of an ASCII digit of base `base`, at most 10. -/
def digit? (base : Nat) (c : Char) : Option Nat :=
  if '0'.toNat ≤ c.toNat ∧ c.toNat < '0'.toNat + base then some (c.toNat - '0'.toNat) else none

/-- The digits read on from `acc`; any other character refuses the text. -/
def digitsFrom? (base : Nat) : Nat → Text → Option Nat
  | acc, [] => some acc
  | acc, c :: cs => match digit? base c with
    | some d => digitsFrom? base (acc * base + d) cs
    | none => none

/-- A number without a sign: at least one digit. -/
def digits? (base : Nat) : Text → Option Nat
  | [] => none
  | t => digitsFrom? base 0 t

/-- A number that may carry one leading `+`. -/
def natural? (base : Nat) : Text → Option Nat
  | '+' :: t => digits? base t
  | t => digits? base t

/-- The order of texts by their characters' code points. -/
def before : Text → Text → Bool
  | [], _ => true
  | _ :: _, [] => false
  | a :: s, b :: t => if a = b then before s t else a.toNat < b.toNat

end Text

end RpcGate
