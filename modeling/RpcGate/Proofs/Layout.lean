import Mathlib.Logic.Relation
import RpcGate.Proofs.Lines

/-!
# What stands on the lines

A text as its readers see it is the lines that hold something, trimmed, by
their numbers (`Text.written`). Blank lines count for the numbers only, and
neither they nor the way a line ends change what stands on the others
(`Text.Relaid.writtenLines_eq`).
-/

namespace RpcGate

namespace Text

/-- The lines that hold something, trimmed. The first line is number `n`, and blank lines count. -/
def writtenFrom : Nat → List Text → List (Nat × Text)
  | _, [] => []
  | n, line :: lines =>
    if trim line = [] then writtenFrom (n + 1) lines else (n, trim line) :: writtenFrom (n + 1) lines

def written (t : Text) : List (Nat × Text) := writtenFrom 1 (pieces '\n' t)

/-- What is written, without the numbers. -/
def writtenLines (t : Text) : List Text := (written t).map Prod.snd

section
variable {line : Text} {n : Nat} {xs ys : List Text}

theorem writtenFrom_blank (h : trim line = []) (n : Nat) (lines : List Text) :
    writtenFrom n (line :: lines) = writtenFrom (n + 1) lines := by
  rw [writtenFrom, if_pos h]

theorem writtenFrom_held (h : trim line ≠ []) (n : Nat) (lines : List Text) :
    writtenFrom n (line :: lines) = (n, trim line) :: writtenFrom (n + 1) lines := by
  rw [writtenFrom, if_neg h]

theorem writtenFrom_append (n : Nat) (xs ys : List Text) :
    writtenFrom n (xs ++ ys) = writtenFrom n xs ++ writtenFrom (n + xs.length) ys := by
  induction xs generalizing n with
  | nil => rfl
  | cons x xs ih =>
    have hnumber : n + 1 + xs.length = n + (x :: xs).length := by simp; omega
    by_cases hx : trim x = []
    · rw [List.cons_append, writtenFrom_blank hx, writtenFrom_blank hx, ih, hnumber]
    · rw [List.cons_append, writtenFrom_held hx, writtenFrom_held hx, ih, hnumber, List.cons_append]

theorem writtenFrom_congr (h : xs.map trim = ys.map trim) (n : Nat) : writtenFrom n xs = writtenFrom n ys := by
  induction xs generalizing n ys with
  | nil =>
    rw [List.map_nil, eq_comm, List.map_eq_nil_iff] at h
    rw [h]
  | cons x xs ih =>
    obtain ⟨y, ys, rfl, hxy, hrest⟩ := List.map_eq_cons_iff.1 h.symm
    by_cases hx : trim x = []
    · rw [writtenFrom_blank hx, writtenFrom_blank (hxy.trans hx), ih hrest.symm]
    · rw [writtenFrom_held hx, writtenFrom_held (by rwa [hxy]), hxy, ih hrest.symm]

theorem snd_writtenFrom (n : Nat) (xs : List Text) :
    (writtenFrom n xs).map Prod.snd = (xs.map trim).filter (· ≠ []) := by
  induction xs generalizing n with
  | nil => rfl
  | cons x xs ih =>
    by_cases hx : trim x = []
    · simp [writtenFrom_blank hx, hx, ih]
    · simp [writtenFrom_held hx, hx, ih]

/-- A reader that numbers the lines first and trims them then sees the same. -/
theorem filter_numbered (n : Nat) (xs : List Text) :
    (((xs.zipIdx n).map fun p => (p.2, p.1)).map fun p => (p.1, trim p.2)).filter (fun p => p.2 ≠ []) =
      writtenFrom n xs := by
  induction xs generalizing n with
  | nil => rfl
  | cons x xs ih =>
    by_cases hx : trim x = []
    · rw [writtenFrom_blank hx, ← ih, List.zipIdx_cons, List.map_cons, List.map_cons, List.filter_cons_of_neg (by simpa)]
    · rw [writtenFrom_held hx, ← ih, List.zipIdx_cons, List.map_cons, List.map_cons, List.filter_cons_of_pos (by simpa)]

end

/-- A return before a newline and an empty end after the last one hold nothing. -/
theorem writtenFrom_lines (t : Text) : writtenFrom 1 (lines t) = written t := by
  have hp := (List.dropLast_concat_getLast (pieces_ne_nil '\n' t)).symm
  have hended : (endedLines t).map trim = (pieces '\n' t).dropLast.map trim := by
    rw [endedLines, List.map_map]
    exact List.map_congr_left fun p _ => trim_dropReturn p
  have hlength : (endedLines t).length = (pieces '\n' t).dropLast.length := by
    rw [endedLines, List.length_map]
  rw [lines_eq, written, hp, writtenFrom_append, writtenFrom_append, writtenFrom_congr hended, hlength]
  by_cases hl : lastLine t = []
  · rw [if_pos hl, ← lastLine, hl]
    rfl
  · rw [if_neg hl, ← lastLine]

theorem writtenLines_eq (t : Text) : writtenLines t = ((pieces '\n' t).map trim).filter (· ≠ []) :=
  snd_writtenFrom 1 (pieces '\n' t)

theorem writtenLines_append_newline (a b : Text) : writtenLines (a ++ '\n' :: b) = writtenLines a ++ writtenLines b := by
  rw [writtenLines_eq, writtenLines_eq, writtenLines_eq, pieces_append_sep, List.map_append, List.filter_append]

/-! ## Other layouts -/

/-- Every newline with a return before it. -/
def withReturns : Text → Text
  | [] => []
  | c :: t => if c = '\n' then '\r' :: '\n' :: withReturns t else c :: withReturns t

/-- One change of the layout: a blank line more, before a line or after the last one, a newline after
the last line, or a return before a newline. -/
inductive Edit : Text → Text → Prop
  | blankLine {before line after : Text} (hs : before = [] ∨ before.getLast? = some '\n') (hn : '\n' ∉ line)
    (hb : ∀ c ∈ line, isBlank c) : Edit (before ++ after) (before ++ (line ++ '\n' :: after))
  | blankEnd {t line : Text} (hn : '\n' ∉ line) (hb : ∀ c ∈ line, isBlank c) : Edit t (t ++ '\n' :: line)
  | finalNewline (t : Text) : Edit t (t ++ ['\n'])
  | carriageReturn (before after : Text) : Edit (before ++ '\n' :: after) (before ++ '\r' :: '\n' :: after)

/-- Changes of the layout, made or taken back one after the other. -/
abbrev Relaid : Text → Text → Prop := Relation.EqvGen Edit

section
variable {t u line : Text}

theorem writtenLines_of_blank (hn : '\n' ∉ line) (hb : ∀ c ∈ line, isBlank c) : writtenLines line = [] := by
  rw [writtenLines_eq, pieces_of_not_mem hn, List.map_singleton, trim_eq_nil_iff.2 hb]
  rfl

theorem writtenLines_blankLine (hn : '\n' ∉ line) (hb : ∀ c ∈ line, isBlank c) (t : Text) :
    writtenLines (line ++ '\n' :: t) = writtenLines t := by
  rw [writtenLines_append_newline, writtenLines_of_blank hn hb, List.nil_append]

theorem writtenLines_blankEnd (hn : '\n' ∉ line) (hb : ∀ c ∈ line, isBlank c) (t : Text) :
    writtenLines (t ++ '\n' :: line) = writtenLines t := by
  rw [writtenLines_append_newline, writtenLines_of_blank hn hb, List.append_nil]

/-- A return at the end is trimmed off the last line. -/
theorem writtenLines_carriageReturn (t : Text) : writtenLines (t ++ ['\r']) = writtenLines t := by
  have hp := (List.dropLast_concat_getLast (pieces_ne_nil '\n' t)).symm
  have hr : trim (lastLine t ++ ['\r']) = trim (lastLine t) := trim_append_blanks (List.forall_mem_singleton.2 (by decide))
  rw [writtenLines_eq, writtenLines_eq, pieces_append_of_not_mem (by decide), ← lastLine, hp, List.map_append, List.map_append,
    List.map_singleton, List.map_singleton, ← lastLine, hr, List.dropLast_concat]

theorem Edit.writtenLines_eq (h : Edit t u) : writtenLines u = writtenLines t := by
  cases h with
  | @blankLine before line after hs hn hb =>
    rcases hs with rfl | hs
    · exact writtenLines_blankLine hn hb after
    · obtain ⟨front, rfl⟩ := List.getLast?_eq_some_iff.1 hs
      rw [List.append_assoc, List.append_assoc, List.singleton_append, List.singleton_append,
        writtenLines_append_newline front, writtenLines_append_newline front, writtenLines_blankLine hn hb]
  | blankEnd hn hb => exact writtenLines_blankEnd hn hb t
  | finalNewline => exact writtenLines_blankEnd (by simp) (by simp) t
  | carriageReturn before after =>
    have hsplit : before ++ '\r' :: '\n' :: after = (before ++ ['\r']) ++ '\n' :: after := by simp
    rw [hsplit, writtenLines_append_newline, writtenLines_append_newline, writtenLines_carriageReturn]

theorem Relaid.writtenLines_eq (h : Relaid t u) : writtenLines u = writtenLines t := by
  induction h with
  | rel _ _ h => exact h.writtenLines_eq
  | refl => rfl
  | symm _ _ _ ih => exact ih.symm
  | trans _ _ _ _ _ ih ih' => exact ih'.trans ih

/-- The returns are put in one by one, from the left. -/
theorem relaid_append_withReturns (before t : Text) : Relaid (before ++ t) (before ++ withReturns t) := by
  induction t generalizing before with
  | nil => exact .refl _
  | cons c t ih =>
    by_cases hc : c = '\n'
    · have hstep : Relaid (before ++ '\n' :: t) (before ++ '\r' :: '\n' :: t) := .rel _ _ (.carriageReturn before t)
      have hrest := ih (before ++ ['\r', '\n'])
      rw [List.append_assoc, List.append_assoc] at hrest
      rw [hc, withReturns, if_pos rfl]
      exact .trans _ _ _ hstep hrest
    · have hrest := ih (before ++ [c])
      rw [List.append_assoc, List.append_assoc] at hrest
      rw [withReturns, if_neg hc]
      exact hrest

theorem relaid_withReturns (t : Text) : Relaid t (withReturns t) := relaid_append_withReturns [] t

end

end Text

end RpcGate
