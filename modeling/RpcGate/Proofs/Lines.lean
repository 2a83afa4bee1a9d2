import Mathlib.Data.List.DropRight
import Mathlib.Data.List.TakeWhile
import RpcGate.Proofs.BasicHeader
import RpcGate.Proofs.Locate

/-!
# Trimming and lines

Trimming takes blanks off the ends and nothing else (`exists_eq_append_trim`,
`trim_padded`). A newline ends the line before it, whatever follows
(`lines_append_newline`), so that text added to a text goes on with its last
line.
-/

namespace RpcGate

namespace Text

/-! ## Trimming -/

/-- No blank at either end. -/
structure IsTrimmed (t : Text) : Prop where
  head : ∀ c, t.head? = some c → isBlank c = false
  last : ∀ c, t.getLast? = some c → isBlank c = false

section
variable {a b t : Text} {c sep : Char}

theorem exists_eq_append_trimStart (t : Text) : ∃ a, t = a ++ trimStart t ∧ ∀ c ∈ a, isBlank c := by
  refine ⟨t.takeWhile isBlank, (List.takeWhile_append_dropWhile (p := isBlank)).symm, ?_⟩
  intro c hc
  exact List.mem_takeWhile_imp hc

theorem exists_eq_trimEnd_append (t : Text) : ∃ b, t = trimEnd t ++ b ∧ ∀ c ∈ b, isBlank c := by
  obtain ⟨b, hb, hblank⟩ := exists_eq_append_trimStart t.reverse
  refine ⟨b.reverse, ?_, fun c hc => hblank c (List.mem_reverse.1 hc)⟩
  have h := congrArg List.reverse hb
  rw [List.reverse_reverse, List.reverse_append] at h
  exact h

theorem exists_eq_append_trim (t : Text) :
    ∃ a b, t = a ++ (trim t ++ b) ∧ (∀ c ∈ a, isBlank c) ∧ ∀ c ∈ b, isBlank c := by
  obtain ⟨a, ha, hblank⟩ := exists_eq_append_trimStart t
  obtain ⟨b, hb, hblank'⟩ := exists_eq_trimEnd_append (trimStart t)
  refine ⟨a, b, ?_, hblank, hblank'⟩
  rw [trim, ← hb]
  exact ha

theorem isBlank_head_trimStart (h : (trimStart t).head? = some c) : isBlank c = false := by
  have hd := List.head?_dropWhile_not isBlank t
  unfold trimStart at h
  rw [h] at hd
  simpa using hd

theorem isTrimmed_trim (t : Text) : IsTrimmed (trim t) := by
  constructor
  · intro c hc
    obtain ⟨b, hb, -⟩ := exists_eq_trimEnd_append (trimStart t)
    refine isBlank_head_trimStart (t := t) ?_
    rw [hb, List.head?_append]
    unfold trim at hc
    rw [hc]
    rfl
  · intro c hc
    unfold trim trimEnd at hc
    rw [List.getLast?_reverse] at hc
    exact isBlank_head_trimStart hc

theorem trim_padded (ha : ∀ c ∈ a, isBlank c) (hb : ∀ c ∈ b, isBlank c) (h : IsTrimmed t) :
    trim (a ++ (t ++ b)) = t := by
  have drop {u : Text} (h : ∀ c, u.head? = some c → isBlank c = false) : u.dropWhile isBlank = u := by
    cases u with
    | nil => rfl
    | cons c u => simp [h c rfl]
  unfold trim trimStart trimEnd
  rw [List.dropWhile_append_of_pos (fun c hc => ha c hc)]
  cases t with
  | nil =>
    have hnil : b.dropWhile isBlank = [] := List.dropWhile_eq_nil_iff.2 hb
    simp [hnil]
  | cons c t =>
    have hc : ∀ d, (c :: t ++ b).head? = some d → isBlank d = false := fun d hd => h.head d hd
    rw [drop hc, List.reverse_append, List.dropWhile_append_of_pos fun d hd => hb d (List.mem_reverse.1 hd)]
    rw [drop (fun d hd => h.last d (by rwa [List.head?_reverse] at hd)), List.reverse_reverse]

theorem IsTrimmed.trim_eq (h : IsTrimmed t) : trim t = t := by
  have hp := trim_padded (a := []) (b := []) (by simp) (by simp) h
  rwa [List.nil_append, List.append_nil] at hp

theorem trim_eq_nil_iff : trim t = [] ↔ ∀ c ∈ t, isBlank c := by
  constructor
  · intro h
    obtain ⟨a, b, ht, ha, hb⟩ := exists_eq_append_trim t
    rw [h, List.nil_append] at ht
    intro c hc
    rw [ht, List.mem_append] at hc
    rcases hc with hc | hc
    · exact ha c hc
    · exact hb c hc
  · intro h
    have hp := trim_padded (a := t) (b := []) (t := []) h (by simp) ⟨by simp, by simp⟩
    rwa [List.append_nil, List.append_nil] at hp

theorem trim_append_of_blank (ha : trim a = []) (h : IsTrimmed t) : trim (a ++ t) = t := by
  have hp := trim_padded (b := []) (trim_eq_nil_iff.1 ha) (by simp) h
  rwa [List.append_nil] at hp

theorem mem_of_mem_trim (h : c ∈ trim t) : c ∈ t := by
  obtain ⟨a, b, ht, -, -⟩ := exists_eq_append_trim t
  rw [ht]
  simp [h]

theorem count_trim (h : isBlank c = false) (t : Text) : (trim t).count c = t.count c := by
  have none {u : Text} (hu : ∀ d ∈ u, isBlank d) : u.count c = 0 := by
    rw [List.count_eq_zero]
    intro hc
    rw [hu c hc] at h
    cases h
  obtain ⟨a, b, ht, ha, hb⟩ := exists_eq_append_trim t
  have hcount := congrArg (List.count c) ht
  rw [List.count_append, List.count_append, none ha, none hb] at hcount
  omega

theorem trim_append_blanks (hb : ∀ c ∈ b, isBlank c) : trim (t ++ b) = trim t := by
  obtain ⟨a, b', ht, ha, hb'⟩ := exists_eq_append_trim t
  have hblank : ∀ c ∈ b' ++ b, isBlank c := by
    intro c hc
    rcases List.mem_append.1 hc with hc | hc
    · exact hb' c hc
    · exact hb c hc
  have happend : t ++ b = a ++ (trim t ++ (b' ++ b)) := (congrArg (· ++ b) ht).trans (by simp)
  rw [happend, trim_padded ha hblank (isTrimmed_trim t)]

theorem trim_trimEnd (t : Text) : trim (trimEnd t) = trim t := by
  obtain ⟨b, ht, hb⟩ := exists_eq_trimEnd_append t
  calc trim (trimEnd t) = trim (trimEnd t ++ b) := (trim_append_blanks hb).symm
    _ = trim t := by rw [← ht]

theorem trim_trimStart (t : Text) : trim (trimStart t) = trim t := by
  unfold trim trimStart
  rw [List.dropWhile_idempotent]

theorem trimStart_append_sep (h : isBlank sep = false) (a b : Text) :
    trimStart (a ++ sep :: b) = trimStart a ++ sep :: b := by
  have hsep : (sep :: b).dropWhile isBlank = sep :: b := List.dropWhile_cons_of_neg (by simp [h])
  unfold trimStart
  rw [List.dropWhile_append, hsep]
  split
  · next hnil => rw [List.isEmpty_iff.1 hnil, List.nil_append]
  · rfl

theorem trimEnd_append_sep (h : isBlank sep = false) (a b : Text) :
    trimEnd (a ++ sep :: b) = a ++ sep :: trimEnd b := by
  have hr := trimStart_append_sep h b.reverse a.reverse
  unfold trimStart at hr
  unfold trimEnd
  rw [List.reverse_append, List.reverse_cons, List.append_assoc, List.singleton_append, hr]
  simp

theorem trim_append_sep (h : isBlank sep = false) (a b : Text) :
    trim (a ++ sep :: b) = trimStart a ++ sep :: trimEnd b := by
  rw [trim, trimStart_append_sep h, trimEnd_append_sep h]

theorem trim_dropReturn (line : Text) : trim (dropReturn line) = trim line := by
  unfold dropReturn
  split
  · next hr =>
    obtain ⟨front, rfl⟩ := List.getLast?_eq_some_iff.1 hr
    rw [List.dropLast_concat, trim_append_blanks (by simp [isBlank])]
  · rfl

end

/-! ## Cutting -/

section
variable {sep : Char} {a b t p : Text}

theorem pieces_append_sep (sep : Char) (a b : Text) : pieces sep (a ++ sep :: b) = pieces sep a ++ pieces sep b := by
  induction a with
  | nil => simp [pieces]
  | cons c cs ih =>
    obtain ⟨q, qs, hq⟩ := List.exists_cons_of_ne_nil (pieces_ne_nil sep cs)
    by_cases hc : c = sep
    · simp [pieces, hc, ih]
    · simp [pieces, hc, ih, hq]

theorem length_pieces (sep : Char) (t : Text) : (pieces sep t).length = t.count sep + 1 := by
  induction t with
  | nil => rfl
  | cons c cs ih =>
    obtain ⟨q, qs, hq⟩ := List.exists_cons_of_ne_nil (pieces_ne_nil sep cs)
    rw [hq, List.length_cons] at ih
    by_cases hc : c = sep
    · simp [pieces, hc, hq, ih]
    · simp [pieces, hc, hq, ih]

theorem pieces_eq_pair_iff : pieces sep t = [a, b] ↔ t = a ++ sep :: b ∧ sep ∉ a ∧ sep ∉ b := by
  constructor
  · intro h
    cases hs : splitOnce sep t with
    | none =>
      rw [pieces_of_not_mem (splitOnce_eq_none_iff.1 hs)] at h
      cases h
    | some p =>
      obtain ⟨rfl, ha⟩ := splitOnce_eq_some_iff.1 hs
      rw [pieces_append ha] at h
      obtain ⟨rfl, hb⟩ := List.cons.inj h
      have hcount := length_pieces sep p.2
      rw [hb] at hcount
      have hmem : sep ∉ p.2 := List.count_eq_zero.1 (by simpa using hcount.symm)
      rw [pieces_of_not_mem hmem] at hb
      obtain ⟨rfl, -⟩ := List.cons.inj hb
      exact ⟨rfl, ha, hmem⟩
  · intro h
    obtain ⟨rfl, ha, hb⟩ := h
    rw [pieces_append ha, pieces_of_not_mem hb]

theorem not_mem_of_mem_pieces (h : p ∈ pieces sep t) : sep ∉ p := by
  induction t generalizing p with
  | nil =>
    rw [List.mem_singleton.1 h]
    simp
  | cons c cs ih =>
    obtain ⟨q, qs, hq⟩ := List.exists_cons_of_ne_nil (pieces_ne_nil sep cs)
    by_cases hc : c = sep
    · simp only [pieces, if_pos hc, List.mem_cons] at h
      rcases h with rfl | h
      · simp
      · exact ih h
    · simp only [pieces, if_neg hc, hq, List.mem_cons] at h
      rcases h with rfl | h
      · have hq' := ih (p := q) (by simp [hq])
        simp [Ne.symm hc, hq']
      · exact ih (by simp [hq, h])

end

/-! ## Lines -/

/-- What follows the last newline. -/
def lastLine (t : Text) : Text := (pieces '\n' t).getLast (pieces_ne_nil '\n' t)

/-- The lines that a newline ends. -/
def endedLines (t : Text) : List Text := (pieces '\n' t).dropLast.map dropReturn

theorem ended_append {ps qs : List Text} (h : qs ≠ []) : ended (ps ++ qs) = ps.map dropReturn ++ ended qs := by
  induction ps with
  | nil => rfl
  | cons p ps ih =>
    obtain ⟨q, r, hr⟩ := List.exists_cons_of_ne_nil (l := ps ++ qs) (by simp [h])
    rw [List.map_cons, List.cons_append, List.cons_append, ← ih, hr]
    rfl

theorem lines_eq (t : Text) : lines t = endedLines t ++ if lastLine t = [] then [] else [lastLine t] := by
  have hp := (List.dropLast_concat_getLast (pieces_ne_nil '\n' t)).symm
  rw [lines, hp, ended_append (by simp)]
  rfl

theorem lines_append_newline (a b : Text) :
    lines (a ++ '\n' :: b) = endedLines a ++ dropReturn (lastLine a) :: lines b := by
  have hp := (List.dropLast_concat_getLast (pieces_ne_nil '\n' a)).symm
  rw [lines, pieces_append_sep, ended_append (pieces_ne_nil '\n' b), hp, List.map_append, List.append_assoc]
  rfl

section
variable {t more : Text}

theorem lastLine_append (h : '\n' ∉ more) : lastLine (t ++ more) = lastLine t ++ more := by
  unfold lastLine
  simp only [pieces_append_of_not_mem h, List.getLast_concat]

theorem endedLines_append (h : '\n' ∉ more) : endedLines (t ++ more) = endedLines t := by
  unfold endedLines
  rw [pieces_append_of_not_mem h, List.dropLast_concat]

theorem lines_append_line (h : '\n' ∉ more) (rest : Text) :
    lines (t ++ (more ++ '\n' :: rest)) = endedLines t ++ dropReturn (lastLine t ++ more) :: lines rest := by
  rw [← List.append_assoc, lines_append_newline, endedLines_append h, lastLine_append h]

theorem numberedLines_append_line (h : '\n' ∉ more) (rest : Text) : ∃ after,
    numberedLines (t ++ (more ++ '\n' :: rest)) = ((endedLines t).zipIdx 1).map (fun p => (p.2, p.1)) ++
      ((endedLines t).length + 1, dropReturn (lastLine t ++ more)) :: after := by
  unfold numberedLines
  rw [lines_append_line h, List.zipIdx_append, List.map_append, List.zipIdx_cons, List.map_cons, Nat.add_comm 1]
  exact ⟨_, rfl⟩

theorem lines_line (h : '\n' ∉ t) : lines (t ++ ['\n']) = [dropReturn t] := lines_append_line (t := []) h []

theorem newline_not_mem_of_mem_lines {line : Text} (h : line ∈ lines t) : '\n' ∉ line := by
  have dropped {p : Text} (hp : '\n' ∉ p) : '\n' ∉ dropReturn p := by
    unfold dropReturn
    split
    · exact fun hm => hp (List.dropLast_subset _ hm)
    · exact hp
  rw [lines_eq, List.mem_append] at h
  rcases h with h | h
  · obtain ⟨p, hp, rfl⟩ := List.mem_map.1 h
    exact dropped (not_mem_of_mem_pieces (List.dropLast_subset _ hp))
  · split at h
    · cases h
    · rw [List.mem_singleton.1 h]
      exact not_mem_of_mem_pieces (List.getLast_mem (pieces_ne_nil '\n' t))

end

end Text

end RpcGate
