import RpcGate.Proofs.Appending
import RpcGate.Proofs.EntryGrammar
import RpcGate.Proofs.Layout

/-!
# Credential files line by line

A credential file is read as what is written on its lines, each line one entry
(`Entry.ofContents_eq_mapM`). So it lists the entries of these lines in their
order, or is refused for the first line that is none, and its layout decides
over nothing but the number of that line (`Entry.ofFile_line_exact`).
-/

namespace RpcGate

namespace Entry

/-- The entry on a written line of the file `path`. -/
def ofWritten (path : Path) (line : Nat × Text) : Except AuthError Entry :=
  (parse line.2).mapError (.malformedLine path line.1)

section
variable {path : Path} {line raw text : Text} {n : Nat} {p : Nat × Text} {e : Entry} {es : List Entry} {error : AuthError}

theorem ofLine_blank (h : Text.trim line = []) : ofLine path (n, line) = .ok none :=
  ofLine_eq_ok_iff.2 (.inl ⟨h, rfl⟩)

theorem ofLine_held (h : Text.trim line ≠ []) : ofLine path (n, line) = (ofWritten path (n, Text.trim line)).map some := by
  unfold ofLine ofWritten
  simp only [if_neg h]
  cases parse (Text.trim line) with
  | ok e => rfl
  | error fault => rfl

theorem mapM_ofLine (path : Path) (n : Nat) (lines : List Text) :
    (((lines.zipIdx n).map fun p => (p.2, p.1)).mapM (ofLine path)).map (List.filterMap id) =
      (Text.writtenFrom n lines).mapM (ofWritten path) := by
  induction lines generalizing n with
  | nil => rfl
  | cons line lines ih =>
    rw [List.zipIdx_cons, List.map_cons, List.mapM_cons]
    by_cases hb : Text.trim line = []
    · rw [Text.writtenFrom_blank hb, ofLine_blank hb, ← ih]
      cases ((lines.zipIdx (n + 1)).map fun p => (p.2, p.1)).mapM (ofLine path) with
      | ok os => rfl
      | error e => rfl
    · rw [Text.writtenFrom_held hb, ofLine_held hb, List.mapM_cons, ← ih]
      cases ofWritten path (n, Text.trim line) with
      | error e => rfl
      | ok e =>
        cases ((lines.zipIdx (n + 1)).map fun p => (p.2, p.1)).mapM (ofLine path) with
        | ok os => rfl
        | error e => rfl

theorem ofContents_eq_mapM (path : Path) (text : Text) :
    ofContents path text = text.written.mapM (ofWritten path) := by
  rw [← Text.writtenFrom_lines, ← mapM_ofLine]
  rfl

theorem ofWritten_eq_ok_iff : ofWritten path p = .ok e ↔ parse p.2 = .ok e := by
  unfold ofWritten
  cases parse p.2 with
  | ok e => simp [Except.mapError]
  | error fault => simp [Except.mapError]

theorem ofWritten_eq_error_iff :
    ofWritten path p = .error error ↔ ∃ fault, parse p.2 = .error fault ∧ error = .malformedLine path p.1 fault := by
  unfold ofWritten
  cases parse p.2 with
  | ok e => simp [Except.mapError]
  | error fault => simp [Except.mapError, eq_comm]

theorem exists_parse_iff : (∃ e, parse raw = .ok e) ↔ ∃ user salt digits, Spells raw user salt digits := by
  constructor
  · intro h
    obtain ⟨e, h⟩ := h
    obtain ⟨digits, hs, -⟩ := parse_eq_ok_iff.1 h
    exact ⟨_, _, digits, hs⟩
  · intro h
    obtain ⟨_, _, _, hs⟩ := h
    obtain ⟨e, h, -⟩ := hs.exists_parse
    exact ⟨e, h⟩

theorem ofContents_ok_iff_forall₂ :
    ofContents path text = .ok es ↔ List.Forall₂ (fun line e => parse line = .ok e) text.writtenLines es := by
  rw [ofContents_eq_mapM, mapM_eq_ok_iff, Text.writtenLines, List.forall₂_map_left_iff]
  simp only [ofWritten_eq_ok_iff]

theorem ofContents_error_iff_first : ofContents path text = .error error ↔
    ∃ before n line after fault, text.written = before ++ (n, line) :: after ∧
      (∀ p ∈ before, ∃ user salt digits, Spells p.2 user salt digits) ∧ parse line = .error fault ∧
      error = .malformedLine path n fault := by
  rw [ofContents_eq_mapM, mapM_eq_error_iff]
  constructor
  · intro h
    obtain ⟨before, ⟨n, line⟩, after, hs, hb, he⟩ := h
    obtain ⟨fault, hf, he⟩ := ofWritten_eq_error_iff.1 he
    refine ⟨before, n, line, after, fault, hs, fun p hp => exists_parse_iff.1 ?_, hf, he⟩
    obtain ⟨e, hread⟩ := hb p hp
    exact ⟨e, ofWritten_eq_ok_iff.1 hread⟩
  · intro h
    obtain ⟨before, n, line, after, fault, hs, hb, hf, he⟩ := h
    refine ⟨before, (n, line), after, hs, fun p hp => ?_, ofWritten_eq_error_iff.2 ⟨fault, hf, he⟩⟩
    obtain ⟨e, hread⟩ := exists_parse_iff.2 (hb p hp)
    exact ⟨e, ofWritten_eq_ok_iff.2 hread⟩

theorem exists_ofContents_iff : (∃ es, ofContents path text = .ok es) ↔
    ∀ line ∈ text.writtenLines, ∃ user salt digits, Spells line user salt digits := by
  simp only [ofContents_ok_iff_forall₂, ← exists_parse_iff]
  induction text.writtenLines with
  | nil => simp
  | cons line lines ih =>
    rw [List.forall_mem_cons, ← ih]
    constructor
    · intro h
      obtain ⟨es, h⟩ := h
      cases h with
      | cons hline hlines => exact ⟨⟨_, hline⟩, _, hlines⟩
    · intro h
      obtain ⟨⟨e, hline⟩, es, hlines⟩ := h
      exact ⟨e :: es, .cons hline hlines⟩

end

/-- A credential file is accepted exactly if every line that holds something is an entry, and lists
these entries, no more and no fewer. Otherwise the error is that of the first other line, by its number.
A file with another layout lists the same. -/
theorem ofFile_line_exact (fs : FileSystem) (path : Path) (text : Text) (hf : fs.readText path = .ok text) :
    ((∃ es, ofFile fs path = .ok es) ↔ ∀ line ∈ text.writtenLines, ∃ user salt digits, Spells line user salt digits) ∧
    (∀ es, ofFile fs path = .ok es ↔ List.Forall₂ (fun line e => parse line = .ok e) text.writtenLines es) ∧
    (∀ error, ofFile fs path = .error error ↔
      ∃ before n line after fault, text.written = before ++ (n, line) :: after ∧
        (∀ p ∈ before, ∃ user salt digits, Spells p.2 user salt digits) ∧ parse line = .error fault ∧
        error = .malformedLine path n fault) ∧
    (∀ (fs' : FileSystem) (path' : Path) (text' : Text), Text.Relaid text text' → fs'.readText path' = .ok text' →
      ∀ es, ofFile fs' path' = .ok es ↔ ofFile fs path = .ok es) ∧
    Text.Relaid text text.withReturns := by
  have hfile : ofFile fs path = ofContents path text := by rw [ofFile, hf]
  rw [hfile]
  refine ⟨exists_ofContents_iff, fun es => ofContents_ok_iff_forall₂, fun error => ofContents_error_iff_first, ?_,
    Text.relaid_withReturns text⟩
  intro fs' path' text' hr hf' es
  rw [ofFile, hf', ofContents_ok_iff_forall₂, ofContents_ok_iff_forall₂, hr.writtenLines_eq]

/-- The fourth line is refused, and two entries are listed whatever ends their lines. -/
theorem ofFile_line_exact_returns :
    let path := "/users".toList
    let bad : Text := "\n ".toList ++ (sample 'a').encode ++ "\r\n\t\nb:c".toList
    let good : Text := (sample 'a').encode ++ '\n' :: (sample 'b').encode
    (Command.shelf bad).readText path = .ok bad ∧
      ofFile (Command.shelf bad) path = .error (.malformedLine path 4 .dollarCount) ∧
      (Command.shelf good).readText path = .ok good ∧
      ofFile (Command.shelf good.withReturns) path = .ok [sample 'a', sample 'b'] := by
  intro path bad good
  have hbad := Command.readText_shelf bad
  have hgood := Command.readText_shelf good
  obtain ⟨-, -, herror, -, -⟩ := ofFile_line_exact _ path bad hbad
  obtain ⟨-, hok, -, hlayout, hreturns⟩ := ofFile_line_exact _ path good hgood
  have ha : parse (sample 'a').encode = .ok (sample 'a') := by decide +kernel
  have hb : parse (sample 'b').encode = .ok (sample 'b') := by decide +kernel
  have hwritten : bad.written = [(2, (sample 'a').encode)] ++ (4, "b:c".toList) :: [] := by decide +kernel
  have hlines : good.writtenLines = [(sample 'a').encode, (sample 'b').encode] := by decide +kernel
  have hlisted : ofFile (Command.shelf good) path = .ok [sample 'a', sample 'b'] := by
    rw [hok, hlines]
    exact .cons ha (.cons hb .nil)
  have hbefore : ∀ p ∈ [(2, (sample 'a').encode)], ∃ user salt digits, Spells p.2 user salt digits := by
    intro p hp
    rw [List.mem_singleton.1 hp]
    exact exists_parse_iff.1 ⟨_, ha⟩
  refine ⟨hbad, (herror _).2 ⟨_, _, _, _, _, hwritten, hbefore, rfl, rfl⟩, hgood, ?_⟩
  rwa [hlayout _ path _ hreturns (Command.readText_shelf good.withReturns)]

end Entry

end RpcGate
