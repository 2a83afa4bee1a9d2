import RpcGate.Command.Run
import RpcGate.Proofs.EntryText

/-!
# Adding to a credential file

Entries that are added one after the other are read back after those that were
there, as long as nothing but blanks follows the last newline of the file. What
stands there otherwise runs together with the first new entry into a line that
is none (`appendAll_reads_back`).
-/

namespace RpcGate

/-! ## What an addition does to the files -/

namespace FileSystem

/-- What an addition goes on with: a file that can be written, or a new one. -/
inductive Receives (fs : FileSystem) (loc : Location) : Bytes → Mode → Prop
  | present {content : Bytes} {mode : Mode} (hn : fs.node? loc = some (.file content mode)) (hw : mode.canWrite) :
    Receives fs loc content mode
  | missing (hn : fs.node? loc = none) (hm : fs.mayChange loc) : Receives fs loc [] (fs.granted 0o666)

section
variable {fs fs' : FileSystem} {p : Path} {loc : Location} {content more : Bytes} {mode : Mode}

theorem append_eq_ok_iff : fs.append p more = .ok fs' ↔ ∃ loc content mode, fs.locate .make p = .ok loc ∧
    fs.Receives loc content mode ∧ fs' = fs.insert loc (.file (content ++ more) mode) := by
  unfold append
  constructor
  · intro h
    cases hl : fs.locate .make p with
    | error e => rw [hl] at h; cases h
    | ok loc =>
      rw [hl] at h
      simp only [bind, Except.bind] at h
      split at h
      · next content mode hn =>
        split at h
        · next hw => exact ⟨loc, content, mode, rfl, .present hn hw, (Except.ok.inj h).symm⟩
        · cases h
      · cases h
      · next hn =>
        split at h
        · next hm => exact ⟨loc, [], _, rfl, .missing hn hm, (Except.ok.inj h).symm⟩
        · cases h
  · intro h
    obtain ⟨loc, content, mode, hl, hr, rfl⟩ := h
    cases hr with
    | present hn hw => simp [hl, bind, Except.bind, hn, hw]
    | missing hn hm => simp [hl, bind, Except.bind, hn, hm]

theorem Receives.thins (h : fs.Receives loc content mode) (more : Bytes) (bits : Mode) :
    Thins fs (fs.insert loc (.file more bits)) ∧ Thins (fs.insert loc (.file more bits)) fs := by
  constructor
  · refine thins_insert_file fun m hd => ?_
    cases h with
    | present hn => rw [hn] at hd; cases hd
    | missing hn => rw [hn] at hd; cases hd
  · refine thins_of_insert_file fun n hn' => ?_
    cases h with
    | present hn => rw [hn] at hn'; cases hn'; rfl
    | missing hn => rw [hn] at hn'; cases hn'

theorem Receives.locate (h : fs.Receives loc content mode) (hl : fs.locate .make p = .ok loc) (more : Bytes)
    (bits : Mode) : (fs.insert loc (.file more bits)).locate .make p = .ok loc :=
  locate_of_alike hl (h.thins more bits).2 (h.thins more bits).1

theorem locate_reach_of_make (h : fs.locate .make p = .ok loc) : fs.locate .reach p = .ok loc :=
  locate_retarget h rfl (fun _ => rfl) fun _ => .inl rfl

theorem Receives.stat (h : fs.Receives loc content mode) (hl : fs.locate .make p = .ok loc) (more : Bytes)
    (bits : Mode) : (fs.insert loc (.file more bits)).stat p = .ok (loc, .file more bits) :=
  stat_of_reach (locate_reach_of_make (h.locate hl more bits)) (fs.node?_insert_self loc _)

/-! ## Reading -/

theorem readText_of_stat {contents : Text} (h : fs.stat p = .ok (loc, .file (Text.utf8 contents) mode)) :
    fs.readText p = if mode.canRead then .ok contents else .error (.system .accessDenied) := by
  cases hm : mode.canRead with
  | true => simp [readText, read, h, bind, Except.bind, Node.mode, hm, Text.ofUtf8?_utf8]
  | false => simp [readText, read, h, bind, Except.bind, Node.mode, hm]

theorem readText_eq_ok {contents : Text} (h : fs.readText p = .ok contents) :
    ∃ loc mode, fs.stat p = .ok (loc, .file (Text.utf8 contents) mode) ∧ mode.canRead := by
  unfold readText read at h
  cases hs : fs.stat p with
  | error e => rw [hs] at h; cases h
  | ok found =>
    obtain ⟨loc, n⟩ := found
    rw [hs] at h
    simp only [bind, Except.bind] at h
    cases hm : n.mode.canRead with
    | false => simp [hm] at h
    | true =>
      cases n with
      | file content mode =>
        simp only [hm, Bool.not_true, Bool.false_eq_true, if_false] at h
        split at h
        · next t ht =>
          cases h
          exact ⟨loc, mode, by rw [Text.ofUtf8?_eq_some_iff.1 ht], hm⟩
        · cases h
      | directory m => simp [hm] at h
      | link target => simp [hm] at h

theorem readText_ne_notFound (h : fs.stat p = .ok (loc, .file content mode)) :
    fs.readText p ≠ .error (.system .notFound) := by
  cases hm : mode.canRead with
  | false => simp [readText, read, h, bind, Except.bind, Node.mode, hm]
  | true =>
    simp only [readText, read, h, bind, Except.bind, Node.mode, hm, Bool.not_true, Bool.false_eq_true, if_false]
    split <;> simp

end

end FileSystem

/-! ## What an addition does to the text -/

namespace Entry

/-- The line that is added for an entry. -/
def line (e : Entry) : Text := e.encode ++ ['\n']

section
variable {contents : Text} {e : Entry} {es added : List Entry} {path : Path}

theorem Listed.endedLines (h : Listed (Text.lines contents) es) (hb : Text.trim (Text.lastLine contents) = []) :
    Listed (Text.endedLines contents) es := by
  rw [Text.lines_eq] at h
  obtain ⟨front, back, rfl, hf, hl⟩ := h.of_append
  have hback : back = [] := by
    split at hl
    · cases hl; rfl
    · cases hl with
      | blank _ hl => cases hl; rfl
      | entry hne => exact absurd hb hne
  rw [hback, List.append_nil]
  exact hf

theorem listed_append_line (h : Listed (Text.lines contents) es) (hb : Text.trim (Text.lastLine contents) = [])
    (he : e.IsPlain) : Listed (Text.lines (contents ++ e.line)) (es ++ [e]) := by
  have hline : Text.trim (Text.dropReturn (Text.lastLine contents ++ e.encode)) = e.encode := by
    rw [Text.trim_dropReturn, Text.trim_append_of_blank hb he.isTrimmed]
  rw [line, Text.lines_append_line he.newline_not_mem]
  refine (h.endedLines hb).append (.entry ?_ ?_ .nil)
  · rw [hline]
    exact e.encode_ne_nil
  · rw [hline]
    exact he.parse_encode

theorem lastLine_append_line (contents : Text) (e : Entry) : Text.lastLine (contents ++ e.line) = [] := by
  unfold Text.lastLine
  simp only [line, ← List.append_assoc, Text.pieces_concat, List.getLast_concat]

theorem listed_append_lines (h : Listed (Text.lines contents) es) (hb : Text.trim (Text.lastLine contents) = [])
    (hw : ∀ e ∈ added, e.IsPlain) : Listed (Text.lines (contents ++ added.flatMap line)) (es ++ added) := by
  induction added generalizing contents es with
  | nil => simpa using h
  | cons e added ih =>
    have hstep := listed_append_line h hb (hw e (by simp))
    have hlast : Text.trim (Text.lastLine (contents ++ e.line)) = [] := by rw [lastLine_append_line]; rfl
    have hrest := ih hstep hlast fun e he => hw e (by simp [he])
    simpa using hrest

/-- Two entries on one line have two colons. -/
theorem parse_run_together {last : Text} {old : Entry} (hold : parse (Text.trim last) = .ok old) (he : e.IsPlain) :
    Text.trim (last ++ e.encode) ≠ [] ∧ parse (Text.trim (last ++ e.encode)) = .error .colonCount := by
  have hlast : last.count ':' = 1 := by
    rw [← Text.count_trim (by decide)]
    exact count_colon_of_parse hold
  have hcount : (Text.trim (last ++ e.encode)).count ':' = 2 := by
    rw [Text.count_trim (by decide), List.count_append, hlast, count_colon_of_parse he.parse_encode]
  refine ⟨fun hnil => ?_, parse_of_count_colon (by rw [hcount]; decide)⟩
  rw [hnil] at hcount
  cases hcount

theorem ofContents_run_together (h : Listed (Text.lines contents) es) (hb : Text.trim (Text.lastLine contents) ≠ [])
    (he : e.IsPlain) (more : Text) : ofContents path (contents ++ (e.encode ++ '\n' :: more)) =
      .error (.malformedLine path (Text.lines contents).length .colonCount) := by
  have hne : Text.lastLine contents ≠ [] := fun hnil => hb (by rw [hnil]; rfl)
  rw [Text.lines_eq, if_neg hne] at h ⊢
  obtain ⟨front, back, rfl, hf, hl⟩ := h.of_append
  obtain ⟨old, hold⟩ : ∃ old, parse (Text.trim (Text.lastLine contents)) = .ok old := by
    cases hl with
    | blank hblank => exact absurd hblank hb
    | entry _ hp => exact ⟨_, hp⟩
  obtain ⟨hnb, hp⟩ := parse_run_together hold he
  have hbad : ofLine path ((Text.endedLines contents).length + 1, Text.dropReturn (Text.lastLine contents ++ e.encode)) =
      .error (.malformedLine path ((Text.endedLines contents).length + 1) .colonCount) := by
    refine ofLine_eq_error_iff.2 ⟨?_, .colonCount, ?_, rfl⟩
    · rw [Text.trim_dropReturn]
      exact hnb
    · rw [Text.trim_dropReturn]
      exact hp
  rw [List.length_append, List.length_singleton]
  obtain ⟨after, hlines⟩ := Text.numberedLines_append_line (t := contents) he.newline_not_mem more
  refine ofContents_eq_error_iff.2 ⟨_, _, after, hlines, fun y hy => ?_, hbad⟩
  -- the lines before it are read as they were
  obtain ⟨q, hq, rfl⟩ := List.mem_map.1 hy
  exact hf.ofLine (List.fst_mem_of_mem_zipIdx hq) q.2

end

end Entry

/-! ## Reading back -/

namespace Command

def appendAll (fs : FileSystem) (path : Path) (es : List Entry) : Except Report FileSystem :=
  es.foldlM (fun fs e => append fs path e) fs

/-- What a credential file holds and lists; a missing one holds and lists nothing. -/
inductive Stored (fs : FileSystem) (path : Path) : Text → List Entry → Prop
  | missing (h : fs.readText path = .error (.system .notFound)) : Stored fs path [] []
  | file {contents : Text} {es : List Entry} (h : fs.readText path = .ok contents)
    (hes : Entry.ofContents path contents = .ok es) : Stored fs path contents es

/-- A missing file would be made without the right to read it. -/
def MadeUnreadable (fs : FileSystem) (path : Path) : Prop :=
  fs.readText path = .error (.system .notFound) ∧ (fs.granted 0o666).canRead = false

section
variable {fs fs' : FileSystem} {path : Path} {contents : Text} {e : Entry} {es added : List Entry}

theorem append_eq_ok_iff : append fs path e = .ok fs' ↔ fs.append path (Text.utf8 e.line) = .ok fs' := by
  unfold append
  rw [← Entry.line]
  cases fs.append path (Text.utf8 e.line) with
  | ok fs => simp
  | error fault => simp

/-- Every further addition goes on with the file that the first one left. -/
theorem appendAll_insert {loc : Location} {content more : Bytes} {mode bits : Mode} (hl : fs.locate .make path = .ok loc)
    (hr : fs.Receives loc content mode) (h : appendAll (fs.insert loc (.file more bits)) path es = .ok fs') :
    fs' = fs.insert loc (.file (more ++ Text.utf8 (es.flatMap Entry.line)) bits) := by
  induction es generalizing more with
  | nil =>
    cases h
    simp [Text.utf8]
  | cons e es ih =>
    unfold appendAll at h
    rw [List.foldlM_cons] at h
    cases ha : append (fs.insert loc (.file more bits)) path e with
    | error r => rw [ha] at h; cases h
    | ok fs₁ =>
      rw [ha] at h
      obtain ⟨l, held, m, hl', hr', rfl⟩ := FileSystem.append_eq_ok_iff.1 (append_eq_ok_iff.1 ha)
      obtain rfl := FileSystem.locate_unique (hr.locate hl more bits) hl'
      have hn := fs.node?_insert_self loc (.file more bits)
      cases hr' with
      | missing hn' => rw [hn] at hn'; cases hn'
      | present hn' =>
        rw [hn] at hn'
        cases hn'
        rw [FileSystem.insert_insert] at h
        rw [ih h, List.append_assoc, ← Text.utf8_append, List.flatMap_cons]

theorem appendAll_eq_ok (h : appendAll fs path (e :: es) = .ok fs') : ∃ loc content mode,
    fs.locate .make path = .ok loc ∧ fs.Receives loc content mode ∧
      fs' = fs.insert loc (.file (content ++ Text.utf8 ((e :: es).flatMap Entry.line)) mode) := by
  unfold appendAll at h
  rw [List.foldlM_cons] at h
  cases ha : append fs path e with
  | error r => rw [ha] at h; cases h
  | ok fs₁ =>
    rw [ha] at h
    obtain ⟨loc, content, mode, hl, hr, rfl⟩ := FileSystem.append_eq_ok_iff.1 (append_eq_ok_iff.1 ha)
    refine ⟨loc, content, mode, hl, hr, ?_⟩
    rw [appendAll_insert hl hr h, List.append_assoc, ← Text.utf8_append, List.flatMap_cons]

theorem Stored.receives {loc : Location} {content : Bytes} {mode : Mode} (hs : Stored fs path contents es)
    (hl : fs.locate .make path = .ok loc) (hr : fs.Receives loc content mode) :
    content = Text.utf8 contents ∧ Entry.ofContents path contents = .ok es ∧
      (mode.canRead = false ↔ MadeUnreadable fs path) := by
  have hreach := FileSystem.locate_reach_of_make hl
  cases hs with
  | missing h =>
    cases hr with
    | present hn => exact absurd h (FileSystem.readText_ne_notFound (FileSystem.stat_of_reach hreach hn))
    | missing => exact ⟨rfl, rfl, fun hm => ⟨h, hm⟩, fun hm => hm.2⟩
  | file h hes =>
    obtain ⟨l, bits, hs, hread⟩ := FileSystem.readText_eq_ok h
    obtain ⟨hl', hn'⟩ := FileSystem.stat_eq_ok hs
    obtain rfl := FileSystem.locate_unique hreach hl'
    cases hr with
    | missing hn => rw [hn] at hn'; cases hn'
    | present hn =>
      rw [hn] at hn'
      cases hn'
      refine ⟨rfl, hes, fun hm => ?_, fun hm => ?_⟩
      · rw [hread] at hm; cases hm
      · have habsent := hm.1
        rw [h] at habsent
        cases habsent

theorem ofFile_appendAll (hs : Stored fs path contents es) (h : appendAll fs path (e :: added) = .ok fs') :
    (MadeUnreadable fs path → Entry.ofFile fs' path = .error (.unreadableFile path (.system .accessDenied))) ∧
    (¬ MadeUnreadable fs path →
      Entry.ofFile fs' path = Entry.ofContents path (contents ++ (e :: added).flatMap Entry.line)) := by
  obtain ⟨loc, content, mode, hl, hr, rfl⟩ := appendAll_eq_ok h
  obtain ⟨rfl, -, hread⟩ := hs.receives hl hr
  have hstat := hr.stat hl (Text.utf8 (contents ++ (e :: added).flatMap Entry.line)) mode
  have htext := FileSystem.readText_of_stat hstat
  rw [← Text.utf8_append]
  constructor
  · intro hm
    rw [hread.2 hm] at htext
    rw [Entry.ofFile, htext]
    rfl
  · intro hm
    have hcan : mode.canRead = true := by
      cases hc : mode.canRead with
      | true => rfl
      | false => exact absurd (hread.1 hc) hm
    rw [if_pos hcan] at htext
    rw [Entry.ofFile, htext]

theorem Stored.ofContents (hs : Stored fs path contents es) : Entry.ofContents path contents = .ok es := by
  cases hs with
  | missing => rfl
  | file _ hes => exact hes

theorem exists_appendAll {loc : Location} {content : Bytes} {mode : Mode} (es : List Entry)
    (hl : fs.locate .make path = .ok loc) (hn : fs.node? loc = some (.file content mode)) (hw : mode.canWrite) :
    ∃ fs', appendAll fs path es = .ok fs' := by
  induction es generalizing fs content with
  | nil => exact ⟨fs, rfl⟩
  | cons e es ih =>
    have hr := FileSystem.Receives.present hn hw
    have ha : append fs path e = .ok (fs.insert loc (.file (content ++ Text.utf8 e.line) mode)) :=
      append_eq_ok_iff.2 (FileSystem.append_eq_ok_iff.2 ⟨loc, content, mode, hl, hr, rfl⟩)
    obtain ⟨fs', h⟩ := ih (hr.locate hl _ mode) (fs.node?_insert_self loc _)
    refine ⟨fs', ?_⟩
    unfold appendAll at h ⊢
    rw [List.foldlM_cons, ha]
    exact h

/-- New entries are read back after the old ones, in their order, if the text before them ends with
a newline and blanks; what else stands on the last line makes it one with two colons. -/
theorem appendAll_reads_back (fs fs' : FileSystem) (path : Path) (contents : Text) (es added : List Entry)
    (hs : Stored fs path contents es) (hne : added ≠ []) (hw : ∀ e ∈ added, e.IsPlain)
    (h : appendAll fs path added = .ok fs') :
    (MadeUnreadable fs path → Entry.ofFile fs' path = .error (.unreadableFile path (.system .accessDenied))) ∧
    (¬ MadeUnreadable fs path →
      (Text.trim (Text.lastLine contents) = [] → Entry.ofFile fs' path = .ok (es ++ added)) ∧
      (Text.trim (Text.lastLine contents) ≠ [] → Entry.ofFile fs' path =
        .error (.malformedLine path (Text.lines contents).length .colonCount))) := by
  obtain ⟨e, rest, rfl⟩ := List.exists_cons_of_ne_nil hne
  obtain ⟨hun, hread⟩ := ofFile_appendAll hs h
  have hlisted := Entry.ofContents_eq_ok_iff.1 hs.ofContents
  refine ⟨hun, fun hm => ?_⟩
  rw [hread hm]
  constructor
  · intro hb
    exact Entry.ofContents_eq_ok_iff.2 (Entry.listed_append_lines hlisted hb hw)
  · intro hb
    have hlines : (e :: rest).flatMap Entry.line = e.encode ++ '\n' :: rest.flatMap Entry.line := by
      simp [Entry.line]
    rw [hlines]
    exact Entry.ofContents_run_together hlisted hb (hw e (by simp)) _

end

/-! ## With a final newline and without -/

section
variable {contents : Text} {es : List Entry}

/-- One credential file, at the top. -/
def shelf (contents : Text) : FileSystem :=
  (FileSystem.empty 0o022).insert ["users".toList] (.file (Text.utf8 contents) 0o600)

theorem locate_shelf (contents : Text) (aim : FileSystem.Aim) :
    (shelf contents).locate aim "/users".toList = .ok ["users".toList] :=
  FileSystem.locate_top ⟨0o755, rfl, rfl⟩ (by unfold Path.IsProper; decide) (by decide) (by decide) aim
    fun _ target h => by cases h

theorem readText_shelf (contents : Text) : (shelf contents).readText "/users".toList = .ok contents := by
  have hstat : (shelf contents).stat "/users".toList = .ok (["users".toList], .file (Text.utf8 contents) 0o600) :=
    FileSystem.stat_of_reach (locate_shelf contents .reach) rfl
  exact FileSystem.readText_of_stat hstat

theorem stored_shelf (h : Entry.ofContents "/users".toList contents = .ok es) :
    Stored (shelf contents) "/users".toList contents es :=
  .file (readText_shelf contents) h

theorem not_madeUnreadable_shelf (contents : Text) : ¬ MadeUnreadable (shelf contents) "/users".toList := by
  intro h
  have habsent := h.1
  rw [readText_shelf] at habsent
  cases habsent

theorem appendAll_reads_back_pair :
    let bob := Entry.sample 'b'
    let added := [Entry.sample 'e', Entry.sample 'b']
    ∃ fs', appendAll (shelf bob.line) "/users".toList added = .ok fs' ∧
      Entry.ofFile fs' "/users".toList = .ok (bob :: added) := by
  intro bob added
  have hlisted : Entry.Listed (Text.lines ([] ++ [bob].flatMap Entry.line)) ([] ++ [bob]) :=
    Entry.listed_append_lines .nil rfl (by decide +kernel)
  have hs : Stored (shelf bob.line) "/users".toList bob.line [bob] := by
    refine stored_shelf (Entry.ofContents_eq_ok_iff.2 ?_)
    simpa using hlisted
  obtain ⟨fs', h⟩ := exists_appendAll added (locate_shelf bob.line .make) rfl rfl
  have hread := (appendAll_reads_back _ fs' _ _ _ added hs (by simp [added]) (by decide +kernel) h).2
    (not_madeUnreadable_shelf bob.line)
  exact ⟨fs', h, hread.1 (by decide +kernel)⟩

/-- A file whose last line no newline ends is read without complaint, and no more after an addition. -/
theorem append_runs_together :
    let bob := Entry.sample 'b'
    let eve := Entry.sample 'e'
    eve.IsPlain ∧ Entry.ofFile (shelf bob.encode) "/users".toList = .ok [bob] ∧
      ∃ fs', append (shelf bob.encode) "/users".toList eve = .ok fs' ∧
        Entry.ofFile fs' "/users".toList = .error (.malformedLine "/users".toList 1 .colonCount) := by
  intro bob eve
  have hplain : eve.IsPlain := by decide +kernel
  have hes : Entry.ofContents "/users".toList bob.encode = .ok [bob] := rfl
  have hs := stored_shelf hes
  obtain ⟨fs', h⟩ := exists_appendAll [eve] (locate_shelf bob.encode .make) rfl rfl
  have hread := (ofFile_appendAll hs h).2 (not_madeUnreadable_shelf bob.encode)
  refine ⟨hplain, ?_, fs', ?_, ?_⟩
  · rw [Entry.ofFile, readText_shelf]
    exact hes
  · simpa [appendAll] using h
  · rw [hread]
    have hline : [eve].flatMap Entry.line = eve.encode ++ '\n' :: [] := rfl
    have hlast : Text.trim (Text.lastLine bob.encode) ≠ [] := by decide +kernel
    have hcount : (Text.lines bob.encode).length = 1 := rfl
    rw [hline, Entry.ofContents_run_together (Entry.ofContents_eq_ok_iff.1 hes) hlast hplain [], hcount]

end

end Command

end RpcGate
