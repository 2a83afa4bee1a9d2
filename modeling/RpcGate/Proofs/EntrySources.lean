import RpcGate.Proofs.Appending

/-!
# The ways to write an entry

A text can be given as a line of a config file, as an override, or as the one
line of a credential file. Each way trims and looks for blanks at a place of its
own, and all of them come to the same entries or the same fault
(`ofText_of_every_source`).
-/

namespace RpcGate

/-- The entries that a text on one line stands for. -/
def Entry.ofText (s : Text) : Except EntryFault (List Entry) :=
  if s.all Text.isBlank then .ok [] else (parse (Text.trim s)).map fun e => [e]

/-- How the last line of a file may end. -/
def Text.endings : List Text := [[], ['\n'], ['\r', '\n']]

/-! ## One line -/

namespace Text

variable {s ending : Text}

theorem lines_of_ending (hn : '\n' ∉ s) (he : ending ∈ endings) :
    (s = [] ∧ lines (s ++ ending) = []) ∨ ∃ line, lines (s ++ ending) = [line] ∧ trim line = trim s := by
  simp only [endings, List.mem_cons, List.not_mem_nil, or_false] at he
  rcases he with rfl | rfl | rfl
  · rw [List.append_nil, lines, pieces_of_not_mem hn]
    by_cases hs : s = []
    · exact .inl ⟨hs, by simp [ended, hs]⟩
    · exact .inr ⟨s, by simp [ended, hs], rfl⟩
  · exact .inr ⟨_, lines_line hn, trim_dropReturn s⟩
  · have hreturn : '\n' ∉ s ++ ['\r'] := by simp [hn]
    have hline := lines_line hreturn
    rw [List.append_assoc, List.singleton_append] at hline
    exact .inr ⟨_, hline, by rw [trim_dropReturn, trim_append_blanks (by simp [isBlank])]⟩

end Text

/-! ## A setting -/

namespace Setting

variable {s ending : Text} {origin path datadir : Path}

theorem trim_rpcauth (s : Text) :
    Text.trim (AuthOptions.rpcauth ++ '=' :: s) = AuthOptions.rpcauth ++ '=' :: Text.trimEnd s := by
  have hstart : Text.trimStart AuthOptions.rpcauth = AuthOptions.rpcauth := by decide
  rw [Text.trim_append_sep (by decide), hstart]

theorem parse_rpcauth (s : Text) (source : Source) (origin : Text) :
    parse (AuthOptions.rpcauth ++ '=' :: s) source origin = .ok ⟨AuthOptions.rpcauth, .set (Text.trim s), source⟩ := by
  have hs : Text.splitOnce '=' (AuthOptions.rpcauth ++ '=' :: s) = some (AuthOptions.rpcauth, s) :=
    Text.splitOnce_eq_some_iff.2 ⟨rfl, by decide⟩
  have hn : Text.trim AuthOptions.rpcauth = AuthOptions.rpcauth := by decide
  unfold parse split
  rw [hs]
  simp only [hn]
  rfl

end Setting

/-! ## The three ways -/

section
variable {s ending : Text} {fs : FileSystem} {path datadir : Path}

theorem Entry.ofText_of_blank (hb : Text.trim s = []) : ofText s = .ok [] := by
  rw [ofText, if_pos (List.all_eq_true.2 (Text.trim_eq_nil_iff.1 hb))]

theorem Entry.ofText_of_not_blank (hb : Text.trim s ≠ []) : ofText s = (parse (Text.trim s)).map fun e => [e] := by
  rw [ofText, if_neg fun h => hb (Text.trim_eq_nil_iff.2 (List.all_eq_true.1 h))]

theorem Directive.entries_ofText (fs : FileSystem) (s : Text) :
    (addInline (Text.trim s)).entries fs = (Entry.ofText s).mapError .malformed := by
  have htrim : Text.trim (Text.trim s) = Text.trim s := (Text.isTrimmed_trim s).trim_eq
  by_cases hb : Text.trim s = []
  · have hblank : (addInline (Text.trim s)).isBlank := decide_eq_true (htrim.trans hb)
    rw [Entry.ofText_of_blank hb, entries_blank fs hblank]
    rfl
  · rw [Entry.ofText_of_not_blank hb, entries_addInline fs (by rwa [htrim])]
    cases Entry.parse (Text.trim s) with
    | ok e => rfl
    | error fault => rfl

theorem Entry.ofContents_ofText (hn : '\n' ∉ s) (he : ending ∈ Text.endings) (path : Path) :
    ofContents path (s ++ ending) = (ofText s).mapError (.malformedLine path 1) := by
  unfold ofContents Text.numberedLines
  rcases Text.lines_of_ending hn he with ⟨rfl, hl⟩ | ⟨line, hl, htrim⟩
  · rw [hl]
    rfl
  · simp only [hl, List.zipIdx_cons, List.zipIdx_nil, List.map_cons, List.map_nil, List.mapM_cons, List.mapM_nil,
      ofLine, htrim]
    by_cases hb : Text.trim s = []
    · rw [ofText_of_blank hb, if_pos hb]
      rfl
    · rw [ofText_of_not_blank hb, if_neg hb]
      cases parse (Text.trim s) with
      | ok e => rfl
      | error fault => rfl

theorem Settings.parseConfig_rpcauth (hn : '\n' ∉ s) (he : ending ∈ Text.endings) (path : Path) :
    parseConfig (AuthOptions.rpcauth ++ '=' :: s ++ ending) path =
      .ok [⟨AuthOptions.rpcauth, .set (Text.trim s), .configFile⟩] := by
  have hline : '\n' ∉ AuthOptions.rpcauth ++ '=' :: s := by
    simp only [List.mem_append, List.mem_cons, not_or]
    exact ⟨by decide, by decide, hn⟩
  rcases Text.lines_of_ending hline he with ⟨hnil, -⟩ | ⟨line, hl, htrim⟩
  · simp at hnil
  · rw [Setting.trim_rpcauth] at htrim
    have hsettings : settingLines (AuthOptions.rpcauth ++ '=' :: s ++ ending) =
        [(1, AuthOptions.rpcauth ++ '=' :: Text.trimEnd s)] := by
      unfold settingLines Text.numberedLines
      simp only [hl, List.zipIdx_cons, List.zipIdx_nil, List.map_cons, List.map_nil, htrim]
      rfl
    rw [parseConfig, hsettings, List.mapM_cons, Setting.parse_rpcauth, Text.trim_trimEnd]
    rfl

theorem Settings.parseOverrides_rpcauth {dashes : Text} (hd : dashes ∈ [['-'], ['-', '-']]) (s : Text) :
    parseOverrides [dashes ++ AuthOptions.rpcauth ++ '=' :: s] =
      .ok [⟨AuthOptions.rpcauth, .set (Text.trim s), .commandLine⟩] := by
  have hundash : Setting.undash (dashes ++ AuthOptions.rpcauth ++ '=' :: s) = some (AuthOptions.rpcauth ++ '=' :: s) := by
    simp only [List.mem_cons, List.not_mem_nil, or_false] at hd
    rcases hd with rfl | rfl
    · rfl
    · rfl
  rw [parseOverrides, List.mapM_cons, Setting.parseOverride, hundash]
  simp only [Setting.parse_rpcauth]
  rfl

end

/-- An entry written as a setting of a config file, as an override with one dash or two, or as a
credential file comes to the same entries. What cannot be read has the same fault each way, which is
of the class of malformed credentials; the file also gives the line. -/
theorem Entry.ofText_of_every_source (s ending : Text) (hn : '\n' ∉ s) (he : ending ∈ Text.endings)
    (config file datadir : Path) (fs : FileSystem) (hf : fs.readText file = .ok (s ++ ending)) :
    ∃ d : Directive, d.isAdd ∧ d.entries fs = (ofText s).mapError .malformed ∧
      (∃ settings, Settings.parseConfig (AuthOptions.rpcauth ++ '=' :: s ++ ending) config = .ok settings ∧
        AuthOptions.directivesOf settings datadir = [d]) ∧
      (∀ dashes ∈ [['-'], ['-', '-']],
        ∃ settings, Settings.parseOverrides [dashes ++ AuthOptions.rpcauth ++ '=' :: s] = .ok settings ∧
          AuthOptions.directivesOf settings datadir = [d]) ∧
      ofFile fs file = (ofText s).mapError (.malformedLine file 1) ∧
      ∀ e, d.entries fs = .error e ∨ ofFile fs file = .error e → e.isCredential := by
  have hfile : ofFile fs file = (ofText s).mapError (.malformedLine file 1) := by
    rw [ofFile, hf]
    exact ofContents_ofText hn he file
  have hentries := Directive.entries_ofText fs s
  refine ⟨.addInline (Text.trim s), rfl, hentries, ⟨_, Settings.parseConfig_rpcauth hn he config, rfl⟩,
    fun dashes hd => ⟨_, Settings.parseOverrides_rpcauth hd s, rfl⟩, hfile, fun e h => ?_⟩
  rw [hentries, hfile] at h
  cases hs : ofText s with
  | ok es => simp [hs, Except.mapError] at h
  | error fault =>
    rw [hs] at h
    rcases h with h | h
    · cases h; rfl
    · cases h; rfl

theorem Entry.ofText_of_every_source_padded :
    let s := " \t".toList ++ (sample 'a').encode ++ " \r".toList
    let file := "/users".toList
    let fs := Command.shelf (s ++ ['\r', '\n'])
    '\n' ∉ s ∧ ['\r', '\n'] ∈ Text.endings ∧ fs.readText file = .ok (s ++ ['\r', '\n']) ∧
      ofFile fs file = .ok [sample 'a'] ∧
      ∃ settings d, Settings.parseOverrides ["--rpcauth=".toList ++ s] = .ok settings ∧
        AuthOptions.directivesOf settings ['/'] = [d] ∧ d.entries fs = .ok [sample 'a'] := by
  intro s file fs
  have hn : '\n' ∉ s := by decide +kernel
  have he : ['\r', '\n'] ∈ Text.endings := by decide
  have hf : fs.readText file = .ok (s ++ ['\r', '\n']) := Command.readText_shelf _
  have hs : ofText s = .ok [sample 'a'] := by decide +kernel
  obtain ⟨d, -, hd, -, hoverride, hfile, -⟩ := ofText_of_every_source s _ hn he ['c'] file ['/'] fs hf
  obtain ⟨settings, hp, hdirectives⟩ := hoverride ['-', '-'] (by simp)
  rw [hs] at hd hfile
  exact ⟨hn, he, hf, hfile, settings, d, hp, hdirectives, hd⟩

end RpcGate
