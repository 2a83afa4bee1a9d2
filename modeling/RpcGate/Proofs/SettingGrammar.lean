import RpcGate.Proofs.FirstFailure
import RpcGate.Proofs.Layout
import RpcGate.Settings.Basic

/-!
# One grammar for settings

A setting means the same on a line of a config file and behind the dashes of
an override. A config file is read line by line, and its first bad line is
reported. Whatever is accepted can be written again and reads back
(`Setting.one_grammar`).
-/

namespace RpcGate

namespace Text

variable {c : Char} {t : Text}

theorem toNat_lt_of_isAlphanum (h : c.isAlphanum) : c.toNat < 128 := by
  have h : ((c.isUpper || c.isLower) || c.isDigit) = true := h
  rw [Bool.or_eq_true, Bool.or_eq_true] at h
  rcases h with (hupper | hlower) | hdigit
  · have hz : c ≤ 'Z' := (of_decide_eq_true hupper).2
    exact toNat_lt_of_le hz (by decide)
  · have hz : c ≤ 'z' := of_decide_eq_true (Bool.and_eq_true_iff.1 hlower).2
    exact toNat_lt_of_le hz (by decide)
  · have hnine : c ≤ '9' := of_decide_eq_true (Bool.and_eq_true_iff.1 hdigit).2
    exact toNat_lt_of_le hnine (by decide)

/-- A first character that is no blank stays the first one. -/
theorem head?_trim (h : isBlank c = false) (t : Text) : (trim (c :: t)).head? = some c := by
  have ht := trim_append_sep h [] t
  rw [List.nil_append] at ht
  rw [ht]
  rfl

theorem written_of_not_mem (hn : '\n' ∉ t) (hb : trim t ≠ []) : written t = [(1, trim t)] := by
  rw [written, pieces_of_not_mem hn, writtenFrom_held hb, writtenFrom]

end Text

namespace Setting

/-! ## Characters of a name -/

section
variable {c : Char} {name base : Text}

theorem toNat_lt_of_isNameChar (h : isNameChar c) : c.toNat < 128 := by
  unfold isNameChar at h
  rw [Bool.or_eq_true, Bool.or_eq_true, Bool.or_eq_true, beq_iff_eq, beq_iff_eq, beq_iff_eq] at h
  rcases h with ((h | rfl) | rfl) | rfl
  · exact Text.toNat_lt_of_isAlphanum h
  · decide
  · decide
  · decide

theorem isNameChar_ne (h : isNameChar c) : Text.isBlank c = false ∧ c ≠ '=' ∧ c ≠ '#' :=
  Text.forall_ascii (P := fun c => isNameChar c → Text.isBlank c = false ∧ c ≠ '=' ∧ c ≠ '#')
    (by decide +kernel) (toNat_lt_of_isNameChar h) h

theorem equals_not_mem (h : name.all isNameChar) : '=' ∉ name := fun hm => (isNameChar_ne (List.all_eq_true.1 h _ hm)).2.1 rfl

theorem trim_name (h : name.all isNameChar) : Text.trim name = name :=
  Text.trim_eq_self fun c hc => (isNameChar_ne (List.all_eq_true.1 h c hc)).1

theorem all_isNameChar_negation (h : name.all isNameChar) : ('n' :: 'o' :: name).all isNameChar := by
  rw [List.all_cons, List.all_cons, h]
  rfl

theorem negatedName?_eq_some_iff : negatedName? name = some base ↔ base ≠ [] ∧ name = 'n' :: 'o' :: base := by
  unfold negatedName?
  split
  · next c rest h =>
    rw [Text.dropPrefix_eq_some_iff.1 h]
    constructor
    · intro hb
      cases hb
      exact ⟨by simp, rfl⟩
    · intro hb
      obtain ⟨-, hb⟩ := hb
      cases hb
      rfl
  · next h =>
    constructor
    · intro hb
      cases hb
    · intro hb
      obtain ⟨hne, rfl⟩ := hb
      obtain ⟨c, rest, rfl⟩ := List.exists_cons_of_ne_nil hne
      exact absurd (Text.dropPrefix_eq_some_iff.2 rfl) (h c rest)

end

/-! ## What is accepted -/

/-- The settings that the grammar has: a name of its characters, and a value without blanks at its ends
only under a name that does not read as a negation. -/
structure Accepted (s : Setting) : Prop where
  name_ne_nil : s.name ≠ []
  name_chars : s.name.all isNameChar
  value : ∀ v, s.value = .set v → Text.IsTrimmed v ∧ negatedName? s.name = none

section
variable {raw origin name base : Text} {rest : Option Text} {value : Value} {source : Source} {s : Setting} {e : SettingsError}

theorem read_eq_ok (h : read name rest = .ok (base, value)) : base ≠ [] ∧ base.all isNameChar ∧
    ∀ v, value = .set v → rest = some v ∧ negatedName? base = none := by
  unfold read at h
  split at h
  · cases h
  · next hne =>
    split at h
    · cases h
    · next hchars =>
      simp only [Bool.not_eq_true', Bool.not_eq_false] at hchars
      have negated {b : Text} (hb : negatedName? name = some b) : b ≠ [] ∧ b.all isNameChar := by
        obtain ⟨hb, hname⟩ := negatedName?_eq_some_iff.1 hb
        rw [hname] at hchars
        simp only [List.all_cons, Bool.and_eq_true] at hchars
        exact ⟨hb, hchars.2.2⟩
      split at h
      · next b hb =>
        cases h
        exact ⟨(negated hb).1, (negated hb).2, fun v hv => by cases hv⟩
      · next b v hb =>
        split at h
        · cases h
          exact ⟨(negated hb).1, (negated hb).2, fun v hv => by cases hv⟩
        · split at h
          · cases h
            exact ⟨(negated hb).1, (negated hb).2, fun v hv => by cases hv⟩
          · cases h
      · cases h
        exact ⟨hne, hchars, fun v hv => by cases hv⟩
      · next v hb =>
        cases h
        exact ⟨hne, hchars, fun w hw => by cases hw; exact ⟨rfl, hb⟩⟩

theorem parse_eq_ok_iff : parse raw source origin = .ok s ↔
    read (split raw).1 (split raw).2 = .ok (s.name, s.value) ∧ s.source = source := by
  unfold parse
  cases hr : read (split raw).1 (split raw).2 with
  | ok p => cases s; simp [hr, Prod.ext_iff, and_assoc, eq_comm]
  | error fault => simp [hr]

theorem parse_eq_error_iff : parse raw source origin = .error e ↔
    ∃ fault, read (split raw).1 (split raw).2 = .error fault ∧ e = .malformed origin raw fault := by
  unfold parse
  cases hr : read (split raw).1 (split raw).2 with
  | ok p => simp [hr]
  | error fault => simp [hr, eq_comm]

theorem isTrimmed_of_split {v : Text} (h : (split raw).2 = some v) : Text.IsTrimmed v := by
  unfold split at h
  split at h
  · cases h
    exact Text.isTrimmed_trim _
  · cases h

theorem accepted_of_parse (h : parse raw source origin = .ok s) : Accepted s := by
  obtain ⟨hne, hchars, hset⟩ := read_eq_ok (parse_eq_ok_iff.1 h).1
  refine ⟨hne, hchars, fun v hv => ?_⟩
  obtain ⟨hrest, hname⟩ := hset v hv
  exact ⟨isTrimmed_of_split hrest, hname⟩

/-! ## Writing it again -/

theorem split_render (h : Accepted s) : split s.render = match s.value with
    | .set v => (s.name, some v)
    | .negated => ('n' :: 'o' :: s.name, none)
    | .bare => ('n' :: 'o' :: s.name, some ['0']) := by
  have hno := all_isNameChar_negation h.name_chars
  unfold render
  cases hv : s.value with
  | set v => simp only [split_append (equals_not_mem h.name_chars), trim_name h.name_chars, (h.value v hv).1.trim_eq]
  | negated => simp only [split_of_not_mem (equals_not_mem hno), trim_name hno]
  | bare =>
    have hzero : Text.trim ['0'] = ['0'] := rfl
    simp only [split_append (equals_not_mem hno), trim_name hno, hzero]

theorem read_negation (hne : base ≠ []) (hchars : base.all isNameChar) (rest : Option Text) :
    read ('n' :: 'o' :: base) rest = match rest with
      | none => .ok (base, .negated)
      | some v => if v = ['1'] then .ok (base, .negated) else if v = ['0'] then .ok (base, .bare) else .error .badNegation := by
  have hno := all_isNameChar_negation hchars
  have hname : negatedName? ('n' :: 'o' :: base) = some base := negatedName?_eq_some_iff.2 ⟨hne, rfl⟩
  unfold read
  rw [if_neg (by simp), if_neg (by simp [hno]), hname]
  cases rest with
  | none => rfl
  | some v => rfl

theorem parse_render (h : Accepted s) (source : Source) (origin : Text) :
    parse s.render source origin = .ok { s with source := source } := by
  refine parse_eq_ok_iff.2 ⟨?_, rfl⟩
  rw [split_render h]
  cases hv : s.value with
  | set v =>
    obtain ⟨-, hname⟩ := h.value v hv
    simp [read, h.name_ne_nil, h.name_chars, hname]
  | negated => exact read_negation h.name_ne_nil h.name_chars none
  | bare => exact read_negation h.name_ne_nil h.name_chars (some ['0'])

/-! ## Behind dashes -/

theorem undash_one {line : Text} (h : line.head? ≠ some '-') : undash ('-' :: line) = some line := by
  cases line with
  | nil => rfl
  | cons c line =>
    by_cases hc : c = '-'
    · exact absurd (congrArg some hc) h
    · simp [undash, hc]

theorem parseOverride_of_undash {token : Text} (h : undash token = some raw) :
    parseOverride token = parse raw .commandLine Source.commandLine.text := by
  rw [parseOverride, h]

theorem split_trim (t : Text) : split (Text.trim t) = split t := by
  cases hs : Text.splitOnce '=' t with
  | none =>
    have hm := Text.splitOnce_eq_none_iff.1 hs
    rw [split_of_not_mem hm, split_of_not_mem fun h => hm (Text.mem_of_mem_trim h), (Text.isTrimmed_trim t).trim_eq]
  | some p =>
    obtain ⟨rfl, hm⟩ := Text.splitOnce_eq_some_iff.1 hs
    have hstart : '=' ∉ Text.trimStart p.1 := fun h => hm ((List.dropWhile_sublist _).subset h)
    rw [Text.trim_append_sep (by decide), split_append hstart, split_append hm, Text.trim_trimStart, Text.trim_trimEnd]

theorem parse_trim_eq_ok (h : parse raw source origin = .ok s) : parse (Text.trim raw) source origin = .ok s := by
  rw [parse_eq_ok_iff, split_trim, ← parse_eq_ok_iff]
  exact h

theorem parse_trim_eq_error {fault : SettingFault} (h : read (split raw).1 (split raw).2 = .error fault) (source : Source)
    (origin : Text) : parse (Text.trim raw) source origin = .error (.malformed origin (Text.trim raw) fault) := by
  refine parse_eq_error_iff.2 ⟨fault, ?_, rfl⟩
  rw [split_trim, h]

end

end Setting

/-! ## Line by line -/

namespace Settings

/-- The lines that hold something and are no comment, with their numbers. -/
def given (text : Text) : List (Nat × Text) := text.written.filter fun p => p.2.head? ≠ some '#'

/-- Where a line stands. -/
def place (path : Path) (n : Nat) : Text := path ++ ':' :: Text.decimal n

section
variable {text line : Text} {path : Path} {settings : Settings} {e : SettingsError}

theorem settingLines_eq (text : Text) : settingLines text = given text := by
  rw [given, ← Text.writtenFrom_lines, ← Text.filter_numbered, List.filter_filter]
  exact List.filter_congr fun p _ => Bool.and_comm _ _

theorem parseConfig_eq (text : Text) (path : Path) :
    parseConfig text path = (given text).mapM fun p => Setting.parse p.2 .configFile (place path p.1) := by
  rw [parseConfig, settingLines_eq]
  rfl

theorem parseConfig_line (hn : '\n' ∉ line) (hb : Text.trim line ≠ []) (hc : (Text.trim line).head? ≠ some '#')
    (path : Path) :
    parseConfig line path = (Setting.parse (Text.trim line) .configFile (place path 1)).map fun s => [s] := by
  rw [parseConfig_eq, given, Text.written_of_not_mem hn hb, List.filter_cons_of_pos (by simpa using hc), List.filter_nil,
    List.mapM_cons]
  cases Setting.parse (Text.trim line) .configFile (place path 1) with
  | ok s => rfl
  | error e => rfl

theorem parseConfig_eq_ok_iff : parseConfig text path = .ok settings ↔
    List.Forall₂ (fun p s => Setting.parse p.2 .configFile (place path p.1) = .ok s) (given text) settings := by
  rw [parseConfig_eq, mapM_eq_ok_iff]

theorem parseConfig_eq_error_iff : parseConfig text path = .error e ↔
    ∃ before n line after fault, given text = before ++ (n, line) :: after ∧
      (∀ p ∈ before, ∃ s, Setting.parse p.2 .configFile (place path p.1) = .ok s) ∧
      Setting.parse line .configFile (place path n) = .error e ∧ e = .malformed (place path n) line fault := by
  rw [parseConfig_eq, mapM_eq_error_iff]
  constructor
  · intro h
    obtain ⟨before, ⟨n, line⟩, after, hs, hb, he⟩ := h
    obtain ⟨fault, -, hfault⟩ := Setting.parse_eq_error_iff.1 he
    exact ⟨before, n, line, after, fault, hs, hb, he, hfault⟩
  · intro h
    obtain ⟨before, n, line, after, fault, hs, hb, he, -⟩ := h
    exact ⟨before, (n, line), after, hs, hb, he⟩

end

end Settings

/-! ## The two ways to give a setting -/

namespace Setting

section
variable {line : Text} {s : Setting}

theorem undash_dashes (hd : (Text.trim line).head? ≠ some '-') :
    ∀ dashes ∈ [['-'], ['-', '-']], undash (dashes ++ line) = some line := by
  have hhead : line.head? ≠ some '-' := by
    cases line with
    | nil => simp
    | cons c line =>
      intro h
      cases h
      exact hd (Text.head?_trim (by decide) line)
  intro dashes hdashes
  simp only [List.mem_cons, List.not_mem_nil, or_false] at hdashes
  rcases hdashes with rfl | rfl
  · exact undash_one hhead
  · rfl

theorem exists_render_cons (h : Accepted s) : ∃ c t, s.render = c :: t ∧ isNameChar c := by
  unfold render
  cases s.value with
  | set v =>
    obtain ⟨c, t, hname⟩ := List.exists_cons_of_ne_nil h.name_ne_nil
    exact ⟨c, _, by rw [hname]; rfl, List.all_eq_true.1 h.name_chars c (by simp [hname])⟩
  | negated => exact ⟨'n', _, rfl, rfl⟩
  | bare => exact ⟨'n', _, rfl, rfl⟩

theorem parseConfig_render (h : Accepted s) (hn : '\n' ∉ s.render) (path : Path) :
    Settings.parseConfig s.render path = .ok [{ s with source := .configFile }] := by
  obtain ⟨c, t, hrender, hc⟩ := exists_render_cons h
  obtain ⟨hblank, -, hcomment⟩ := isNameChar_ne hc
  have hhead : (Text.trim s.render).head? = some c := by
    rw [hrender]
    exact Text.head?_trim hblank t
  have hheld : Text.trim s.render ≠ [] := by
    intro hnil
    rw [hnil] at hhead
    cases hhead
  have hnote : (Text.trim s.render).head? ≠ some '#' := by
    rw [hhead]
    exact fun heq => hcomment (Option.some.inj heq)
  rw [Settings.parseConfig_line hn hheld hnote, parse_trim_eq_ok (parse_render h _ _)]
  rfl

end

/-- A line that holds a setting says the same in a config file and behind one dash or two: it has the
same name and value, or is refused for the same reason. A config file says what its lines say in their
order, or is refused for its first bad line. An accepted setting reads back from how it is written. -/
theorem one_grammar :
    (∀ line : Text, '\n' ∉ line → Text.trim line ≠ [] → (Text.trim line).head? ≠ some '#' →
      (Text.trim line).head? ≠ some '-' → ∀ path : Path,
      (∃ name value, Settings.parseConfig line path = .ok [⟨name, value, .configFile⟩] ∧
        ∀ dashes ∈ [['-'], ['-', '-']], parseOverride (dashes ++ line) = .ok ⟨name, value, .commandLine⟩) ∨
      ∃ fault, Settings.parseConfig line path = .error (.malformed (Settings.place path 1) (Text.trim line) fault) ∧
        ∀ dashes ∈ [['-'], ['-', '-']],
          parseOverride (dashes ++ line) = .error (.malformed Source.commandLine.text line fault)) ∧
    (∀ (text : Text) (path : Path),
      (∀ settings, Settings.parseConfig text path = .ok settings ↔
        List.Forall₂ (fun p s => parse p.2 .configFile (Settings.place path p.1) = .ok s) (Settings.given text) settings) ∧
      ∀ e, Settings.parseConfig text path = .error e ↔
        ∃ before n line after fault, Settings.given text = before ++ (n, line) :: after ∧
          (∀ p ∈ before, ∃ s, parse p.2 .configFile (Settings.place path p.1) = .ok s) ∧
          parse line .configFile (Settings.place path n) = .error e ∧ e = .malformed (Settings.place path n) line fault) ∧
    (∀ (raw : Text) (source : Source) (origin : Text) (s : Setting), parse raw source origin = .ok s →
      (∀ v, s.value = .set v → s.render = s.name ++ '=' :: v) ∧
      (s.value = .negated → s.render = "no".toList ++ s.name) ∧
      (s.value = .bare → s.render = "no".toList ++ s.name ++ "=0".toList) ∧
      (∀ source' origin', parse s.render source' origin' = .ok { s with source := source' }) ∧
      parseOverride ("--".toList ++ s.render) = .ok { s with source := .commandLine } ∧
      ('\n' ∉ s.render → ∀ path, Settings.parseConfig s.render path = .ok [{ s with source := .configFile }])) := by
  refine ⟨?_, fun text path => ⟨fun _ => Settings.parseConfig_eq_ok_iff, fun _ => Settings.parseConfig_eq_error_iff⟩, ?_⟩
  · intro line hn hb hc hd path
    have hundash := undash_dashes hd
    rw [Settings.parseConfig_line hn hb hc]
    cases hr : read (split line).1 (split line).2 with
    | ok p =>
      left
      have hline (source : Source) (origin : Text) : parse line source origin = .ok ⟨p.1, p.2, source⟩ :=
        parse_eq_ok_iff.2 ⟨hr, rfl⟩
      refine ⟨p.1, p.2, by rw [parse_trim_eq_ok (hline _ _)]; rfl, fun dashes hdashes => ?_⟩
      rw [parseOverride_of_undash (hundash dashes hdashes)]
      exact hline _ _
    | error fault =>
      right
      refine ⟨fault, by rw [parse_trim_eq_error hr]; rfl, fun dashes hdashes => ?_⟩
      rw [parseOverride_of_undash (hundash dashes hdashes)]
      exact parse_eq_error_iff.2 ⟨fault, hr, rfl⟩
  · intro raw source origin s h
    have ha := accepted_of_parse h
    refine ⟨fun v hv => by rw [render, hv], fun hv => ?_, fun hv => ?_, parse_render ha, ?_, parseConfig_render ha⟩
    · rw [render, hv]
      rfl
    · rw [render, hv]
      rfl
    · rw [parseOverride_of_undash rfl]
      exact parse_render ha _ _

/-- A negated negation between blanks, and a file whose third line is bad. -/
theorem one_grammar_negation :
    let line := "\tnonono = 0 \r".toList
    let s : Setting := ⟨"nono".toList, .bare, .commandLine⟩
    let text := "# a\n\n -b=\r\nb c\n=".toList
    '\n' ∉ line ∧ Text.trim line ≠ [] ∧ (Text.trim line).head? ≠ some '#' ∧ (Text.trim line).head? ≠ some '-' ∧
      Settings.parseConfig line ['c'] = .ok [{ s with source := .configFile }] ∧
      parseOverride ('-' :: line) = .ok s ∧ parseOverride ("--".toList ++ s.render) = .ok s ∧
      Settings.parseConfig text ['c'] = .error (.malformed "c:4".toList "b c".toList .badName) := by
  intro line s text
  obtain ⟨hline, htext, hrender⟩ := one_grammar
  have hn : '\n' ∉ line := by decide
  have hb : Text.trim line ≠ [] := by decide
  have hc : (Text.trim line).head? ≠ some '#' := by decide
  have hd : (Text.trim line).head? ≠ some '-' := by decide
  have hs : Settings.parseConfig line ['c'] = .ok [{ s with source := .configFile }] := by decide
  have hoverride : parseOverride ('-' :: line) = .ok s := by
    rcases hline line hn hb hc hd ['c'] with ⟨name, value, hconfig, h⟩ | ⟨fault, hconfig, -⟩
    · rw [hs] at hconfig
      cases hconfig
      exact h ['-'] (by simp)
    · rw [hs] at hconfig
      cases hconfig
  have hgiven : Settings.given text = [(3, "-b=".toList)] ++ (4, "b c".toList) :: [(5, ['='])] := by decide
  have hbefore : ∀ p ∈ [(3, "-b=".toList)], ∃ s, parse p.2 .configFile (Settings.place ['c'] p.1) = .ok s := by
    intro p hp
    rw [List.mem_singleton.1 hp]
    exact ⟨⟨"-b".toList, .set [], .configFile⟩, by decide⟩
  have hread : parse line .commandLine [] = .ok s := by decide
  obtain ⟨-, -, -, -, hagain, -⟩ := hrender _ _ _ _ hread
  refine ⟨hn, hb, hc, hd, hs, hoverride, hagain, ?_⟩
  exact ((htext text ['c']).2 _).2 ⟨_, _, _, _, .badName, hgiven, hbefore, by decide, rfl⟩

end Setting

end RpcGate
