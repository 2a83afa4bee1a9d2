import RpcGate.Proofs.EntrySources
import RpcGate.Proofs.Presentable
import RpcGate.Proofs.SettingGrammar

/-!
# What a generated entry does

The readers of settings and of credential files trim, and they cut at
newlines. A generated entry of a plain name passes them unchanged and lets its
user in; under any other name no text lets the user in (`generated_works`).
-/

namespace RpcGate

/-! ## What a config file can say -/

namespace Setting

variable {raw origin v : Text} {source : Source} {s : Setting}

theorem value_of_parse (h : parse raw source origin = .ok s) (hv : s.value = .set v) :
    ∃ name rest, raw = name ++ '=' :: rest ∧ v = Text.trim rest := by
  obtain ⟨hrest, -⟩ := (read_eq_ok (parse_eq_ok_iff.1 h).1).2.2 v hv
  unfold split at hrest
  split at hrest
  · next name rest hs =>
    cases hrest
    exact ⟨name, rest, (Text.splitOnce_eq_some_iff.1 hs).1, rfl⟩
  · cases hrest

end Setting

namespace Settings

variable {contents v : Text} {path : Path} {settings : Settings} {s : Setting} {name : Text}

theorem value_of_parseConfig (h : parseConfig contents path = .ok settings) (hs : s ∈ settings)
    (hv : s.value = .set v) : Text.IsTrimmed v ∧ '\n' ∉ v := by
  obtain ⟨p, hp, hparse⟩ := exists_of_mem_mapM h hs
  obtain ⟨_, rest, hraw, rfl⟩ := Setting.value_of_parse hparse hv
  obtain ⟨q, hq, rfl⟩ := List.mem_map.1 (List.mem_filter.1 hp).1
  have hline : q.2 ∈ Text.lines contents := Text.mem_numberedLines.2 ⟨q.1, hq⟩
  refine ⟨Text.isTrimmed_trim rest, fun hn => ?_⟩
  have hmem : '\n' ∈ Text.trim q.2 := by
    rw [show Text.trim q.2 = _ from hraw]
    simp [Text.mem_of_mem_trim hn]
  exact Text.newline_not_mem_of_mem_lines hline (Text.mem_of_mem_trim hmem)

theorem text?_eq_some (h : text? settings name = some v) : v = [] ∨ ∃ s ∈ settings, s.value = .set v := by
  unfold text? at h
  split at h
  · cases h; exact .inl rfl
  · next hl =>
    cases h
    obtain ⟨s, hs, hv⟩ := Option.map_eq_some_iff.1 hl
    exact .inr ⟨s, (List.mem_filter.1 (List.mem_of_getLast? hs)).1, hv⟩
  · cases h
  · cases h

end Settings

section
variable {contents user : Text} {path datadir : Path} {settings : Settings} {fs : FileSystem} {e : Entry}
  {entries : List Entry} {options : AuthOptions} {registry : Registry}

theorem isPlainName_of_settings (h : Settings.parseConfig contents path = .ok settings)
    (hr : resolve fs (AuthOptions.directivesOf settings datadir) = .ok entries) (he : e ∈ entries) :
    IsPlainName e.username := by
  obtain ⟨d, hd, es, hes, hmem⟩ := exists_directive_of_resolve hr he
  rcases Directive.entry_cases hes hmem with ⟨raw, rfl, hp⟩ | ⟨file, text, rfl, hc⟩
  · obtain ⟨s, hs, hsd⟩ := List.mem_filterMap.1 hd
    have hv : s.value = .set raw := by
      unfold AuthOptions.directive? at hsd
      split at hsd
      · split at hsd
        · cases hsd
        · cases hsd
        · next hv => cases hsd; exact hv
      · split at hsd
        · split at hsd
          · cases hsd
          · cases hsd
          · cases hsd
        · cases hsd
    obtain ⟨ht, hn⟩ := Settings.value_of_parseConfig h hs hv
    rw [← ht.trim_eq] at hp
    exact Entry.isPlainName_of_parse_trim hp hn
  · exact Entry.isPlainName_of_ofContents hc hmem

/-- A config file gives plain names only, apart from a colon in the name of its pair. -/
theorem isPlainName_of_contains (h : Settings.parseConfig contents path = .ok settings)
    (ho : AuthOptions.ofSettings settings datadir = .ok options)
    (hb : Registry.build fs options.directives options.legacy = .ok registry) (hc : registry.contains user)
    (hne : user ≠ []) (hcolon : ':' ∉ user) : IsPlainName user := by
  obtain ⟨cookie, whitelist, -, rfl⟩ := AuthOptions.ofSettings_eq_ok ho
  obtain ⟨entries, hr, rfl⟩ := Registry.build_eq_ok hb
  obtain ⟨c, hget⟩ := Option.isSome_iff_exists.1 hc
  rcases Registry.get?_ofEntries_eq_some_iff.1 hget with ⟨e, he, -⟩ | ⟨-, pair, hl, hu, -⟩
  · have hmem := List.mem_filter.1 (List.mem_of_getLast? he)
    have hname : e.username = user := by simpa using hmem.2
    rw [← hname]
    exact isPlainName_of_settings h hr hmem.1
  · have hname := AuthOptions.username_of_legacyOf hl
    rw [hu] at hname
    cases ht : settings.text? AuthOptions.rpcuser with
    | none =>
      rw [ht] at hname
      exact absurd hname hne
    | some name =>
      rw [ht] at hname
      have hname : user = name := hname
      rcases Settings.text?_eq_some ht with hnil | ⟨s, hs, hv⟩
      · exact absurd (hname.trans hnil) hne
      · obtain ⟨htrim, hn⟩ := Settings.value_of_parseConfig h hs hv
        rw [← hname] at htrim hn
        exact ⟨hne, hcolon, hn, htrim.head⟩

end

/-! ## The line of an entry -/

namespace Entry

variable {e : Entry} {path : Path}

/-- The setting that adds an entry. -/
def setting (e : Entry) : Text := AuthOptions.rpcauth ++ '=' :: e.encode

theorem parseConfig_setting (h : e.IsPlain) : Settings.parseConfig (e.setting ++ ['\n']) path =
    .ok [⟨AuthOptions.rpcauth, .set e.encode, .configFile⟩] := by
  rw [setting, Settings.parseConfig_rpcauth h.newline_not_mem (by simp [Text.endings]), h.isTrimmed.trim_eq]

theorem resolve_setting (h : e.IsPlain) (fs : FileSystem) : resolve fs [.addInline e.encode] = .ok [e] := by
  have hb : Text.trim e.encode ≠ [] := by
    rw [h.isTrimmed.trim_eq]
    exact e.encode_ne_nil
  have hes : (Directive.addInline e.encode).entries fs = .ok [e] := by
    rw [Directive.entries_addInline fs hb, h.parse_encode]
  rw [resolve_eq_map, List.foldlM_cons, Replay.apply_add fs _ rfl, hes]
  rfl

theorem ofSettings_setting (e : Entry) (source : Source) (datadir : Path) :
    AuthOptions.ofSettings [⟨AuthOptions.rpcauth, .set e.encode, source⟩] datadir =
      .ok ⟨[.addInline e.encode], none, some ⟨Path.join datadir Cookie.fileName, .ownerOnly⟩, ⟨[], false⟩⟩ := rfl

theorem ofContents_line (h : e.IsPlain) : ofContents path e.line = .ok [e] := by
  have hnil : Listed (Text.lines []) [] := .nil
  exact ofContents_eq_ok_iff.2 (listed_append_line hnil rfl h)

theorem accepts_generate (salt : Vector UInt8 16) (user password : Text) :
    (generate salt user password).accepts password :=
  (accepts_iff _ _).2 rfl

theorem isPlain_generate {salt : Vector UInt8 16} {user : Text} (h : IsPlainName user) (password : Text) :
    (generate salt user password).IsPlain := ⟨h, isPlainSalt_encode salt.toList⟩

end Entry

/-! ## Every generated entry -/

namespace Command

theorem genArgs_username {m : Matches} {args : GenArgs} (h : genArgs m = .ok args) :
    args.username ≠ [] ∧ ':' ∉ args.username := by
  unfold genArgs at h
  split at h
  · dsimp only at h
    split at h
    · cases h
    · next hc =>
      cases h
      exact ⟨by simp, by simpa using hc⟩
  · cases h

/-- An entry for a name on one line that starts with no blank is all that its setting and its line
say, and lets its user in. Of any other name the setting and the line say something else. -/
theorem generated_works (m : Matches) (args : GenArgs) (hargs : genArgs m = .ok args) (salt : Vector UInt8 16)
    (password : Text) (path datadir : Path) (fs : FileSystem) :
    let user := args.username
    let e := Entry.generate salt user password
    let header := some (BasicHeader.encode user password)
    ('\n' ∉ user → (∀ c, user.head? = some c → Text.isBlank c = false) →
      (∃ settings options registry, Settings.parseConfig (e.setting ++ ['\n']) path = .ok settings ∧
        AuthOptions.ofSettings settings datadir = .ok options ∧
        Registry.build fs options.directives options.legacy = .ok registry ∧ registry.credentials = [.hashed e] ∧
        ∀ cookie, Authenticator.authenticate ⟨registry, cookie⟩ header = .accepted user) ∧
      ∀ file, fs.readText file = .ok e.line → Entry.ofFile fs file = .ok [e]) ∧
    ('\n' ∈ user ∨ (∃ c, user.head? = some c ∧ Text.isBlank c) →
      (∀ settings options registry, Settings.parseConfig (e.setting ++ ['\n']) path = .ok settings →
        AuthOptions.ofSettings settings datadir = .ok options →
        Registry.build fs options.directives options.legacy = .ok registry →
        registry.contains user = false ∧ Authenticator.authenticate ⟨registry, none⟩ header = .rejected) ∧
      ∀ file es, fs.readText file = .ok e.line → Entry.ofFile fs file = .ok es →
          ∀ e' ∈ es, e'.username ≠ user) := by
  intro user e header
  obtain ⟨hne, hcolon⟩ := genArgs_username hargs
  constructor
  · intro hn hhead
    have hplain : e.IsPlain := Entry.isPlain_generate ⟨hne, hcolon, hn, hhead⟩ password
    constructor
    · refine ⟨_, _, _, Entry.parseConfig_setting hplain, Entry.ofSettings_setting e .configFile datadir,
        Registry.build_of_resolve (Entry.resolve_setting hplain fs) none, rfl, fun cookie => ?_⟩
      have hv : (Registry.ofEntries none [e]).verify user password := by
        refine (Registry.verify_iff _ _ _).2 ⟨.hashed e, ?_, Entry.accepts_generate salt user password⟩
        exact Registry.get?_ofEntries_eq_some_iff.2 (.inl ⟨e, by simp [lastEntry, e, Entry.generate, Entry.ofPassword], rfl⟩)
      rw [Authenticator.authenticate_encode _ hcolon, if_pos]
      rw [Authenticator.check, hv, Bool.or_true]
    · intro file hfile
      rw [Entry.ofFile, hfile]
      exact Entry.ofContents_line hplain
  · intro hbad
    have hplain : ¬ IsPlainName user := by
      intro hp
      rcases hbad with hn | ⟨c, hc, hblank⟩
      · exact hp.newline hn
      · rw [hp.head c hc] at hblank
        cases hblank
    constructor
    · intro settings options registry hs ho hb
      have hc : registry.contains user = false := by
        rw [← Bool.not_eq_true]
        exact fun hc => hplain (isPlainName_of_contains hs ho hb hc hne hcolon)
      refine ⟨hc, ?_⟩
      have hv : registry.verify user password = false := by
        unfold Registry.contains at hc
        rw [Registry.verify, Option.isNone_iff_eq_none.1 (Option.isSome_eq_false_iff.1 hc)]
      rw [Authenticator.authenticate_encode _ hcolon, Authenticator.check, hv]
      rfl
    · intro file es hfile hes e' he' hu
      rw [Entry.ofFile, hfile] at hes
      exact hplain (hu ▸ Entry.isPlainName_of_ofContents hes he')

theorem generated_works_beside_file :
    let user := "al=ice #1".toList
    let e := Entry.generate (Vector.replicate 16 0) user ['x']
    let m : Matches := [⟨.username, .words, [user]⟩]
    genArgs m = .ok ⟨user, none, none⟩ ∧
      (∃ settings options registry, Settings.parseConfig (e.setting ++ ['\n']) ['c'] = .ok settings ∧
        AuthOptions.ofSettings settings ['/'] = .ok options ∧
        Registry.build (shelf e.line) options.directives options.legacy = .ok registry ∧
        Authenticator.authenticate ⟨registry, none⟩ (some (BasicHeader.encode user ['x'])) = .accepted user) ∧
      Entry.ofFile (shelf e.line) "/users".toList = .ok [e] := by
  intro user e m
  have hargs : genArgs m = .ok ⟨user, none, none⟩ := by decide
  obtain ⟨hconfig, hfile⟩ := (generated_works m _ hargs (Vector.replicate 16 0) ['x'] ['c'] ['/'] (shelf e.line)).1
    (by decide) fun c hc => by cases hc; rfl
  obtain ⟨settings, options, registry, hs, ho, hb, -, ha⟩ := hconfig
  exact ⟨hargs, ⟨settings, options, registry, hs, ho, hb, ha none⟩, hfile "/users".toList (readText_shelf e.line)⟩

/-- A name that starts with a blank is taken, and its entry is not read back. -/
theorem generated_blank_lost :
    let user := " alice".toList
    let e := Entry.generate (Vector.replicate 16 0) user ['x']
    genArgs [⟨.username, .words, [user]⟩] = .ok ⟨user, none, none⟩ ∧
      ¬ ∃ settings options registry, Settings.parseConfig (e.setting ++ ['\n']) ['c'] = .ok settings ∧
        AuthOptions.ofSettings settings ['/'] = .ok options ∧
        Registry.build (FileSystem.empty 0) options.directives options.legacy = .ok registry ∧
        registry.credentials = [.hashed e] := by
  intro user e
  refine ⟨by decide, fun h => ?_⟩
  obtain ⟨settings, options, registry, hs, ho, hb, hc⟩ := h
  have hcontains : registry.contains user := by
    rw [Registry.contains, Registry.get?, hc]
    rfl
  exact absurd (isPlainName_of_contains hs ho hb hcontains (by decide) (by decide)) (by decide)

end Command

end RpcGate
