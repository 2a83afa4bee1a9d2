import RpcGate.Listener.Startup
import RpcGate.Proofs.FirstFailure
import RpcGate.Proofs.Replay

/-!
# A malformed credential stops the start

Every directive is read, also one that a later clear would drop, and reading
comes before the cookie and the listener. So the first directive that cannot
be read decides over the error of a start, and no file has changed by then
(`start_fails_closed`).
-/

namespace RpcGate

/-! ## Which directives cannot be read -/

/-- A value or a file that is not what a credential has to be. -/
inductive Directive.Malformed (fs : FileSystem) : Directive → Prop
  | value {raw : Text} {fault : EntryFault} (hb : Text.trim raw ≠ []) (h : Entry.parse raw = .error fault) :
    Malformed fs (.addInline raw)
  | unreadable {path : Path} {fault : Fault} (hp : path ≠ []) (h : fs.readText path = .error fault) :
    Malformed fs (.addFile path)
  | line {path : Path} {contents line : Text} {fault : EntryFault} (hp : path ≠ [])
    (h : fs.readText path = .ok contents) (hl : line ∈ Text.lines contents) (hb : Text.trim line ≠ [])
    (hf : Entry.parse (Text.trim line) = .error fault) : Malformed fs (.addFile path)

theorem Text.mem_numberedLines {t line : Text} :
    line ∈ lines t ↔ ∃ n, (n, line) ∈ numberedLines t := by
  unfold numberedLines
  constructor
  · intro h
    obtain ⟨i, hi, rfl⟩ := List.mem_iff_getElem.1 h
    refine ⟨1 + i, List.mem_map.2 ⟨((lines t)[i], 1 + i), ?_, rfl⟩⟩
    exact List.mk_mem_zipIdx_iff_le_and_getElem?_sub.2 (by simp [hi])
  · intro h
    obtain ⟨n, h⟩ := h
    obtain ⟨p, hp, he⟩ := List.mem_map.1 h
    obtain ⟨rfl, rfl⟩ := Prod.mk.inj he
    exact List.fst_mem_of_mem_zipIdx hp

namespace Entry

theorem ofLine_eq_error_iff {path : Path} {line : Nat × Text} {e : AuthError} :
    ofLine path line = .error e ↔
      Text.trim line.2 ≠ [] ∧ ∃ fault, parse (Text.trim line.2) = .error fault ∧ e = .malformedLine path line.1 fault := by
  unfold ofLine
  by_cases hb : Text.trim line.2 = []
  · simp [hb]
  · cases hp : parse (Text.trim line.2) with
    | ok entry => simp [hb, hp]
    | error fault => simp [hb, hp, eq_comm]

theorem ofContents_eq_error_iff {path : Path} {contents : Text} {e : AuthError} :
    ofContents path contents = .error e ↔ FailsFirst (ofLine path) (Text.numberedLines contents) e := by
  rw [← mapM_eq_error_iff]
  unfold ofContents
  cases (Text.numberedLines contents).mapM (ofLine path) with
  | ok lines => simp [bind, Except.bind, pure, Except.pure]
  | error e' => simp [bind, Except.bind]

end Entry

namespace Directive

theorem entries_addInline (fs : FileSystem) {raw : Text} (hb : Text.trim raw ≠ []) :
    (addInline raw).entries fs = match Entry.parse raw with
      | .ok e => .ok [e]
      | .error fault => .error (.malformed fault) := by
  unfold entries
  exact if_neg (by simpa [isBlank] using hb)

theorem entries_addFile (fs : FileSystem) {path : Path} (hp : path ≠ []) :
    (addFile path).entries fs = match fs.readText path with
      | .ok contents => Entry.ofContents path contents
      | .error fault => .error (.unreadableFile path fault) := by
  unfold entries
  exact if_neg (by simpa [isBlank] using hp)

theorem entries_error_cases {fs : FileSystem} {d : Directive} {e : AuthError} (h : d.entries fs = .error e) :
    (∃ raw fault, d = .addInline raw ∧ Text.trim raw ≠ [] ∧ Entry.parse raw = .error fault ∧
      e = .malformed fault) ∨
    (∃ path fault, d = .addFile path ∧ path ≠ [] ∧ fs.readText path = .error fault ∧
      e = .unreadableFile path fault) ∨
    (∃ path contents line fault, d = .addFile path ∧ path ≠ [] ∧ fs.readText path = .ok contents ∧
      line ∈ Text.numberedLines contents ∧ Text.trim line.2 ≠ [] ∧
      Entry.parse (Text.trim line.2) = .error fault ∧ e = .malformedLine path line.1 fault) := by
  have hb : ¬ d.isBlank := fun hb => by rw [entries_blank fs hb] at h; cases h
  cases d with
  | addInline raw =>
    have hb : Text.trim raw ≠ [] := by simpa [isBlank] using hb
    rw [entries_addInline fs hb] at h
    split at h
    · cases h
    · next fault hf => exact .inl ⟨raw, fault, rfl, hb, hf, (Except.error.inj h).symm⟩
  | addFile path =>
    have hp : path ≠ [] := by simpa [isBlank] using hb
    rw [entries_addFile fs hp] at h
    split at h
    · next contents hc =>
      obtain ⟨before, line, after, hs, -, he⟩ := Entry.ofContents_eq_error_iff.1 h
      obtain ⟨hb, fault, hf, he⟩ := Entry.ofLine_eq_error_iff.1 he
      have hl : line ∈ Text.numberedLines contents := by rw [hs]; simp
      exact .inr (.inr ⟨path, contents, line, fault, rfl, hp, hc, hl, hb, hf, he⟩)
    · next fault hf => exact .inr (.inl ⟨path, fault, rfl, hp, hf, (Except.error.inj h).symm⟩)
  | clear => cases h
  | reEnable => cases h

theorem malformed_iff (fs : FileSystem) (d : Directive) :
    (∃ e, d.entries fs = .error e) ↔ Malformed fs d := by
  constructor
  · intro h
    obtain ⟨e, h⟩ := h
    rcases entries_error_cases h with ⟨raw, fault, rfl, hb, hf, -⟩ | ⟨path, fault, rfl, hp, hf, -⟩ |
      ⟨path, contents, line, fault, rfl, hp, hc, hl, hb, hf, -⟩
    · exact .value hb hf
    · exact .unreadable hp hf
    · exact .line hp hc (Text.mem_numberedLines.2 ⟨line.1, hl⟩) hb hf
  · intro h
    cases h with
    | value hb h => exact ⟨_, by rw [entries_addInline fs hb, h]⟩
    | unreadable hp h => exact ⟨_, by rw [entries_addFile fs hp, h]⟩
    | @line path contents line fault hp h hl hb hf =>
      obtain ⟨n, hn⟩ := Text.mem_numberedLines.1 hl
      have he : Entry.ofLine path (n, line) = .error (.malformedLine path n fault) :=
        Entry.ofLine_eq_error_iff.2 ⟨hb, fault, hf, rfl⟩
      -- an earlier line of the file may be the one that is reported
      obtain ⟨e, hfirst⟩ := (exists_failsFirst_iff _).2 ⟨(n, line), hn, _, he⟩
      exact ⟨e, by rw [entries_addFile fs hp, h]; exact Entry.ofContents_eq_error_iff.2 hfirst⟩

theorem isCredential_of_entries {fs : FileSystem} {d : Directive} {e : AuthError}
    (h : d.entries fs = .error e) : e.isCredential := by
  rcases entries_error_cases h with ⟨_, fault, -, -, -, rfl⟩ | ⟨path, fault, -, -, -, rfl⟩ |
    ⟨path, _, line, fault, -, -, -, -, -, -, rfl⟩
  · rfl
  · rfl
  · rfl

end Directive

theorem AuthError.not_isCookie_of_isCredential {e : AuthError} (h : e.isCredential) : e.isCookie = false := by
  cases e with
  | malformed _ => rfl
  | malformedLine _ _ _ => rfl
  | unreadableFile _ _ => rfl
  | cookieNotWritten _ _ => cases h
  | cookieMode _ _ _ => cases h
  | badPermissions _ => cases h
  | badWhitelist _ => cases h

theorem AuthError.not_isCredential_of_isCookie {e : AuthError} (h : e.isCookie) : e.isCredential = false := by
  cases hc : e.isCredential with
  | false => rfl
  | true => rw [not_isCookie_of_isCredential hc] at h; cases h

/-! ## The replay stops at the first -/

namespace Replay

theorem apply_error {fs : FileSystem} {d : Directive} {e : AuthError} (h : d.entries fs = .error e)
    (r : Replay) : r.apply fs d = .error e := by
  by_cases hd : d.isAdd
  · rw [apply_add fs r hd, h]; rfl
  · rcases Directive.eq_of_not_isAdd hd with rfl | rfl
    · cases h
    · cases h

theorem foldlM_apply_eq_error_iff (fs : FileSystem) (ds : List Directive) (r : Replay) (e : AuthError) :
    ds.foldlM (apply fs) r = .error e ↔ FailsFirst (Directive.entries fs) ds e := by
  induction ds generalizing r with
  | nil => simp [not_failsFirst_nil, pure, Except.pure]
  | cons d ds ih =>
    rw [List.foldlM_cons]
    cases hd : d.entries fs with
    | error e' =>
      rw [failsFirst_cons_error hd, apply_error hd]
      exact ⟨Except.error.inj, congrArg Except.error⟩
    | ok es =>
      rw [failsFirst_cons_ok hd, @apply_eq_next fs (fun _ => es) d (fun _ => hd) r]
      exact ih _

end Replay

theorem resolve_eq_error_iff (fs : FileSystem) (ds : List Directive) (e : AuthError) :
    resolve fs ds = .error e ↔ FailsFirst (Directive.entries fs) ds e := by
  rw [← Replay.foldlM_apply_eq_error_iff fs ds Replay.start, resolve_eq_map]
  cases ds.foldlM (Replay.apply fs) Replay.start with
  | ok r => simp [Except.map]
  | error e' => simp [Except.map]

theorem Registry.build_eq_error_iff (fs : FileSystem) (ds : List Directive) (legacy : Option LegacyPair)
    (e : AuthError) : build fs ds legacy = .error e ↔ FailsFirst (Directive.entries fs) ds e := by
  rw [← resolve_eq_error_iff]
  unfold build
  cases resolve fs ds with
  | ok entries => simp [bind, Except.bind, pure, Except.pure]
  | error e' => simp [bind, Except.bind]

/-! ## What else stops a start -/

namespace Cookie

theorem publish_isCookie {disk : Disk} {capability : Capability} {permissions : CookiePermissions} {path : Path}
    {secret : Text} {fs : FileSystem} {e : AuthError}
    (h : (publish disk capability permissions path secret fs).2 = some e) : e.isCookie := by
  unfold publish at h
  split at h
  · cases h
  · cases h; rfl

theorem checkMode_isCookie {capability : Capability} {permissions : CookiePermissions} {path : Path}
    {fs : FileSystem} {e : AuthError} (h : checkMode capability permissions path fs = some e) : e.isCookie := by
  unfold checkMode at h
  split at h
  · cases h
  · split at h
    · cases h; rfl
    · cases h
    · split at h
      · cases h
      · cases h; rfl

theorem Provider.provision_isCookie {p : Provider} {bytes : Vector UInt8 32} {fs : FileSystem} {disk : Disk}
    {e : AuthError} (h : (p.provision bytes fs disk).result = .error e) : e.isCookie := by
  unfold provision at h
  simp only at h
  split at h
  · next fs' e' hp =>
    cases h
    exact publish_isCookie (congrArg Prod.snd hp)
  · split at h
    · next e' hm =>
      cases h
      exact checkMode_isCookie hm
    · cases h

end Cookie

theorem AuthOptions.ofSettings_eq_ok {s : Settings} {datadir : Path} {options : AuthOptions}
    (h : ofSettings s datadir = .ok options) : ∃ cookie whitelist,
      cookieOf s datadir = .ok cookie ∧ options = ⟨directivesOf s datadir, legacyOf s, cookie, whitelist⟩ := by
  unfold ofSettings at h
  cases hc : cookieOf s datadir with
  | error e => rw [hc] at h; cases h
  | ok cookie =>
    cases hw : Whitelist.build (s.list rpcwhitelist) (s.switch? rpcwhitelistdefault) with
    | error e => rw [hc, hw] at h; cases h
    | ok whitelist => rw [hc, hw] at h; cases h; exact ⟨cookie, whitelist, rfl, rfl⟩

theorem AuthOptions.directives_of_ofSettings {s : Settings} {datadir : Path} {options : AuthOptions}
    (h : ofSettings s datadir = .ok options) : options.directives = directivesOf s datadir := by
  obtain ⟨_, _, -, rfl⟩ := ofSettings_eq_ok h
  rfl

theorem ServerConfig.directives_of_ofSettings {address : SocketAddress} {datadir : Path} {s : Settings}
    {config : ServerConfig} (h : ofSettings address datadir s = .ok config) :
    config.auth.directives = AuthOptions.directivesOf s datadir := by
  unfold ofSettings at h
  split at h
  · cases h
  · split at h
    · cases h
    · next auth ho =>
      cases h
      exact AuthOptions.directives_of_ofSettings ho

namespace Server

theorem provisionCookie_isCookie {options : Option CookieOptions} {secret : Vector UInt8 32} {fs : FileSystem}
    {disk : Disk} {e : AuthError} (h : (provisionCookie options secret fs disk).2 = .error e) : e.isCookie := by
  cases options with
  | none => cases h
  | some o =>
    unfold provisionCookie at h
    simp only at h
    cases hr : ((Cookie.Provider.new o.path o.permissions).provision secret fs disk).result with
    | ok c => rw [hr] at h; cases h
    | error e' =>
      rw [hr] at h
      cases h
      exact Cookie.Provider.provision_isCookie hr

theorem listen_error {config : ServerConfig} {net : Binding} {registry : Registry} {cookie : Option Cookie}
    {fs : FileSystem} {e : StartupError} (h : (listen config net registry cookie fs).2 = .error e) :
    ∃ fault, e = .bind config.address fault := by
  unfold listen at h
  split at h
  · next fault _ => cases h; exact ⟨fault, rfl⟩
  · split at h
    · next fault _ => cases h; exact ⟨fault, rfl⟩
    · cases h

theorem prepare_of_failsFirst {config : ServerConfig} {fs : FileSystem} {e : AuthError}
    (h : FailsFirst (Directive.entries fs) config.auth.directives e) (secret : Vector UInt8 32) (disk : Disk) :
    prepare config secret fs disk = (fs, .error (.auth e)) := by
  unfold prepare
  rw [(Registry.build_eq_error_iff _ _ _ e).2 h]

theorem start_of_failsFirst {config : ServerConfig} {fs : FileSystem} {e : AuthError}
    (h : FailsFirst (Directive.entries fs) config.auth.directives e) (secret : Vector UInt8 32) (net : Binding)
    (disk : Disk) : start config secret net fs disk = (fs, .error (.auth e)) := by
  unfold start
  rw [prepare_of_failsFirst h secret disk]

theorem prepare_error_of_read {config : ServerConfig} {secret : Vector UInt8 32} {fs : FileSystem} {disk : Disk}
    {e : StartupError} (hok : ∀ d ∈ config.auth.directives, ∃ es, d.entries fs = .ok es)
    (h : (prepare config secret fs disk).2 = .error e) : ∃ e', e = .auth e' ∧ e'.isCookie := by
  unfold prepare at h
  split at h
  · next e' hb =>
    obtain ⟨d, hd, e'', he⟩ := (exists_failsFirst_iff _).1 ⟨e', (Registry.build_eq_error_iff _ _ _ e').1 hb⟩
    obtain ⟨es, hes⟩ := hok d hd
    rw [hes] at he
    cases he
  · split at h
    · next fs' e' hp =>
      cases h
      exact ⟨e', rfl, provisionCookie_isCookie (congrArg Prod.snd hp)⟩
    · cases h

/-- A start whose credentials can be read fails by the cookie or the listener, if at all. -/
theorem start_error_of_read {config : ServerConfig} {secret : Vector UInt8 32} {net : Binding} {fs : FileSystem}
    {disk : Disk} {e : StartupError} (hok : ∀ d ∈ config.auth.directives, ∃ es, d.entries fs = .ok es)
    (h : (start config secret net fs disk).2 = .error e) :
    (∃ e', e = .auth e' ∧ e'.isCookie) ∨ ∃ fault, e = .bind config.address fault := by
  unfold start at h
  split at h
  · next fs' e' hp =>
    cases h
    exact .inl (prepare_error_of_read hok (congrArg Prod.snd hp))
  · exact .inr (listen_error h)

/-- A directive that cannot be read, wherever it stands, stops the start with the error of the first
one, which is of the class of malformed credentials, and no file changes. Without one, no error of a
start is of that class. -/
theorem start_fails_closed (address : SocketAddress) (datadir : Path) (settings : Settings) (config : ServerConfig)
    (h : ServerConfig.ofSettings address datadir settings = .ok config) (secret : Vector UInt8 32) (net : Binding)
    (fs : FileSystem) (disk : Disk) :
    (∀ d : Directive, (∃ e, d.entries fs = .error e) ↔ d.Malformed fs) ∧
      ((∃ d ∈ AuthOptions.directivesOf settings datadir, d.Malformed fs) →
        ∃ before d after e, AuthOptions.directivesOf settings datadir = before ++ d :: after ∧
          (∀ x ∈ before, ¬ x.Malformed fs) ∧ d.entries fs = .error e ∧
          start config secret net fs disk = (fs, .error (.auth e)) ∧
          (StartupError.auth e).isCredential = true ∧ (StartupError.auth e).isCookie = false) ∧
      ((∀ d ∈ AuthOptions.directivesOf settings datadir, ¬ d.Malformed fs) →
        ∀ e, (start config secret net fs disk).2 = .error e → e.isCredential = false) := by
  have hd := ServerConfig.directives_of_ofSettings h
  refine ⟨Directive.malformed_iff fs, ?_, ?_⟩
  · intro hbad
    obtain ⟨d, hm, hbad⟩ := hbad
    obtain ⟨e, hfirst⟩ := (exists_failsFirst_iff _).2 ⟨d, hm, (Directive.malformed_iff fs d).2 hbad⟩
    have hstart := start_of_failsFirst (hd.symm ▸ hfirst : FailsFirst _ config.auth.directives e) secret net disk
    obtain ⟨before, d, after, hs, hb, he⟩ := hfirst
    have hc := Directive.isCredential_of_entries he
    refine ⟨before, d, after, e, hs, ?_, he, hstart, hc, AuthError.not_isCookie_of_isCredential hc⟩
    intro x hx hbad
    obtain ⟨es, hes⟩ := hb x hx
    obtain ⟨e', he'⟩ := (Directive.malformed_iff fs x).2 hbad
    rw [hes] at he'
    cases he'
  · intro hok e he
    have hread : ∀ d ∈ config.auth.directives, ∃ es, d.entries fs = .ok es := by
      intro d hm
      rw [hd] at hm
      cases hes : d.entries fs with
      | ok es => exact ⟨es, rfl⟩
      | error e' => exact absurd ((Directive.malformed_iff fs d).1 ⟨e', hes⟩) (hok d hm)
    rcases start_error_of_read hread he with ⟨e', rfl, hc⟩ | ⟨fault, rfl⟩
    · exact AuthError.not_isCredential_of_isCookie hc
    · rfl

/-- A bad value behind a later clear, before a file that is missing too. -/
theorem start_fails_closed_behind_clear :
    let given (name : Text) (value : Value) : Setting := ⟨name, value, .configFile⟩
    let settings := [given AuthOptions.rpcauth (.set (Entry.sample 'a').encode), given AuthOptions.rpcauth (.set ['b', ':', 'c']),
      given AuthOptions.rpcauth .negated, given AuthOptions.rpcauthfile (.set ['d'])]
    let config : ServerConfig := ⟨⟨.loopback, 8332, 0⟩, ⟨AuthOptions.directivesOf settings ['/'], none,
      some ⟨"/.cookie".toList, .ownerOnly⟩, ⟨[], false⟩⟩⟩
    let net : Binding := ⟨.ok (), .ok config.address⟩
    ServerConfig.ofSettings config.address ['/'] settings = .ok config ∧
      start config (Vector.replicate 32 0) net (FileSystem.empty 0) =
        (FileSystem.empty 0, .error (.auth (.malformed .dollarCount))) := by
  intro given settings config net
  have hc : ServerConfig.ofSettings config.address ['/'] settings = .ok config := by decide +kernel
  have hm : ∃ d ∈ AuthOptions.directivesOf settings ['/'], d.Malformed (FileSystem.empty 0) :=
    ⟨.addInline ['b', ':', 'c'], by decide, .value (by decide) rfl⟩
  obtain ⟨before, d, after, e, -, -, -, hs, -, -⟩ :=
    (start_fails_closed config.address ['/'] settings config hc (Vector.replicate 32 0) net (FileSystem.empty 0)
      .sound).2.1 hm
  have he : (start config (Vector.replicate 32 0) net (FileSystem.empty 0)).2 =
      .error (.auth (.malformed .dollarCount)) := by rfl
  rw [hs] at he ⊢
  exact ⟨hc, by rw [← he]⟩

end Server

end RpcGate
