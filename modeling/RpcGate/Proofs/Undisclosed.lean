import RpcGate.Proofs.TwoStarts

/-!
# What errors show of secrets

Two starts whose inputs differ in the values of secrets alone report one error
in the same words (`launch_reports_alike`). The exceptions are the errors that
quote a whole token: a negation that is given a value other than 0 or 1, and an
override without a dash (`launch_quotes_password`). Also, a config file that is
itself read for entries can be refused at another line, for the same reason.
-/

namespace RpcGate

/-! ## Kinds and reports -/

inductive SettingsError.Kind
  | unreadable
  | malformed (reason : SettingFault)
  | unknown
  deriving DecidableEq

def SettingsError.kind : SettingsError → Kind
  | unreadable .. => .unreadable
  | malformed _ _ fault => .malformed fault
  | unknown .. => .unknown

namespace Command

namespace LoadError

inductive Kind
  | noDatadir
  | settings (kind : SettingsError.Kind)
  | auth (kind : AuthError.Kind)
  | bind
  deriving DecidableEq

/-- What is left of an error without the paths, the names and the texts that it carries: its kind, and
the reason if it gives one. -/
def kind : LoadError → Kind
  | noDatadir _ => .noDatadir
  | settings e => .settings e.kind
  | startup (.settings e) => .settings e.kind
  | startup (.auth e) => .auth e.kind
  | startup (.bind ..) => .bind

end LoadError

/-- The errors give one reason for lines of files read for entries, and one of the files is the config file. -/
def TellLines (fs : FileSystem) (conf : Path) (e e' : LoadError) : Prop :=
  ∃ path path' line line' fault, e = .startup (.auth (.malformedLine path line fault)) ∧
    e' = .startup (.auth (.malformedLine path' line' fault)) ∧
    (fs.locate .reach path = fs.locate .reach conf ∨ fs.locate .reach path' = fs.locate .reach conf)

section
variable {fs fs' : FileSystem} {conf datadir : Path} {s s' : Settings}

theorem exists_auth_of_kind {e : LoadError} {k : AuthError.Kind} (h : e.kind = .auth k) :
    ∃ a, e = .startup (.auth a) ∧ a.kind = k := by
  cases e with
  | noDatadir => cases h
  | settings => cases h
  | startup e => cases e with
    | settings => cases h
    | bind => cases h
    | auth a => exact ⟨a, rfl, LoadError.Kind.auth.inj h⟩

theorem eq_malformed_of_kind {a : AuthError} {fault : EntryFault} (h : a.kind = .malformed fault) : a = .malformed fault := by
  cases a with
  | malformed => cases h; rfl
  | malformedLine => cases h
  | unreadableFile => cases h
  | cookieNotWritten => cases h
  | cookieMode => cases h
  | badPermissions => cases h
  | badWhitelist => cases h

theorem exists_malformedLine_of_kind {a : AuthError} {fault : EntryFault} (h : a.kind = .malformedLine fault) :
    ∃ path line, a = .malformedLine path line fault := by
  cases a with
  | malformedLine path line => cases h; exact ⟨path, line, rfl⟩
  | malformed => cases h
  | unreadableFile => cases h
  | cookieNotWritten => cases h
  | cookieMode => cases h
  | badPermissions => cases h
  | badWhitelist => cases h

theorem eq_or_lines_of_apart {onePair : Prop} {a a' : AuthError} (ha : a.Apart fs conf onePair) (hk : a.kind = a'.kind)
    (hp : onePair → a.isAboutCookie = false) :
    a = a' ∨ ∃ path path' line line' fault, a = .malformedLine path line fault ∧
      a' = .malformedLine path' line' fault ∧ fs.locate .reach path = fs.locate .reach conf := by
  cases ha with
  | credential fault => exact .inl (eq_malformed_of_kind hk.symm).symm
  | @line path hl line fault =>
    obtain ⟨path', line', rfl⟩ := exists_malformedLine_of_kind hk.symm
    exact .inr ⟨path, path', line, line', fault, rfl, rfl, hl⟩
  | cookie hone hc =>
    rw [hp hone] at hc
    cases hc

theorem startFrom_reports_alike {address : SocketAddress} {secret secret' : Vector UInt8 32} {net : Binding}
    {disk : Disk} {e e' : StartupError} (hf : fs.Veils conf fs') (h : s.Veils s')
    (he : Server.startFrom address datadir s secret net fs disk = .error e)
    (he' : Server.startFrom address datadir s' secret' net fs' disk = .error e')
    (hk : (LoadError.startup e).kind = (LoadError.startup e').kind) :
    e = e' ∨ TellLines fs conf (.startup e) (.startup e') := by
  rcases (Server.startFrom_veils hf h address datadir secret secret' net disk).error_cases he he' with heq | ha
  · exact .inl heq
  · obtain ⟨a, a', rfl, rfl⟩ : ∃ a a', e = .auth a ∧ e' = .auth a' := by
      rcases ha with ha | ha
      · cases e with
        | auth a =>
          obtain ⟨a', ha', -⟩ := exists_auth_of_kind hk.symm
          exact ⟨a, a', rfl, LoadError.startup.inj ha'⟩
        | settings => exact ha.elim
        | bind => exact ha.elim
      · cases e' with
        | auth a' =>
          obtain ⟨a, ha, -⟩ := exists_auth_of_kind hk
          exact ⟨a, a', LoadError.startup.inj ha, rfl⟩
        | settings => exact ha.elim
        | bind => exact ha.elim
    have hk : a.kind = a'.kind := LoadError.Kind.auth.inj hk
    -- of two runs of which only one has a cookie, not both can fail by it
    have hcookie : s.OnePair s' → a.isAboutCookie = false := by
      intro hp
      cases hs : (AuthOptions.legacyOf s).isSome with
      | true => exact Server.not_isAboutCookie_of_pair hs he
      | false =>
        rw [Settings.OnePair, hs, ne_eq, Bool.not_eq_false] at hp
        rw [AuthError.isAboutCookie, hk]
        exact Server.not_isAboutCookie_of_pair hp he'
    rcases ha with ha | ha
    · rcases eq_or_lines_of_apart ha hk hcookie with rfl | ⟨path, path', line, line', fault, rfl, rfl, hl⟩
      · exact .inl rfl
      · exact .inr ⟨path, path', line, line', fault, rfl, rfl, .inl hl⟩
    · have hcookie' : s.OnePair s' → a'.isAboutCookie = false := by
        rw [AuthError.isAboutCookie, ← hk]
        exact hcookie
      rcases eq_or_lines_of_apart ha hk.symm hcookie' with rfl | ⟨path', path, line', line, fault, rfl, rfl, hl⟩
      · exact .inl rfl
      · exact .inr ⟨path, path', line, line', fault, rfl, rfl, .inr hl⟩

end

theorem exists_of_mapError_eq_error {ε ε' α : Type} {f : ε → ε'} {x : Except ε α} {e : ε'} (h : x.mapError f = .error e) :
    ∃ e₀, x = .error e₀ ∧ e = f e₀ := by
  cases x with
  | ok a => cases h
  | error e₀ => exact ⟨e₀, rfl, (Except.error.inj h).symm⟩

/-- Loads the configuration of a server and starts it. -/
def launch (args : ServeArgs) (secret : Vector UInt8 32) (net : Binding) (fs : FileSystem) (disk : Disk) :
    Except LoadError Server := do
  let config ← load args fs
  (Server.start config secret net fs disk).2.mapError .startup

theorem launch_eq (args : ServeArgs) (secret : Vector UInt8 32) (net : Binding) (fs : FileSystem) (disk : Disk) :
    launch args secret net fs disk = settingsOf args fs >>= fun s =>
      (Server.startFrom args.address args.datadir s secret net fs disk).mapError .startup := by
  unfold launch
  rw [load_eq]
  cases settingsOf args fs with
  | error e => rfl
  | ok s =>
    unfold Server.startFrom
    simp only [bind, Except.bind]
    cases ServerConfig.ofSettings args.address args.datadir s with
    | error e => rfl
    | ok config => rfl

/-- Two starts whose inputs are the same but for the values of secrets, in the config file and in the
overrides. Where they fail with one kind of error for one reason, what is reported is the same, unless
one of the errors quotes a refused token whole, or tells which line of the config file is no entry. -/
theorem launch_reports_alike (args : ServeArgs) (overrides : List Text) (fs fs' : FileSystem)
    (ho : List.Forall₂ (Veiled Setting.dashless) args.overrides overrides) (hf : fs.Veils args.conf fs')
    (secret secret' : Vector UInt8 32) (net : Binding) (disk : Disk) (e e' : LoadError)
    (he : launch args secret net fs disk = .error e)
    (he' : launch { args with overrides := overrides } secret' net fs' disk = .error e') (hk : e.kind = e'.kind) :
    e.report = e'.report ∨ (e.QuotesSecret ∨ e'.QuotesSecret) ∨ TellLines fs args.conf e e' := by
  rw [launch_eq] at he he'
  have hs := settingsOf_veiled ho hf
  generalize settingsOf args fs = x, settingsOf { args with overrides := overrides } fs' = y at hs he he'
  cases hs with
  | error _ =>
    cases he
    cases he'
    exact .inl rfl
  | left hquotes _ =>
    cases he
    exact .inr (.inl (.inl hquotes))
  | right hquotes _ =>
    cases he'
    exact .inr (.inl (.inr hquotes))
  | @ok s s' hs =>
    obtain ⟨e, hx, rfl⟩ := exists_of_mapError_eq_error he
    obtain ⟨e', hy, rfl⟩ := exists_of_mapError_eq_error he'
    rcases startFrom_reports_alike hf hs hx hy hk with heq | hlines
    · exact .inl (congrArg (fun e => (LoadError.startup e).report) heq)
    · exact .inr (.inr hlines)

theorem isDirectory_shelf (contents : Text) : (shelf contents).isDirectory ['/'] = true := by
  have hl : (shelf contents).locate .reach ['/'] = .ok [] := by
    refine FileSystem.locate_eq_ok_iff.2 ⟨by decide, ?_⟩
    exact .slash rfl (.done _ _)
  rw [FileSystem.isDirectory, FileSystem.stat_of_reach hl rfl]
  rfl

theorem veils_shelf {contents contents' : Text}
    (h : List.Forall₂ (Veiled id) (Text.lines contents) (Text.lines contents')) :
    (shelf contents).Veils "/users".toList (shelf contents') := by
  refine .config (FileSystem.stat_of_reach (locate_shelf contents .reach) rfl) rfl (fun other hne => ?_) rfl rfl h
  rw [shelf, shelf, FileSystem.node?_insert, FileSystem.node?_insert, if_neg hne, if_neg hne]

/-- A server whose config file is the one of a shelf. -/
def shelfArgs (overrides : List Text) : ServeArgs := ⟨['/'], "/users".toList, true, ⟨.loopback, 8332, 0⟩, overrides⟩

theorem settingsOf_shelf (overrides : List Text) (contents : Text) : settingsOf (shelfArgs overrides) (shelf contents) = do
    let config ← (Settings.parseConfig contents "/users".toList).mapError .settings
    let given ← (Settings.parseOverrides overrides).mapError .settings
    return config ++ given := by
  have hdatadir : (shelf contents).isDirectory (shelfArgs overrides).datadir = true := isDirectory_shelf contents
  have hconf : (shelf contents).readText (shelfArgs overrides).conf = .ok contents := readText_shelf contents
  rw [settingsOf, Settings.loadConfig, hdatadir, hconf]
  rfl

/-- A password in the config file and an entry among the overrides, neither of which shows in the report. -/
theorem launch_reports_alike_entry :
    let password (v : Text) : Text := "rpcpassword=".toList ++ v
    let entry (v : Text) : Text := "-rpcauth=".toList ++ v
    let net : Binding := ⟨.ok (), .ok ⟨.loopback, 8332, 0⟩⟩
    let args := shelfArgs [entry "a:salt$pepper".toList]
    let args' := { args with overrides := [entry "b:s$tea".toList] }
    let fs := shelf (password "sesame".toList)
    let fs' := shelf (password "s".toList)
    List.Forall₂ (Veiled Setting.dashless) args.overrides args'.overrides ∧ fs.Veils args.conf fs' ∧
      ∃ e e', launch args (Vector.replicate 32 0) net fs .sound = .error e ∧
        launch args' (Vector.replicate 32 1) net fs' .sound = .error e' ∧ e.kind = e'.kind ∧ e.report = e'.report := by
  intro password entry net args args' fs fs'
  have ho : List.Forall₂ (Veiled Setting.dashless) args.overrides args'.overrides :=
    .cons (@Veiled.secret Setting.dashless "-rpcauth".toList (by decide) (by decide) _ _) .nil
  have hf : fs.Veils args.conf fs' :=
    veils_shelf (.cons (@Veiled.secret id AuthOptions.rpcpassword (by decide) (by decide) _ _) .nil)
  have he : launch args (Vector.replicate 32 0) net fs .sound = .error (.startup (.auth (.malformed .badHash))) := by
    rw [launch_eq, settingsOf_shelf]
    rfl
  have he' : launch (shelfArgs args'.overrides) (Vector.replicate 32 1) net fs' .sound =
      .error (.startup (.auth (.malformed .badHash))) := by
    rw [launch_eq, settingsOf_shelf]
    rfl
  refine ⟨ho, hf, _, _, he, he', rfl, ?_⟩
  rcases launch_reports_alike args _ _ _ ho hf _ _ net .sound _ _ he he' rfl with h | (h | h) | ⟨_, _, _, _, _, h, -⟩
  · exact h
  · exact h.elim
  · exact h.elim
  · cases h

/-- A value that negates nothing is quoted with the name. -/
theorem launch_quotes_password :
    let token (v : Text) : Text := "norpcpassword=".toList ++ v
    let net : Binding := ⟨.ok (), .ok ⟨.loopback, 8332, 0⟩⟩
    let e (v : Text) : LoadError := .settings (.malformed "command line".toList (token v) .badNegation)
    let ended (v : Text) := launch (shelfArgs ['-' :: token v]) (Vector.replicate 32 0) net (shelf []) .sound
    List.Forall₂ (Veiled Setting.dashless) ['-' :: token "hunter2".toList] ['-' :: token "s3cret".toList] ∧
      ended "hunter2".toList = .error (e "hunter2".toList) ∧ ended "s3cret".toList = .error (e "s3cret".toList) ∧
      (e "hunter2".toList).kind = (e "s3cret".toList).kind ∧
      (e "hunter2".toList).report.message =
        "command line: invalid setting \"norpcpassword=hunter2\": negated setting only accepts 0 or 1".toList ∧
      (e "s3cret".toList).report.message ≠ (e "hunter2".toList).report.message := by
  intro token net e ended
  have hended (v : Text) (h : Settings.parseOverrides ['-' :: token v] =
      .error (.malformed "command line".toList (token v) .badNegation)) : ended v = .error (e v) := by
    simp only [ended, launch_eq, settingsOf_shelf, h]
    rfl
  have hveiled : Veiled Setting.dashless ('-' :: token "hunter2".toList) ('-' :: token "s3cret".toList) :=
    @Veiled.secret Setting.dashless "-norpcpassword".toList (by decide) (by decide) _ _
  refine ⟨.cons hveiled .nil, hended _ rfl, hended _ rfl, rfl, ?_, ?_⟩
  · decide
  · decide

end Command

end RpcGate
