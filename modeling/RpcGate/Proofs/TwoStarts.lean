import RpcGate.Proofs.MethodAccess
import RpcGate.Proofs.Presentable
import RpcGate.Proofs.Veiled

/-!
# Two starts with other secrets

From settings that differ in the values of secrets alone, two starts go through
the same stages with the same errors (`Server.startFrom_veils`). The errors that
one of them may end with alone are named by `AuthError.Apart`. That a start has
a plain pair and the other one does not is a difference too: only the other one
can fail by its cookie (`Server.not_isAboutCookie_of_pair`).
-/

namespace RpcGate

/-! ## Settings with other secrets -/

theorem Setting.Veils.eq {x x' : Setting} (h : Veils x x') (hn : x.name ∉ secretNames) : x' = x := by
  obtain ⟨hname, hsource, hvalue⟩ := h
  cases x
  cases x'
  cases hname
  cases hsource
  cases hvalue hn
  rfl

section
variable {s s' : Settings} {name : Text} {x x' : Setting} {datadir : Path}

theorem Settings.Veils.named_eq (h : Veils s s') (hn : name ∉ secretNames) : named s' name = named s name := by
  unfold named
  induction h with
  | nil => rfl
  | @cons x x' _ _ hx _ ih =>
    by_cases hname : x.name = name
    · rw [hx.eq (hname ▸ hn), List.filter_cons, List.filter_cons, ih]
    · have hname' : x'.name ≠ name := hx.name ▸ hname
      rw [List.filter_cons_of_neg (by simpa using hname'), List.filter_cons_of_neg (by simpa using hname), ih]

theorem Settings.Veils.last?_eq (h : Veils s s') (hn : name ∉ secretNames) : last? s' name = last? s name := by
  rw [last?, last?, h.named_eq hn]

theorem Settings.Veils.ensureKnown_eq (h : Veils s s') (known : List Text) :
    ensureKnown s' known = ensureKnown s known := by
  unfold ensureKnown
  induction h with
  | nil => rfl
  | @cons x x' _ _ hx _ ih =>
    cases hknown : known.contains x.name with
    | true => simpa only [List.find?_cons, hx.name, hknown, Bool.not_true] using ih
    | false => simp only [List.find?_cons, hx.name, hx.source, hknown, Bool.not_false]

/-- The same directive, or two that read no file. -/
inductive Directive.Veils : Directive → Directive → Prop
  | same (d : Directive) : Veils d d
  | inline {d d' : Directive} (h : ∀ path, d ≠ .addFile path) (h' : ∀ path, d' ≠ .addFile path) : Veils d d'

namespace AuthOptions

theorem directive?_veils (datadir : Path) :
    Relator.LiftFun Setting.Veils (Option.Rel Directive.Veils) (directive? datadir) (directive? datadir) := by
  intro x x' h
  by_cases hauth : x.name = rpcauth
  · have inline (x : Setting) (hname : x.name = rpcauth) :
        ∃ d, directive? datadir x = some d ∧ ∀ path, d ≠ .addFile path := by
      rw [directive?, if_pos hname]
      cases x.value with
      | bare => exact ⟨_, rfl, by simp⟩
      | set v => exact ⟨_, rfl, by simp⟩
      | negated => exact ⟨_, rfl, by simp⟩
    obtain ⟨d, hd, hinline⟩ := inline x hauth
    obtain ⟨d', hd', hinline'⟩ := inline x' (h.name.trans hauth)
    rw [hd, hd']
    exact .some (.inline hinline hinline')
  · by_cases hpassword : x.name = rpcpassword
    · have none (x : Setting) (hname : x.name = rpcpassword) : directive? datadir x = none := by
        rw [directive?, if_neg (by rw [hname]; decide), if_neg (by rw [hname]; decide)]
      rw [none x hpassword, none x' (h.name.trans hpassword)]
      exact .none
    · rw [h.eq (by simp [secretNames, hauth, hpassword])]
      cases directive? datadir x with
      | none => exact .none
      | some d => exact .some (.same d)

theorem directivesOf_veils (h : s.Veils s') (datadir : Path) :
    List.Forall₂ Directive.Veils (directivesOf s datadir) (directivesOf s' datadir) :=
  List.rel_filterMap (directive?_veils datadir) h

theorem cookieOf_veils (h : s.Veils s') (hp : (legacyOf s').isSome = (legacyOf s).isSome) :
    cookieOf s' datadir = cookieOf s datadir := by
  have hfile := h.last?_eq (show rpccookiefile ∉ secretNames by decide)
  have hperms := h.last?_eq (show rpccookieperms ∉ secretNames by decide)
  simp only [cookieOf, cookiePath?, cookiePermissions, hp, hfile, hperms]

end AuthOptions

end

/-! ## Errors that one run ends with alone -/

inductive AuthError.Kind
  | malformed (reason : EntryFault)
  | malformedLine (reason : EntryFault)
  | unreadableFile
  | cookieNotWritten
  | cookieMode
  | badPermissions
  | badWhitelist
  deriving DecidableEq

def AuthError.kind : AuthError → Kind
  | malformed fault => .malformed fault
  | malformedLine _ _ fault => .malformedLine fault
  | unreadableFile .. => .unreadableFile
  | cookieNotWritten .. => .cookieNotWritten
  | cookieMode .. => .cookieMode
  | badPermissions _ => .badPermissions
  | badWhitelist _ => .badWhitelist

def AuthError.Kind.isAboutCookie : Kind → Bool
  | cookieNotWritten | cookieMode | badPermissions => true
  | malformed _ | malformedLine _ | unreadableFile | badWhitelist => false

abbrev AuthError.isAboutCookie (e : AuthError) : Bool := e.kind.isAboutCookie

/-- Errors that may stop a run while another one with other secrets goes on: an entry that cannot be
read, of which only the reason is told; a line of the config file read for an entry; and, if only one
of the runs has a plain pair, what is wrong with the cookie of the other one. -/
inductive AuthError.Apart (fs : FileSystem) (conf : Path) (onePair : Prop) : AuthError → Prop
  | credential (fault : EntryFault) : Apart fs conf onePair (.malformed fault)
  | line {path : Path} (h : fs.locate .reach path = fs.locate .reach conf) (line : Nat) (fault : EntryFault) :
    Apart fs conf onePair (.malformedLine path line fault)
  | cookie {e : AuthError} (hp : onePair) (h : e.isAboutCookie) : Apart fs conf onePair e

def StartupError.Apart (fs : FileSystem) (conf : Path) (onePair : Prop) : StartupError → Prop
  | auth e => e.Apart fs conf onePair
  | settings _ | bind .. => False

section
variable {fs fs' files files' : FileSystem} {conf datadir : Path} {onePair : Prop} {s s' : Settings}

theorem StartupError.apart_auth {α β : Type} {R : α → β → Prop} {x : Except AuthError α} {y : Except AuthError β}
    (h : EndAlike (AuthError.Apart fs conf onePair) R x y) :
    EndAlike (StartupError.Apart fs conf onePair) R (x.mapError .auth) (y.mapError .auth) :=
  h.mapError StartupError.auth fun _ he => he

theorem Entry.ofContents_eq_error {path : Path} {contents : Text} {e : AuthError}
    (h : ofContents path contents = .error e) : ∃ line fault, e = .malformedLine path line fault := by
  obtain ⟨_, line, _, -, -, he⟩ := ofContents_eq_error_iff.1 h
  obtain ⟨-, fault, -, he⟩ := ofLine_eq_error_iff.1 he
  exact ⟨line.1, fault, he⟩

theorem Directive.eq_malformed_of_inline {d : Directive} {e : AuthError} (hd : ∀ path, d ≠ .addFile path)
    (h : d.entries fs = .error e) : ∃ fault, e = .malformed fault := by
  rcases entries_error_cases h with ⟨_, fault, -, -, -, he⟩ | ⟨path, _, rfl, -⟩ | ⟨path, _, _, _, rfl, -⟩
  · exact ⟨fault, he⟩
  · exact absurd rfl (hd path)
  · exact absurd rfl (hd path)

theorem Directive.entries_veils (hf : fs.Veils conf fs') {d d' : Directive} (h : Veils d d') :
    EndAlike (AuthError.Apart fs conf onePair) (fun _ _ => True) (d.entries fs) (d'.entries fs') := by
  cases h with
  | inline hd hd' =>
    refine .of_alone (fun e he => ?_) (fun e he => ?_) fun _ _ => trivial
    · obtain ⟨fault, rfl⟩ := eq_malformed_of_inline hd he
      exact .credential fault
    · obtain ⟨fault, rfl⟩ := eq_malformed_of_inline hd' he
      exact .credential fault
  | same => cases d with
    | addInline raw => exact .refl (fun _ => trivial) ((addInline raw).entries fs)
    | clear => exact .ok trivial
    | reEnable => exact .ok trivial
    | addFile path =>
      by_cases hp : path = []
      · subst hp
        exact .ok trivial
      · rw [entries_addFile fs hp, entries_addFile fs' hp]
        rcases hf.readText_cases path with heq | ⟨hl, text, text', ht, ht', -⟩
        · rw [heq]
          exact .refl (fun _ => trivial) _
        · rw [ht, ht']
          refine .of_alone (fun e he => ?_) (fun e he => ?_) fun _ _ => trivial
          · obtain ⟨line, fault, rfl⟩ := Entry.ofContents_eq_error he
            exact .line hl line fault
          · obtain ⟨line, fault, rfl⟩ := Entry.ofContents_eq_error he
            exact .line hl line fault

theorem Registry.build_veils (hf : fs.Veils conf fs') {ds ds' : List Directive} (h : List.Forall₂ Directive.Veils ds ds')
    (legacy legacy' : Option LegacyPair) :
    EndAlike (AuthError.Apart fs conf onePair) (fun _ _ => True) (build fs ds legacy) (build fs' ds' legacy') := by
  have hentries : EndAlike (AuthError.Apart fs conf onePair) (List.Forall₂ fun _ _ => True)
      (ds.mapM (Directive.entries fs)) (ds'.mapM (Directive.entries fs')) :=
    .mapM h fun _ _ => Directive.entries_veils hf
  refine hentries.congr_errors (fun e => ?_) (fun e => ?_)
  · rw [build_eq_error_iff, mapM_eq_error_iff]
  · rw [build_eq_error_iff, mapM_eq_error_iff]

theorem Server.listen_veils {c c' : ServerConfig} (h : c'.address = c.address) (net : Binding) (r r' : Registry)
    (cookie cookie' : Option Cookie) :
    EndAlike (StartupError.Apart fs conf onePair) (fun _ _ => True) (listen c net r cookie files).2
      (listen c' net r' cookie' files').2 := by
  unfold listen
  rw [h]
  cases net.bound with
  | error fault => exact .error _
  | ok _ => cases net.address with
    | error fault => exact .error _
    | ok address => exact .ok trivial

theorem AuthError.isAboutCookie_of_isCookie {e : AuthError} (h : e.isCookie) : e.isAboutCookie := by
  cases e with
  | cookieNotWritten => rfl
  | cookieMode => rfl
  | malformed => cases h
  | malformedLine => cases h
  | unreadableFile => cases h
  | badPermissions => cases h
  | badWhitelist => cases h

/-- Only one of the two has a plain pair. -/
def Settings.OnePair (s s' : Settings) : Prop :=
  (AuthOptions.legacyOf s').isSome ≠ (AuthOptions.legacyOf s).isSome

theorem AuthOptions.cookieOf_alike (h : s.Veils s') (datadir : Path) :
    EndAlike (AuthError.Apart fs conf (s.OnePair s')) (fun c c' => s.OnePair s' ∨ c' = c) (cookieOf s datadir)
      (cookieOf s' datadir) := by
  by_cases hp : s.OnePair s'
  · refine .of_alone (fun e he => ?_) (fun e he => ?_) fun _ _ => .inl hp
    · obtain ⟨v, rfl⟩ := cookiePermissions_eq_error (cookieOf_eq_error he)
      exact .cookie hp rfl
    · obtain ⟨v, rfl⟩ := cookiePermissions_eq_error (cookieOf_eq_error he)
      exact .cookie hp rfl
  · rw [cookieOf_veils h (not_not.1 hp)]
    exact .refl (fun _ => .inr rfl) _

/-- The same address, directives that add the same files, and the same cookie unless only one has a plain pair. -/
structure ServerConfig.Veils (onePair : Prop) (c c' : ServerConfig) : Prop where
  address : c'.address = c.address
  directives : List.Forall₂ Directive.Veils c.auth.directives c'.auth.directives
  cookie : onePair ∨ c'.auth.cookie = c.auth.cookie

theorem AuthOptions.ofSettings_veils (h : s.Veils s') (datadir : Path) :
    EndAlike (AuthError.Apart fs conf (s.OnePair s'))
      (fun o o' => List.Forall₂ Directive.Veils o.directives o'.directives ∧ (s.OnePair s' ∨ o'.cookie = o.cookie))
      (ofSettings s datadir) (ofSettings s' datadir) := by
  have hlist : s'.list rpcwhitelist = s.list rpcwhitelist := by
    rw [Settings.list, Settings.list, h.named_eq (by decide)]
  have hswitch : s'.switch? rpcwhitelistdefault = s.switch? rpcwhitelistdefault := by
    rw [Settings.switch?, Settings.switch?, h.last?_eq (by decide)]
  refine (cookieOf_alike h datadir).bind fun c c' hc => ?_
  rw [hlist, hswitch]
  refine (EndAlike.refl (fun _ => rfl) _).bind fun w w' _ => ?_
  exact .ok ⟨directivesOf_veils h datadir, hc⟩

theorem ServerConfig.ofSettings_eq (address : SocketAddress) (datadir : Path) (s : Settings) :
    ofSettings address datadir s = (s.ensureKnown AuthOptions.knownNames).mapError .settings >>= fun _ =>
      (AuthOptions.ofSettings s datadir).mapError .auth >>= fun auth => .ok ⟨address, auth⟩ := by
  unfold ofSettings
  cases s.ensureKnown AuthOptions.knownNames with
  | error e => rfl
  | ok _ => cases AuthOptions.ofSettings s datadir with
    | error e => rfl
    | ok auth => rfl

theorem ServerConfig.ofSettings_veils (h : s.Veils s') (address : SocketAddress) (datadir : Path) :
    EndAlike (StartupError.Apart fs conf (s.OnePair s')) (ServerConfig.Veils (s.OnePair s'))
      (ofSettings address datadir s) (ofSettings address datadir s') := by
  rw [ofSettings_eq, ofSettings_eq, h.ensureKnown_eq]
  refine (EndAlike.refl (fun _ => rfl) _).bind fun _ _ _ => ?_
  refine (StartupError.apart_auth (AuthOptions.ofSettings_veils h datadir)).bind fun o o' ho => ?_
  exact .ok ⟨rfl, ho.1, ho.2⟩

theorem Server.start_result (config : ServerConfig) (secret : Vector UInt8 32) (net : Binding) (fs : FileSystem) (disk : Disk) :
    (start config secret net fs disk).2 = (Registry.build fs config.auth.directives config.auth.legacy).mapError .auth >>=
      fun registry => (provisionCookie config.auth.cookie secret fs disk).2.mapError .auth >>= fun cookie =>
        (listen config net registry cookie (provisionCookie config.auth.cookie secret fs disk).1).2 := by
  unfold start prepare
  cases Registry.build fs config.auth.directives config.auth.legacy with
  | error e => rfl
  | ok registry =>
    generalize provisionCookie config.auth.cookie secret fs disk = p
    obtain ⟨files, cookie⟩ := p
    cases cookie with
    | error e => rfl
    | ok cookie => rfl

theorem Server.start_veils (hf : fs.Veils conf fs') {c c' : ServerConfig} (h : c.Veils onePair c')
    (secret secret' : Vector UInt8 32) (net : Binding) (disk : Disk) :
    EndAlike (StartupError.Apart fs conf onePair) (fun _ _ => True) (start c secret net fs disk).2
      (start c' secret' net fs' disk).2 := by
  have hcookie : EndAlike (AuthError.Apart fs conf onePair) (fun _ _ => True)
      (provisionCookie c.auth.cookie secret fs disk).2 (provisionCookie c'.auth.cookie secret' fs' disk).2 := by
    rcases h.cookie with hp | heq
    · refine .of_alone (fun e he => ?_) (fun e he => ?_) fun _ _ => trivial
      · exact .cookie hp (AuthError.isAboutCookie_of_isCookie (provisionCookie_isCookie he))
      · exact .cookie hp (AuthError.isAboutCookie_of_isCookie (provisionCookie_isCookie he))
    · rw [heq]
      exact (provisionCookie_alike hf.sameTree c.auth.cookie secret secret' disk).mono (fun _ hn => hn.elim) fun _ _ h => h
  rw [start_result, start_result]
  refine (StartupError.apart_auth (Registry.build_veils hf h.directives _ _)).bind fun r r' _ => ?_
  refine (StartupError.apart_auth hcookie).bind fun cookie cookie' _ => ?_
  exact listen_veils h.address net r r' cookie cookie'

/-- What a server does with its settings. -/
def Server.startFrom (address : SocketAddress) (datadir : Path) (s : Settings) (secret : Vector UInt8 32)
    (net : Binding) (fs : FileSystem) (disk : Disk) : Except StartupError Server := do
  let config ← ServerConfig.ofSettings address datadir s
  (start config secret net fs disk).2

theorem Server.startFrom_veils (hf : fs.Veils conf fs') (h : s.Veils s') (address : SocketAddress) (datadir : Path)
    (secret secret' : Vector UInt8 32) (net : Binding) (disk : Disk) :
    EndAlike (StartupError.Apart fs conf (s.OnePair s')) (fun _ _ => True)
      (startFrom address datadir s secret net fs disk) (startFrom address datadir s' secret' net fs' disk) :=
  (ServerConfig.ofSettings_veils h address datadir).bind fun _ _ hc => start_veils hf hc secret secret' net disk

theorem AuthError.not_isAboutCookie_of_isCredential {e : AuthError} (h : e.isCredential) : e.isAboutCookie = false := by
  cases e with
  | malformed => rfl
  | malformedLine => rfl
  | unreadableFile => rfl
  | cookieNotWritten => cases h
  | cookieMode => cases h
  | badPermissions => cases h
  | badWhitelist => cases h

/-- A plain pair takes the place of the cookie, so that nothing can be wrong with it. -/
theorem Server.not_isAboutCookie_of_pair (hp : (AuthOptions.legacyOf s).isSome) {address : SocketAddress}
    {secret : Vector UInt8 32} {net : Binding} {disk : Disk} {e : AuthError}
    (h : startFrom address datadir s secret net fs disk = .error (.auth e)) : e.isAboutCookie = false := by
  obtain ⟨pair, hpair⟩ := Option.isSome_iff_exists.1 hp
  have hcookie : AuthOptions.cookieOf s datadir = .ok none := AuthOptions.cookieOf_of_legacyOf hpair
  unfold startFrom at h
  rw [ServerConfig.ofSettings_eq] at h
  cases hknown : s.ensureKnown AuthOptions.knownNames with
  | error e' => rw [hknown] at h; cases h
  | ok _ => cases ho : AuthOptions.ofSettings s datadir with
    | error e' =>
      rw [hknown, ho] at h
      cases h
      rcases AuthOptions.ofSettings_eq_error_iff.1 ho with hc | ⟨-, hw⟩
      · rw [hcookie] at hc
        cases hc
      · obtain ⟨value, rfl⟩ := Whitelist.build_eq_error hw
        rfl
    | ok o =>
      obtain ⟨cookie, _, hc, rfl⟩ := AuthOptions.ofSettings_eq_ok ho
      rw [hcookie] at hc
      cases hc
      rw [hknown, ho] at h
      replace h : (start _ secret net fs disk).2 = .error (.auth e) := h
      rw [start_result] at h
      dsimp only at h
      cases hb : Registry.build fs (AuthOptions.directivesOf s datadir) (AuthOptions.legacyOf s) with
      | error e' =>
        rw [hb] at h
        cases h
        obtain ⟨_, d, _, -, -, hd⟩ := (Registry.build_eq_error_iff _ _ _ _).1 hb
        exact AuthError.not_isAboutCookie_of_isCredential (Directive.isCredential_of_entries hd)
      | ok registry =>
        rw [hb] at h
        obtain ⟨fault, hbind⟩ := listen_error h
        cases hbind

end

end RpcGate
