import Mathlib.Data.List.DropRight
import RpcGate.Proofs.FailClosed

/-!
# What the options take from the settings

Settings of three kinds are read from one list: those about credentials, in
their order; scalars, by the last value; and the whitelist, from its last
negation on. Lists that agree in these give the same options, or the same error
(`ofSettings_projections`).
-/

namespace RpcGate

namespace Settings

/-! ## Three projections -/

def scalarNames : List Text :=
  [AuthOptions.rpcuser, AuthOptions.rpcpassword, AuthOptions.rpccookiefile, AuthOptions.rpccookieperms,
    AuthOptions.rpcwhitelistdefault]

def isCredential (x : Setting) : Bool := x.name = AuthOptions.rpcauth || x.name = AuthOptions.rpcauthfile

/-- The settings about credentials, without where they come from. -/
def credentials (s : Settings) : List (Text × Value) := (s.filter isCredential).map fun x => (x.name, x.value)

def content? : Value → Option Text
  | .set v => if v = [] then none else some v
  | _ => none

/-- The texts given for a list after its last negation. -/
def sinceNegation (s : Settings) (name : Text) : List Text :=
  (((named s name).map Setting.value).rtakeWhile (· ≠ .negated)).filterMap content?

/-- The same by the three projections. -/
structure Agree (s s' : Settings) : Prop where
  credentials : credentials s = credentials s'
  scalars : ∀ name ∈ scalarNames, last? s name = last? s' name
  whitelist : sinceNegation s AuthOptions.rpcwhitelist = sinceNegation s' AuthOptions.rpcwhitelist

section
variable {s s' config config' overrides before after : Settings} {x y : Setting} {name other : Text}

theorem list_eq (s : Settings) (name : Text) : list s name = sinceNegation s name := by
  unfold list sinceNegation
  induction named s name using List.reverseRecOn with
  | nil => rfl
  | append_singleton xs x ih =>
    rw [List.foldl_append, List.map_append, List.map_singleton, List.rtakeWhile_concat, ih]
    cases hv : x.value with
    | bare => simp [hv, extendList, content?]
    | negated => simp [hv, extendList]
    | set v => by_cases h : v = [] <;> simp [hv, h, extendList, content?]

/-! ## Settings that do not count -/

theorem filter_swap {p : Setting → Bool} (h : ¬ (p x ∧ p y)) (before after : Settings) :
    (before ++ x :: y :: after).filter p = (before ++ y :: x :: after).filter p := by
  cases hx : p x with
  | false => simp [hx, List.filter_append, List.filter_cons]
  | true =>
    have hy : p y = false := by simpa [hx] using h
    simp [hy, List.filter_append, List.filter_cons]

theorem named_swap (h : x.name ≠ y.name) (before after : Settings) (name : Text) :
    named (before ++ x :: y :: after) name = named (before ++ y :: x :: after) name := by
  refine filter_swap (fun hxy => ?_) before after
  simp only [decide_eq_true_eq] at hxy
  exact h (hxy.1.trans hxy.2.symm)

theorem agree_swap (h : x.name ≠ y.name) (hc : ¬ (isCredential x ∧ isCredential y)) (before after : Settings) :
    Agree (before ++ x :: y :: after) (before ++ y :: x :: after) where
  credentials := by rw [Settings.credentials, filter_swap hc, Settings.credentials]
  scalars name _ := by rw [last?, named_swap h, last?]
  whitelist := by rw [sinceNegation, named_swap h, sinceNegation]

/-- Lists that are the same but for one name have the same settings of every other kind. -/
theorem filter_eq_of_others (h : config.filter (·.name ≠ name) = config'.filter (·.name ≠ name))
    {p : Setting → Bool} (hp : ∀ x, p x → x.name ≠ name) : config.filter p = config'.filter p := by
  have absorb (s : Settings) : (s.filter (·.name ≠ name)).filter p = s.filter p := by
    rw [List.filter_filter]
    refine List.filter_congr fun x _ => ?_
    cases hx : p x with
    | false => rfl
    | true => simp [hp x hx]
  rw [← absorb config, h, absorb config']

theorem named_eq_of_others (h : config.filter (·.name ≠ name) = config'.filter (·.name ≠ name)) (ho : other ≠ name) :
    named config other = named config' other := by
  refine filter_eq_of_others h fun x hx => ?_
  simp only [decide_eq_true_eq] at hx
  rwa [hx]

theorem filter_isCredential_eq_of_others (h : config.filter (·.name ≠ name) = config'.filter (·.name ≠ name))
    (hauth : AuthOptions.rpcauth ≠ name) (hfile : AuthOptions.rpcauthfile ≠ name) :
    config.filter isCredential = config'.filter isCredential := by
  refine filter_eq_of_others h fun x hx => ?_
  simp only [isCredential, Bool.or_eq_true, decide_eq_true_eq] at hx
  rcases hx with hx | hx
  · rw [hx]; exact hauth
  · rw [hx]; exact hfile

theorem named_append (s s' : Settings) (name : Text) : named (s ++ s') name = named s name ++ named s' name :=
  List.filter_append ..

theorem last?_append (config : Settings) (ho : ∃ x ∈ overrides, x.name = name) :
    last? (config ++ overrides) name = last? overrides name := by
  obtain ⟨x, hx, hname⟩ := ho
  have hmem : x ∈ named overrides name := List.mem_filter.2 ⟨hx, by simpa using hname⟩
  obtain ⟨last, hlast⟩ := Option.isSome_iff_exists.1 (List.getLast?_isSome.2 (List.ne_nil_of_mem hmem))
  rw [last?, last?, named_append, List.getLast?_append, hlast]
  rfl

theorem agree_override (hs : name ∈ scalarNames) (ho : ∃ x ∈ overrides, x.name = name)
    (h : config.filter (·.name ≠ name) = config'.filter (·.name ≠ name)) :
    Agree (config ++ overrides) (config' ++ overrides) := by
  have hnot : ∀ name ∈ scalarNames,
      name ≠ AuthOptions.rpcauth ∧ name ≠ AuthOptions.rpcauthfile ∧ AuthOptions.rpcwhitelist ≠ name := by decide
  obtain ⟨hauth, hfile, hlist⟩ := hnot name hs
  refine ⟨?_, fun other _ => ?_, ?_⟩
  · have hc := filter_isCredential_eq_of_others h hauth.symm hfile.symm
    rw [credentials, credentials, List.filter_append, List.filter_append, hc]
  · by_cases hother : other = name
    · rw [hother, last?_append config ho, last?_append config' ho]
    · rw [last?, last?, named_append, named_append, named_eq_of_others h hother]
  · rw [sinceNegation, sinceNegation, named_append, named_append, named_eq_of_others h hlist]

end

end Settings

/-! ## The options -/

namespace AuthOptions

section
variable {s s' : Settings} {datadir : Path} {options : AuthOptions}

theorem directivesOf_eq (s : Settings) (datadir : Path) :
    directivesOf s datadir = s.credentials.filterMap fun p => directive? datadir ⟨p.1, p.2, .configFile⟩ := by
  unfold directivesOf Settings.credentials
  rw [List.filterMap_map, List.filterMap_filter]
  refine List.filterMap_congr fun x _ => ?_
  by_cases hauth : x.name = rpcauth
  · simp [directive?, Settings.isCredential, hauth]
  · by_cases hfile : x.name = rpcauthfile
    · simp [directive?, Settings.isCredential, hfile]
    · simp [directive?, Settings.isCredential, hauth, hfile]

theorem ofSettings_of_agree (h : s.Agree s') (datadir : Path) : ofSettings s datadir = ofSettings s' datadir := by
  have hd : directivesOf s datadir = directivesOf s' datadir := by
    rw [directivesOf_eq, directivesOf_eq, h.credentials]
  have htext : ∀ name ∈ Settings.scalarNames, s.text? name = s'.text? name := by
    intro name hname
    rw [Settings.text?, Settings.text?, h.scalars name hname]
  have hlegacy : legacyOf s = legacyOf s' := by
    rw [legacyOf, legacyOf, htext rpcpassword (by decide), htext rpcuser (by decide)]
  have hcookie : cookieOf s datadir = cookieOf s' datadir := by
    simp only [cookieOf, cookiePath?, cookiePermissions, hlegacy, h.scalars rpccookiefile (by decide),
      h.scalars rpccookieperms (by decide)]
  have hwhitelist : s.list rpcwhitelist = s'.list rpcwhitelist := by
    rw [Settings.list_eq, Settings.list_eq, h.whitelist]
  have hdefault : s.switch? rpcwhitelistdefault = s'.switch? rpcwhitelistdefault := by
    rw [Settings.switch?, Settings.switch?, h.scalars rpcwhitelistdefault (by decide)]
  rw [ofSettings, ofSettings, hd, hlegacy, hcookie, hwhitelist, hdefault]

theorem legacyOf_isSome_iff :
    (legacyOf s).isSome ↔ ∃ password, password ≠ [] ∧ s.last? rpcpassword = some (.set password) := by
  unfold legacyOf Settings.text?
  cases hl : s.last? rpcpassword with
  | none => simp
  | some v =>
    cases v with
    | bare => simp
    | negated => simp
    | set password => cases password <;> simp

theorem cookiePath?_eq_none_iff : cookiePath? s datadir = none ↔ s.last? rpccookiefile = some .negated := by
  unfold cookiePath?
  split
  · next h => simp [h]
  · next h => simp [h]
  · next h _ => simpa using h

theorem cookiePermissions_eq_ok_iff {permissions : CookiePermissions} : cookiePermissions s = .ok permissions ↔
    ((s.last? rpccookieperms = none ∨ s.last? rpccookieperms = some .bare) ∧ permissions = .ownerOnly) ∨
      (s.last? rpccookieperms = some .negated ∧ permissions = .osDefault) ∨
      ∃ v, s.last? rpccookieperms = some (.set v) ∧ CookiePermissions.parse v = .ok permissions := by
  unfold cookiePermissions
  cases s.last? rpccookieperms with
  | none => simp [eq_comm]
  | some v =>
    cases v with
    | bare => simp [eq_comm]
    | negated => simp [eq_comm]
    | set v => simp

theorem cookieOf_eq_ok {cookie : Option CookieOptions} (h : cookieOf s datadir = .ok cookie) :
    (cookie.isSome ↔ legacyOf s = none ∧ s.last? rpccookiefile ≠ some .negated) ∧
      ∀ c, cookie = some c → cookiePermissions s = .ok c.permissions := by
  unfold cookieOf at h
  cases hl : legacyOf s with
  | some pair =>
    rw [hl] at h
    cases h
    simp
  | none =>
    rw [hl] at h
    cases hp : cookiePath? s datadir with
    | none =>
      rw [hp] at h
      cases h
      simp [cookiePath?_eq_none_iff.1 hp]
    | some path =>
      have hnot : s.last? rpccookiefile ≠ some .negated := fun hn => by
        rw [cookiePath?_eq_none_iff.2 hn] at hp
        cases hp
      rw [hp] at h
      cases hperms : cookiePermissions s with
      | error e => rw [hperms] at h; cases h
      | ok permissions =>
        rw [hperms] at h
        cases h
        simp [hnot]

end

/-- The options are decided by the settings about credentials in their order, the last value of each
scalar, and the whitelist since its last negation. So settings of different names can change places
unless both are about credentials, and an override of a scalar makes all the config file says of it
count for nothing. A password that is not empty gives the plain pair and takes the place of the
cookie, whose permissions are the last ones given. -/
theorem ofSettings_projections (s : Settings) (datadir : Path) :
    (∀ s', s.Agree s' → ofSettings s datadir = ofSettings s' datadir) ∧
      (∀ before x y after, s = before ++ x :: y :: after → x.name ≠ y.name →
        ¬ (Settings.isCredential x ∧ Settings.isCredential y) →
          ofSettings s datadir = ofSettings (before ++ y :: x :: after) datadir) ∧
      (∀ config overrides name, s = config ++ overrides → name ∈ Settings.scalarNames →
        (∃ x ∈ overrides, x.name = name) →
          ∀ config' : Settings, config.filter (·.name ≠ name) = config'.filter (·.name ≠ name) →
            ofSettings s datadir = ofSettings (config' ++ overrides) datadir) ∧
      ∀ o, ofSettings s datadir = .ok o →
        (o.legacy.isSome ↔ ∃ password, password ≠ [] ∧ s.last? rpcpassword = some (.set password)) ∧
        (o.cookie.isSome ↔ o.legacy = none ∧ s.last? rpccookiefile ≠ some .negated) ∧
        ∀ c, o.cookie = some c →
          ((s.last? rpccookieperms = none ∨ s.last? rpccookieperms = some .bare) ∧ c.permissions = .ownerOnly) ∨
          (s.last? rpccookieperms = some .negated ∧ c.permissions = .osDefault) ∨
          ∃ v, s.last? rpccookieperms = some (.set v) ∧ CookiePermissions.parse v = .ok c.permissions := by
  refine ⟨fun s' h => ofSettings_of_agree h datadir, ?_, ?_, ?_⟩
  · intro before x y after hs hn hc
    rw [hs]
    exact ofSettings_of_agree (Settings.agree_swap hn hc before after) datadir
  · intro config overrides name hs hname ho config' h
    rw [hs]
    exact ofSettings_of_agree (Settings.agree_override hname ho h) datadir
  · intro o ho
    obtain ⟨cookie, whitelist, hcookie, rfl⟩ := ofSettings_eq_ok ho
    obtain ⟨hsome, hpermissions⟩ := cookieOf_eq_ok hcookie
    exact ⟨legacyOf_isSome_iff, hsome, fun c hc => cookiePermissions_eq_ok_iff.1 (hpermissions c hc)⟩

/-- Bits that cannot be read do no harm once they are given anew. -/
theorem ofSettings_projections_override :
    let config : Settings := [⟨rpccookieperms, .set ['9'], .configFile⟩, ⟨rpcauth, .bare, .configFile⟩]
    let overrides : Settings := [⟨rpccookieperms, .set "0640".toList, .commandLine⟩]
    rpccookieperms ∈ Settings.scalarNames ∧ (∃ x ∈ overrides, x.name = rpccookieperms) ∧
      ofSettings (config ++ overrides) ['/'] =
        .ok ⟨[.reEnable], none, some ⟨"/.cookie".toList, .mode 0o640⟩, ⟨[], false⟩⟩ := by
  intro config overrides
  have hname : rpccookieperms ∈ Settings.scalarNames := by decide
  have ho : ∃ x ∈ overrides, x.name = rpccookieperms := ⟨_, List.mem_singleton_self _, rfl⟩
  have heq := (ofSettings_projections (config ++ overrides) ['/']).2.2.1 config overrides rpccookieperms rfl hname ho
    [⟨rpcauth, .bare, .configFile⟩] (by decide)
  exact ⟨hname, ho, heq.trans (by decide +kernel)⟩

end AuthOptions

end RpcGate
