import RpcGate.Proofs.MethodAccess

/-!
# Where permissions are read

The permissions in the settings are those of a cookie. Where there is to be
one, a value that does not parse is refused; elsewhere it is not read, so that
anything passes for one (`AuthOptions.ofSettings_bad_permissions`).
-/

namespace RpcGate

namespace AuthOptions

/-- There is to be a cookie: no password takes its place, and it is not switched off. -/
def WantsCookie (s : Settings) : Prop :=
  (∀ password, password ≠ [] → s.last? rpcpassword ≠ some (.set password)) ∧ s.last? rpccookiefile ≠ some .negated

section
variable {s s' : Settings} {datadir : Path} {v : Text} {e : AuthError}

theorem wantsCookie_iff (s : Settings) (datadir : Path) :
    WantsCookie s ↔ legacyOf s = none ∧ cookiePath? s datadir ≠ none := by
  rw [WantsCookie, ne_eq, ne_eq, cookiePath?_eq_none_iff, ← Option.not_isSome_iff_eq_none, legacyOf_isSome_iff]
  simp only [not_exists, not_and, ne_eq]

theorem cookieOf_of_not_wantsCookie (h : ¬ WantsCookie s) : cookieOf s datadir = .ok none := by
  rw [wantsCookie_iff s datadir, not_and_or, not_not] at h
  unfold cookieOf
  rcases h with h | h
  · rw [← ne_eq, ← Option.isSome_iff_ne_none] at h
    rw [if_pos h]
  · rw [h]
    split
    · rfl
    · rfl

theorem cookieOf_eq_error_iff : cookieOf s datadir = .error e ↔ WantsCookie s ∧ cookiePermissions s = .error e := by
  constructor
  · intro h
    refine ⟨?_, cookieOf_eq_error h⟩
    by_contra hno
    rw [cookieOf_of_not_wantsCookie hno] at h
    cases h
  · intro h
    obtain ⟨hw, he⟩ := h
    obtain ⟨hlegacy, hpath⟩ := (wantsCookie_iff s datadir).1 hw
    obtain ⟨path, hpath⟩ := Option.ne_none_iff_exists'.1 hpath
    simp [cookieOf, hlegacy, hpath, he, bind, Except.bind]

theorem cookiePermissions_of_set (h : s.last? rpccookieperms = some (.set v)) :
    cookiePermissions s = CookiePermissions.parse v := by
  rw [cookiePermissions, h]

theorem ofSettings_eq_badPermissions_iff : ofSettings s datadir = .error (.badPermissions v) ↔
    WantsCookie s ∧ cookiePermissions s = .error (.badPermissions v) := by
  rw [ofSettings_eq_error_iff, cookieOf_eq_error_iff]
  refine or_iff_left fun h => ?_
  obtain ⟨_, he⟩ := Whitelist.build_eq_error h.2
  cases he

end

/-! ## Settings that differ in the permissions only -/

section
variable {s s' : Settings} (h : s.filter (·.name ≠ rpccookieperms) = s'.filter (·.name ≠ rpccookieperms))
include h

theorem last?_eq_of_others {name : Text} (hn : name ≠ rpccookieperms) : s.last? name = s'.last? name := by
  rw [Settings.last?, Settings.last?, Settings.named_eq_of_others h hn]

theorem directivesOf_eq_of_others (datadir : Path) : directivesOf s datadir = directivesOf s' datadir := by
  rw [directivesOf_eq, directivesOf_eq, Settings.credentials, Settings.credentials,
    Settings.filter_isCredential_eq_of_others h (by decide) (by decide)]

theorem legacyOf_eq_of_others : legacyOf s = legacyOf s' := by
  have htext {name : Text} (hn : name ≠ rpccookieperms) : s.text? name = s'.text? name := by
    rw [Settings.text?, Settings.text?, last?_eq_of_others h hn]
  rw [legacyOf, legacyOf, htext (by decide), htext (by decide)]

theorem wantsCookie_congr : WantsCookie s ↔ WantsCookie s' := by
  rw [WantsCookie, WantsCookie, last?_eq_of_others h (by decide), last?_eq_of_others h (by decide)]

theorem ofSettings_of_not_wantsCookie (hno : ¬ WantsCookie s) (datadir : Path) :
    ofSettings s datadir = ofSettings s' datadir := by
  have hlist : s.list rpcwhitelist = s'.list rpcwhitelist := by
    rw [Settings.list, Settings.list, Settings.named_eq_of_others h (by decide)]
  have hswitch : s.switch? rpcwhitelistdefault = s'.switch? rpcwhitelistdefault := by
    rw [Settings.switch?, Settings.switch?, last?_eq_of_others h (by decide)]
  have hno' : ¬ WantsCookie s' := fun hw => hno ((wantsCookie_congr h).2 hw)
  rw [ofSettings, ofSettings, cookieOf_of_not_wantsCookie hno, cookieOf_of_not_wantsCookie hno',
    directivesOf_eq_of_others h, legacyOf_eq_of_others h, hlist, hswitch]

end

/-- A bad value for the permissions is refused if and only if there is to be a cookie. Otherwise it is
not even read: any other value, or none, has the same outcome. -/
theorem ofSettings_bad_permissions (s : Settings) (datadir : Path) (v : Text)
    (hlast : s.last? rpccookieperms = some (.set v)) (hbad : ∃ e, CookiePermissions.parse v = .error e) :
    (ofSettings s datadir = .error (.badPermissions v) ↔ WantsCookie s) ∧
      (¬ WantsCookie s → ∀ s' : Settings,
        s.filter (·.name ≠ rpccookieperms) = s'.filter (·.name ≠ rpccookieperms) →
          ofSettings s datadir = ofSettings s' datadir) := by
  obtain ⟨e, he⟩ := hbad
  obtain ⟨rfl, -⟩ := CookiePermissions.parse_eq_error_iff.1 he
  refine ⟨?_, fun hno s' h => ofSettings_of_not_wantsCookie h hno datadir⟩
  rw [ofSettings_eq_badPermissions_iff, cookiePermissions_of_set hlast]
  exact and_iff_left he

/-- Refused before the whitelist is, and not read once the cookie is switched off. -/
theorem ofSettings_bad_permissions_switched :
    let bad : Settings := [⟨rpccookieperms, .set "rw".toList, .configFile⟩, ⟨rpcwhitelist, .set ['a'], .configFile⟩]
    let off : Settings := [⟨rpccookiefile, .negated, .commandLine⟩]
    (∃ e, CookiePermissions.parse "rw".toList = .error e) ∧
      bad.last? rpccookieperms = some (.set "rw".toList) ∧
      ofSettings bad ['/'] = .error (.badPermissions "rw".toList) ∧
      (bad ++ off).last? rpccookieperms = some (.set "rw".toList) ∧
      ofSettings (bad ++ off) ['/'] = .error (.badWhitelist ['a']) := by
  intro bad off
  have hbad : ∃ e, CookiePermissions.parse "rw".toList = .error e := ⟨_, rfl⟩
  have hwants : WantsCookie bad := by
    have hpassword : bad.last? rpcpassword = none := by decide
    have hfile : bad.last? rpccookiefile = none := by decide
    simp [WantsCookie, hpassword, hfile]
  have hno : ¬ WantsCookie (bad ++ off) := fun h => h.2 (by decide)
  obtain ⟨hrefused, -⟩ := ofSettings_bad_permissions bad ['/'] "rw".toList (by decide) hbad
  obtain ⟨-, hunread⟩ := ofSettings_bad_permissions (bad ++ off) ['/'] "rw".toList (by decide) hbad
  refine ⟨hbad, by decide, hrefused.2 hwants, by decide, ?_⟩
  rw [hunread hno (⟨rpcwhitelist, .set ['a'], .configFile⟩ :: off) (by decide)]
  decide +kernel

/-- With a password the value is overlooked. -/
theorem ofSettings_overlooks_permissions :
    let s : Settings := [⟨rpcpassword, .set "pw".toList, .configFile⟩, ⟨rpccookieperms, .set "rw".toList, .configFile⟩]
    s.last? rpccookieperms = some (.set "rw".toList) ∧
      CookiePermissions.parse "rw".toList = .error (.badPermissions "rw".toList) ∧
      ofSettings s ['/'] = .ok ⟨[], some ⟨[], "pw".toList⟩, none, ⟨[], false⟩⟩ := by
  decide +kernel

end AuthOptions

end RpcGate
