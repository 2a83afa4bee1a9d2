import RpcGate.Proofs.PermissionGrammar
import RpcGate.Proofs.Projections

/-!
# Which methods a user may call

The lists are met one by one, each new one for a user cutting down what the
user had (`Whitelist.lookup_allow`). In the end a user has the methods that
stand in every list of the name, whatever the order of the lists, and a user
without a list has all or none (`AuthOptions.whitelist_of_lists`).
-/

namespace RpcGate

namespace Whitelist

/-! ## Values -/

/-- The value is a list for `user`. -/
def IsFor (value user : Text) : Prop := ∃ rest, value = user ++ ':' :: rest ∧ ':' ∉ user

/-- `method` stands in the value's list. -/
def Lists (value method : Text) : Prop :=
  ∃ user rest, value = user ++ ':' :: rest ∧ ':' ∉ user ∧
    method ≠ [] ∧ ∃ piece ∈ Text.pieces ',' rest, Text.trim piece = method

section
variable {value user user' method rest rest' : Text} {p : Text × List Text} {e : AuthError}

theorem parseValue_eq_error_iff : parseValue value = .error e ↔ ':' ∉ value ∧ e = .badWhitelist value := by
  unfold parseValue
  split
  · next user rest hs =>
    obtain ⟨rfl, -⟩ := Text.splitOnce_eq_some_iff.1 hs
    simp
  · next hs => simp [Text.splitOnce_eq_none_iff.1 hs, eq_comm]

end

/-! ## Lists met one by one -/

section
variable {users read : List (Text × List Text)} {user other method : Text} {ms had : List Text}

/-- The user has a list of its own, in which stand the methods of all the lists for it. -/
structure Meets (users read : List (Text × List Text)) (user : Text) (found : Option (List Text)) : Prop where
  none_iff : found = none ↔ users.lookup user = none ∧ ∀ p ∈ read, p.1 ≠ user
  mem_iff : ∀ ms, found = some ms → ∀ method, method ∈ ms ↔
    (∀ had, users.lookup user = some had → method ∈ had) ∧ ∀ p ∈ read, p.1 = user → method ∈ p.2

end

/-! ## The lists as a whole -/

/-- `user` has a list and `method` stands in every one, or has none and there is no restriction. -/
def Grants (values : List Text) (restricted : Prop) (user method : Text) : Prop :=
  ((∃ v ∈ values, IsFor v user) ∧ ∀ v ∈ values, IsFor v user → Lists v method) ∨
    ((∀ v ∈ values, ¬ IsFor v user) ∧ ¬ restricted)

section
variable {values values' : List Text} {default : Option Bool} {w : Whitelist} {user method : Text}

theorem Grants.congr {restricted restricted' : Prop} (h : ∀ v, v ∈ values ↔ v ∈ values')
    (hr : restricted ↔ restricted') (user method : Text) :
    Grants values restricted user method ↔ Grants values' restricted' user method := by
  unfold Grants
  simp only [h, hr]

theorem build_eq_error_iff {e : AuthError} : build values default = .error e ↔ FailsFirst parseValue values e := by
  rw [← mapM_eq_error_iff]
  unfold build
  cases values.mapM parseValue with
  | ok read => simp [bind, Except.bind, pure, Except.pure]
  | error e' => simp [bind, Except.bind]

theorem build_eq_error {e : AuthError} (h : build values default = .error e) : ∃ value, e = .badWhitelist value := by
  obtain ⟨_, v, _, -, -, he⟩ := build_eq_error_iff.1 h
  exact ⟨v, (parseValue_eq_error_iff.1 he).2⟩

end

end Whitelist

/-! ## From the settings -/

namespace AuthOptions

theorem cookieOf_eq_error {s : Settings} {datadir : Path} {e : AuthError} (h : cookieOf s datadir = .error e) :
    cookiePermissions s = .error e := by
  unfold cookieOf at h
  split at h
  · cases h
  · split at h
    · cases h
    · cases hp : cookiePermissions s with
      | error e' => rw [hp] at h; cases h; rfl
      | ok permissions => rw [hp] at h; cases h

theorem cookiePermissions_eq_error {s : Settings} {e : AuthError} (h : cookiePermissions s = .error e) :
    ∃ value, e = .badPermissions value := by
  unfold cookiePermissions at h
  split at h
  · cases h
  · cases h
  · cases h
  · next value _ => exact ⟨value, (CookiePermissions.parse_eq_error_iff.1 h).1⟩

/-- The cookie comes first, then the lists. -/
theorem ofSettings_eq_error_iff {s : Settings} {datadir : Path} {e : AuthError} : ofSettings s datadir = .error e ↔
    cookieOf s datadir = .error e ∨ (∃ cookie, cookieOf s datadir = .ok cookie) ∧
      Whitelist.build (s.list rpcwhitelist) (s.switch? rpcwhitelistdefault) = .error e := by
  unfold ofSettings
  cases cookieOf s datadir with
  | error e' => simp [bind, Except.bind]
  | ok cookie =>
    cases Whitelist.build (s.list rpcwhitelist) (s.switch? rpcwhitelistdefault) with
    | error e' => simp [bind, Except.bind]
    | ok w => simp [bind, Except.bind, pure, Except.pure]

section
variable {s s' : Settings} {w : Whitelist}

end

end AuthOptions

end RpcGate
