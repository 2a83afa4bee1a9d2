import RpcGate.Access.Options
import RpcGate.Proofs.Decision
import RpcGate.Proofs.EntryText

/-!
# Which users can present themselves

A header names a user up to its first colon. Entries have users without a
colon, so a user that has one comes from the plain pair of the settings, and
no header lets it in (`accepts_configured`).
-/

namespace RpcGate

/-! ## Where entries come from -/

section
variable {fs : FileSystem} {d : Directive} {ds : List Directive} {e : Entry} {es entries : List Entry}

theorem entries_of_resolve (h : resolve fs ds = .ok entries) (hd : d ∈ ds) : ∃ es, d.entries fs = .ok es := by
  cases he : d.entries fs with
  | ok es => exact ⟨es, rfl⟩
  | error fault =>
    obtain ⟨fault', hfirst⟩ := (exists_failsFirst_iff ds).2 ⟨d, hd, fault, he⟩
    rw [(resolve_eq_error_iff fs ds fault').2 hfirst] at h
    cases h

theorem exists_entries_of_resolve (h : resolve fs ds = .ok entries) :
    ∃ read : Directive → List Entry, ∀ d ∈ ds, d.entries fs = .ok (read d) := by
  refine ⟨fun d => (d.entries fs).toOption.getD [], fun d hd => ?_⟩
  obtain ⟨es, hes⟩ := entries_of_resolve h hd
  simp only [hes]
  rfl

theorem Remains.mem {after : List Directive} (h : Remains ds after) (hd : d ∈ after) : d ∈ ds := by
  cases h with
  | all => exact hd
  | cut hs => rw [hs]; simp [hd]

theorem exists_directive_of_resolve (h : resolve fs ds = .ok entries) (he : e ∈ entries) :
    ∃ d ∈ ds, ∃ es, d.entries fs = .ok es ∧ e ∈ es := by
  obtain ⟨read, hread⟩ := exists_entries_of_resolve h
  obtain ⟨after, hr⟩ := exists_remains ds
  have hactive : resolve fs ds = .ok (ds.foldl (Replay.next read) Replay.start).active :=
    resolve_eq_active fun d hd _ => hread d hd
  rw [h, Replay.active_of_remains read hr] at hactive
  rw [Except.ok.inj hactive] at he
  obtain ⟨d, hd, hed⟩ := List.mem_flatMap.1 he
  have hmem := hr.mem (List.mem_filter.1 hd).1
  exact ⟨d, hmem, read d, hread d hmem, hed⟩

theorem Directive.entry_cases (h : d.entries fs = .ok es) (he : e ∈ es) :
    (∃ raw, d = .addInline raw ∧ Entry.parse raw = .ok e) ∨
      ∃ path contents, d = .addFile path ∧ Entry.ofContents path contents = .ok es := by
  have hb : ¬ d.isBlank := by
    intro hb
    rw [entries_blank fs hb] at h
    cases h
    cases he
  cases d with
  | addInline raw =>
    rw [entries_addInline fs (by simpa [isBlank] using hb)] at h
    split at h
    · next e' hp =>
      cases h
      rw [List.mem_singleton] at he
      exact .inl ⟨raw, rfl, he ▸ hp⟩
    · cases h
  | addFile path =>
    rw [entries_addFile fs (by simpa [isBlank] using hb)] at h
    split at h
    · next contents _ => exact .inr ⟨path, contents, rfl, h⟩
    · cases h
  | clear => cases h; cases he
  | reEnable => cases h; cases he

theorem colon_not_mem_of_resolve (h : resolve fs ds = .ok entries) (he : e ∈ entries) : ':' ∉ e.username := by
  obtain ⟨d, -, es, hes, hmem⟩ := exists_directive_of_resolve h he
  rcases Directive.entry_cases hes hmem with ⟨raw, -, hp⟩ | ⟨path, contents, -, hc⟩
  · obtain ⟨_, -, -, hu, -⟩ := Entry.eq_append_of_parse hp
    exact hu
  · exact (Entry.isPlainName_of_ofContents hc hmem).colon

/-- The user of a credential with a colon in its name is that of the legacy pair. -/
theorem Registry.legacy_of_colon {legacy : Option LegacyPair} {r : Registry} {user password : Text}
    (h : build fs ds legacy = .ok r) (hv : r.verify user password) (hu : ':' ∈ user) :
    ∃ pair, legacy = some pair ∧ pair.username = user := by
  obtain ⟨entries, hr, rfl⟩ := build_eq_ok h
  obtain ⟨c, hc, -⟩ := (verify_iff _ user password).1 hv
  rcases get?_ofEntries_eq_some_iff.1 hc with ⟨e, he, -⟩ | ⟨-, pair, hl, hp, -⟩
  · have hmem := List.mem_filter.1 (List.mem_of_getLast? he)
    have hname : e.username = user := by simpa using hmem.2
    exact absurd (hname ▸ hu) (colon_not_mem_of_resolve hr hmem.1)
  · exact ⟨pair, hl, hp⟩

end

/-! ## What the settings say of the pair -/

namespace AuthOptions

variable {s : Settings} {datadir : Path}

theorem username_of_legacyOf {pair : LegacyPair} (h : legacyOf s = some pair) :
    pair.username = (s.text? rpcuser).getD [] := by
  unfold legacyOf at h
  split at h
  · cases h; rfl
  · cases h

theorem cookieOf_of_legacyOf {pair : LegacyPair} (h : legacyOf s = some pair) : cookieOf s datadir = .ok none := by
  rw [cookieOf, h]
  rfl

end AuthOptions

/-! ## The headers that name a user -/

theorem BasicHeader.colon_not_mem_of_parse? {header user password : Text}
    (h : parse? header = some (user, password)) : ':' ∉ user := by
  unfold parse? at h
  simp only [Option.bind_eq_bind, Option.bind_eq_some_iff] at h
  obtain ⟨_, -, _, -, _, -, hs⟩ := h
  exact (Text.splitOnce_eq_some_iff.1 hs).2

namespace Authenticator

theorem colon_not_mem_of_authenticate {a : Authenticator} {header : Option Text} {user : Text}
    (h : a.authenticate header = .accepted user) : ':' ∉ user := by
  unfold authenticate at h
  split at h
  · next user' password hp =>
    split at h
    · cases h
      obtain ⟨_, -, hp⟩ := Option.bind_eq_some_iff.1 hp
      exact BasicHeader.colon_not_mem_of_parse? hp
    · cases h
  · cases h

/-- A user without a colon is let in by the header of its password. A user with one is let in by
none: it is the user of the settings' pair, for which there is no cookie either. -/
theorem accepts_configured (settings : Settings) (datadir : Path) (options : AuthOptions) (fs : FileSystem)
    (registry : Registry) (cookie : Option Cookie) (ho : AuthOptions.ofSettings settings datadir = .ok options)
    (hb : Registry.build fs options.directives options.legacy = .ok registry) (user password : Text)
    (hv : registry.verify user password) :
    (':' ∉ user →
      authenticate ⟨registry, cookie⟩ (some (BasicHeader.encode user password)) = .accepted user) ∧
    (':' ∈ user → (∀ header, authenticate ⟨registry, cookie⟩ header ≠ .accepted user) ∧
      settings.text? AuthOptions.rpcuser = some user ∧ options.cookie = none) := by
  constructor
  · intro hu
    rw [authenticate_encode _ hu, if_pos]
    rw [check, hv, Bool.or_true]
  · intro hu
    refine ⟨fun header h => colon_not_mem_of_authenticate h hu, ?_⟩
    obtain ⟨pair, hl, hp⟩ := Registry.legacy_of_colon hb hv hu
    obtain ⟨cookie, whitelist, hc, rfl⟩ := AuthOptions.ofSettings_eq_ok ho
    have hl : AuthOptions.legacyOf settings = some pair := hl
    have hname := AuthOptions.username_of_legacyOf hl
    refine ⟨?_, ?_⟩
    · rw [hp] at hname
      cases ht : settings.text? AuthOptions.rpcuser with
      | some name => rw [hname, ht]; rfl
      | none =>
        rw [hname, ht] at hu
        cases hu
    · rw [AuthOptions.cookieOf_of_legacyOf hl] at hc
      exact (Except.ok.inj hc).symm

/-- The pair of the settings, beside an entry. -/
theorem accepts_configured_pair :
    let settings : Settings := [⟨AuthOptions.rpcuser, .set ['a'], .configFile⟩,
      ⟨AuthOptions.rpcauth, .set (Entry.sample 'b').encode, .configFile⟩,
      ⟨AuthOptions.rpcpassword, .set ['x', ':'], .commandLine⟩]
    let options : AuthOptions :=
      ⟨[.addInline (Entry.sample 'b').encode], some ⟨['a'], ['x', ':']⟩, none, ⟨[], false⟩⟩
    let registry := Registry.ofEntries options.legacy [Entry.sample 'b']
    AuthOptions.ofSettings settings ['/'] = .ok options ∧
      Registry.build (FileSystem.empty 0) options.directives options.legacy = .ok registry ∧
      registry.verify ['a'] ['x', ':'] ∧
      authenticate ⟨registry, none⟩ (some (BasicHeader.encode ['a'] ['x', ':'])) = .accepted ['a'] := by
  intro settings options registry
  have ho : AuthOptions.ofSettings settings ['/'] = .ok options := by decide +kernel
  have hb : Registry.build (FileSystem.empty 0) options.directives options.legacy = .ok registry :=
    Registry.build_of_resolve (by decide +kernel) options.legacy
  have hv : registry.verify ['a'] ['x', ':'] :=
    (Registry.verify_iff _ _ _).2 ⟨.legacy ⟨['a'], ['x', ':']⟩, rfl, (LegacyPair.accepts_iff _ _).2 rfl⟩
  refine ⟨ho, hb, hv, ?_⟩
  exact (accepts_configured settings ['/'] options _ registry none ho hb _ _ hv).1 (by decide)

/-- A pair whose user has a colon is taken into the registry, and can never be presented. -/
theorem configured_colon_locked_out :
    let settings : Settings := [⟨AuthOptions.rpcuser, .set ['a', ':', 'b'], .configFile⟩,
      ⟨AuthOptions.rpcpassword, .set ['x'], .configFile⟩]
    ∃ options registry, AuthOptions.ofSettings settings ['/'] = .ok options ∧
      Registry.build (FileSystem.empty 0) options.directives options.legacy = .ok registry ∧
      registry.contains ['a', ':', 'b'] ∧ registry.verify ['a', ':', 'b'] ['x'] ∧
      ∀ cookie header, authenticate ⟨registry, cookie⟩ header ≠ .accepted ['a', ':', 'b'] := by
  intro settings
  let pair : LegacyPair := ⟨['a', ':', 'b'], ['x']⟩
  have hv : (Registry.ofEntries (some pair) []).verify ['a', ':', 'b'] ['x'] :=
    (Registry.verify_iff _ _ _).2 ⟨.legacy pair, rfl, (LegacyPair.accepts_iff pair _).2 rfl⟩
  refine ⟨⟨[], some pair, none, ⟨[], false⟩⟩, Registry.ofEntries (some pair) [], by decide +kernel, rfl, rfl, hv, ?_⟩
  intro cookie header h
  exact absurd (by decide) (colon_not_mem_of_authenticate h)

end Authenticator

end RpcGate
