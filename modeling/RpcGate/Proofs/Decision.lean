import Mathlib.Data.Finset.Card
import Mathlib.Data.Finset.Dedup
import RpcGate.Access.Authenticator
import RpcGate.Proofs.BasicHeader
import RpcGate.Proofs.Replay

/-!
# Who is let in

A user is let in by the cookie, by the last surviving entry of the name, or
by the legacy pair when no entry has the name (`authenticate_encode_iff`).
Insertion makes the last entry count and keeps one credential a name, so the
registry is as large as the set of names.
-/

namespace RpcGate

/-- The entry of a user that counts. -/
def lastEntry (user : Text) (entries : List Entry) : Option Entry :=
  (entries.filter (·.username = user)).getLast?

theorem lastEntry_eq_none_iff {user : Text} {entries : List Entry} :
    lastEntry user entries = none ↔ ∀ e ∈ entries, e.username ≠ user := by
  simp [lastEntry]

theorem lastEntry_cons (user : Text) (e : Entry) (entries : List Entry) :
    lastEntry user (e :: entries) =
      (lastEntry user entries).or (if e.username = user then some e else none) := by
  unfold lastEntry
  by_cases h : e.username = user
  · rw [List.filter_cons_of_pos (by simpa using h), List.getLast?_cons, if_pos h]
    cases (entries.filter (·.username = user)).getLast? <;> rfl
  · rw [List.filter_cons_of_neg (by simpa using h), if_neg h, Option.or_none]

/-! ## The registry -/

namespace Registry

theorem get?_empty (user : Text) : empty.get? user = none := rfl

/-- The loop over the entries: the last one of a name replaces whatever the name had. -/
theorem get?_foldl_insert (entries : List Entry) (r : Registry) (user : Text) :
    (entries.foldl (fun r e => r.insert (.hashed e)) r).get? user =
      ((lastEntry user entries).map Credential.hashed).or (r.get? user) := by
  induction entries generalizing r with
  | nil => rfl
  | cons e entries ih =>
    rw [List.foldl_cons, ih, lastEntry_cons, get?_insert]
    have hu : (Credential.hashed e).username = e.username := rfl
    rw [hu]
    by_cases h : e.username = user
    · rw [if_pos h, if_pos h]
      cases lastEntry user entries <;> rfl
    · rw [if_neg h, if_neg h, Option.or_none]

theorem get?_ofEntries (legacy : Option LegacyPair) (entries : List Entry) (user : Text) :
    (ofEntries legacy entries).get? user = ((lastEntry user entries).map Credential.hashed).or
      ((legacy.filter (·.username = user)).map Credential.legacy) := by
  unfold ofEntries
  rw [get?_foldl_insert]
  congr 1
  cases legacy with
  | none => rfl
  | some pair =>
    simp only [get?_insert, Credential.username, get?_empty, Option.filter_some]
    by_cases h : pair.username = user
    · simp [h]
    · simp [h]

/-- What a name gets: its last entry, or the legacy pair if no entry has the name. -/
theorem get?_ofEntries_eq_some_iff {legacy : Option LegacyPair} {entries : List Entry} {user : Text}
    {c : Credential} : (ofEntries legacy entries).get? user = some c ↔
      (∃ e, lastEntry user entries = some e ∧ .hashed e = c) ∨
        (∀ e ∈ entries, e.username ≠ user) ∧
          ∃ pair, legacy = some pair ∧ pair.username = user ∧ .legacy pair = c := by
  rw [get?_ofEntries, Option.or_eq_some_iff, Option.map_eq_none_iff, lastEntry_eq_none_iff]
  simp only [Option.map_eq_some_iff, Option.filter_eq_some_iff, decide_eq_true_eq, and_assoc]

theorem verify_iff (r : Registry) (user password : Text) :
    r.verify user password ↔ ∃ c, r.get? user = some c ∧ c.accepts password := by
  unfold verify
  cases r.get? user with
  | none => simp
  | some c => simp

theorem mem_usernames_iff {r : Registry} {user : Text} : user ∈ r.usernames ↔ (r.get? user).isSome := by
  simp [usernames, get?, List.find?_isSome]

/-- The names that legacy pair and entries have. -/
def names (legacy : Option LegacyPair) (entries : List Entry) : List Text :=
  (legacy.map LegacyPair.username).toList ++ entries.map Entry.username

theorem mem_usernames_ofEntries (legacy : Option LegacyPair) (entries : List Entry) (user : Text) :
    user ∈ (ofEntries legacy entries).usernames ↔ user ∈ names legacy entries := by
  rw [mem_usernames_iff, get?_ofEntries, Option.isSome_or, names, List.mem_append, or_comm]
  simp only [Option.isSome_map, Bool.or_eq_true]
  refine or_congr ?_ ?_
  · rw [← not_iff_not, Bool.not_eq_true, Option.isSome_eq_false_iff, Option.isNone_iff_eq_none,
      lastEntry_eq_none_iff]
    simp
  · cases legacy with
    | none => simp
    | some pair =>
      by_cases h : pair.username = user
      · simp [h]
      · simp [h, Ne.symm h]

theorem size_ofEntries (legacy : Option LegacyPair) (entries : List Entry) :
    (ofEntries legacy entries).size = (names legacy entries).toFinset.card := by
  have hn : (ofEntries legacy entries).usernames.Nodup := (ofEntries legacy entries).distinct
  have hs : (names legacy entries).toFinset = (ofEntries legacy entries).usernames.toFinset := by
    ext user
    rw [List.mem_toFinset, List.mem_toFinset, mem_usernames_ofEntries]
  rw [hs, List.toFinset_card_of_nodup hn, usernames, List.length_map]
  rfl

theorem build_of_resolve {fs : FileSystem} {ds : List Directive} {entries : List Entry}
    (h : resolve fs ds = .ok entries) (legacy : Option LegacyPair) :
    build fs ds legacy = .ok (ofEntries legacy entries) := by
  unfold build
  rw [h]
  rfl

theorem build_eq_ok {fs : FileSystem} {ds : List Directive} {legacy : Option LegacyPair} {r : Registry}
    (h : build fs ds legacy = .ok r) : ∃ entries, resolve fs ds = .ok entries ∧ r = ofEntries legacy entries := by
  unfold build at h
  cases hr : resolve fs ds with
  | error e => rw [hr] at h; cases h
  | ok entries => rw [hr] at h; cases h; exact ⟨entries, rfl, rfl⟩

end Registry

/-! ## The decision -/

theorem Entry.accepts_iff (e : Entry) (password : Text) :
    e.accepts password ↔ e.hash = keyedHash (Text.utf8 e.salt) (Text.utf8 password) := by
  rw [accepts, decide_eq_true_eq, eq_comm]

theorem sameSecret_iff (presented stored : Bytes) :
    sameSecret presented stored ↔ keyedHash decoyKey presented = keyedHash decoyKey stored := by
  rw [sameSecret, decide_eq_true_eq]

theorem LegacyPair.accepts_iff (p : LegacyPair) (password : Text) : p.accepts password ↔
    keyedHash decoyKey (Text.utf8 password) = keyedHash decoyKey (Text.utf8 p.password) := by
  rw [accepts, sameSecret_iff]

theorem Cookie.verify_iff (c : Cookie) (user password : Text) : c.verify user password ↔
    user = Cookie.username ∧
      keyedHash decoyKey (Text.utf8 password) = keyedHash decoyKey (Text.utf8 c.secret) := by
  have hu : Text.utf8 user = Text.utf8 Cookie.username ↔ user = Cookie.username := by
    refine ⟨fun h => ?_, fun h => by rw [h]⟩
    have := Text.ofUtf8?_utf8 user
    rw [h, Text.ofUtf8?_utf8] at this
    exact (Option.some.inj this).symm
  rw [verify, Bool.and_eq_true, sameSecret_iff, sameBytes, decide_eq_true_eq, hu]

/-- What lets `user` in with `password`: the cookie of the start, the last entry of the name, or the
legacy pair if no entry has the name. -/
inductive LetsIn (cookie : Option Cookie) (legacy : Option LegacyPair) (entries : List Entry)
    (user password : Text) : Prop
  | cookie (c : Cookie) (hc : cookie = some c) (hu : user = Cookie.username)
    (hp : keyedHash decoyKey (Text.utf8 password) = keyedHash decoyKey (Text.utf8 c.secret))
  | entry (e : Entry) (he : (entries.filter (·.username = user)).getLast? = some e)
    (hp : e.hash = keyedHash (Text.utf8 e.salt) (Text.utf8 password))
  | legacy (pair : LegacyPair) (hl : legacy = some pair) (hn : ∀ e ∈ entries, e.username ≠ user)
    (hu : pair.username = user)
    (hp : keyedHash decoyKey (Text.utf8 password) = keyedHash decoyKey (Text.utf8 pair.password))

theorem Registry.verify_ofEntries_iff (legacy : Option LegacyPair) (entries : List Entry) (user password : Text) :
    (ofEntries legacy entries).verify user password ↔ LetsIn none legacy entries user password := by
  simp only [verify_iff, get?_ofEntries_eq_some_iff]
  constructor
  · intro h
    obtain ⟨c, hc, ha⟩ := h
    rcases hc with ⟨e, he, rfl⟩ | ⟨hn, pair, hl, hu, rfl⟩
    · exact .entry e he ((Entry.accepts_iff e password).1 ha)
    · exact .legacy pair hl hn hu ((LegacyPair.accepts_iff pair password).1 ha)
  · intro h
    cases h with
    | cookie c hc => cases hc
    | entry e he hp => exact ⟨.hashed e, .inl ⟨e, he, rfl⟩, (Entry.accepts_iff e password).2 hp⟩
    | legacy pair hl hn hu hp =>
      exact ⟨.legacy pair, .inr ⟨hn, pair, hl, hu, rfl⟩,
        (LegacyPair.accepts_iff pair password).2 hp⟩

namespace Authenticator

theorem check_ofEntries_iff (cookie : Option Cookie) (legacy : Option LegacyPair) (entries : List Entry)
    (user password : Text) : check ⟨Registry.ofEntries legacy entries, cookie⟩ user password ↔
      LetsIn cookie legacy entries user password := by
  unfold check
  rw [Bool.or_eq_true, Registry.verify_ofEntries_iff, Option.any_eq_true]
  constructor
  · intro h
    rcases h with ⟨c, hc, hv⟩ | h
    · obtain ⟨hu, hp⟩ := (Cookie.verify_iff c user password).1 hv
      exact .cookie c hc hu hp
    · cases h with
      | cookie c hc => cases hc
      | entry e he hp => exact .entry e he hp
      | legacy pair hl hn hu hp => exact .legacy pair hl hn hu hp
  · intro h
    cases h with
    | cookie c hc hu hp => exact .inl ⟨c, hc, (Cookie.verify_iff c user password).2 ⟨hu, hp⟩⟩
    | entry e he hp => exact .inr (.entry e he hp)
    | legacy pair hl hn hu hp => exact .inr (.legacy pair hl hn hu hp)

theorem authenticate_encode (a : Authenticator) {user : Text} (h : ':' ∉ user) (password : Text) :
    a.authenticate (some (BasicHeader.encode user password)) =
      if a.check user password then .accepted user else .rejected := by
  unfold authenticate
  rw [Option.bind_some, BasicHeader.parse?_encode h]

theorem authenticate_legacy (cookie : Option Cookie) (pair : LegacyPair) (h : ':' ∉ pair.username) :
    authenticate ⟨Registry.ofEntries (some pair) [], cookie⟩ (some (BasicHeader.encode pair.username pair.password)) =
      .accepted pair.username := by
  have hin : LetsIn cookie (some pair) [] pair.username pair.password :=
    .legacy pair rfl (List.forall_mem_nil _) rfl rfl
  rw [authenticate_encode _ h, if_pos ((check_ofEntries_iff cookie (some pair) [] _ _).2 hin)]

theorem authenticate_unread (a : Authenticator) {header : Option Text}
    (h : header.bind BasicHeader.parse? = none) : a.authenticate header = .rejected := by
  unfold authenticate
  rw [h]

/-- The decision by the surviving entries, the legacy pair and the cookie, and the size of the
registry they make. -/
theorem authenticate_encode_iff (fs : FileSystem) (ds : List Directive) (legacy : Option LegacyPair)
    (cookie : Option Cookie) (registry : Registry) (h : Registry.build fs ds legacy = .ok registry) :
    ∃ entries, resolve fs ds = .ok entries ∧
      (∀ user password, ':' ∉ user →
        (authenticate ⟨registry, cookie⟩ (some (BasicHeader.encode user password)) = .accepted user ↔
          LetsIn cookie legacy entries user password) ∧
        (authenticate ⟨registry, cookie⟩ (some (BasicHeader.encode user password)) = .rejected ↔
          ¬ LetsIn cookie legacy entries user password)) ∧
      authenticate ⟨registry, cookie⟩ none = .rejected ∧
      (∀ header, BasicHeader.parse? header = none → authenticate ⟨registry, cookie⟩ (some header) = .rejected) ∧
      registry.size =
        ((legacy.map LegacyPair.username).toList ++ entries.map Entry.username).toFinset.card := by
  obtain ⟨entries, hr, rfl⟩ := Registry.build_eq_ok h
  refine ⟨entries, hr, ?_, authenticate_unread _ rfl, fun header hh => authenticate_unread _ hh,
    Registry.size_ofEntries legacy entries⟩
  intro user password hu
  rw [authenticate_encode _ hu, ← check_ofEntries_iff]
  cases check ⟨Registry.ofEntries legacy entries, cookie⟩ user password with
  | true => simp
  | false => simp

/-- An entry takes the name away from the legacy pair, whose password is then wrong. -/
theorem authenticate_shadowed_pair :
    let pair : LegacyPair := ⟨['a'], ['r']⟩
    let gate : Authenticator :=
      ⟨Registry.ofEntries (some pair) [Entry.sample 'a', Entry.sample 'b'], some ⟨['x'], ['c']⟩⟩
    Registry.build (FileSystem.empty 0)
        [.addInline (Entry.sample 'a').encode, .addInline (Entry.sample 'b').encode] (some pair) = .ok gate.registry ∧
      gate.authenticate (some (BasicHeader.encode ['a'] ['r'])) = .rejected ∧
      gate.authenticate (some (BasicHeader.encode Cookie.username ['x'])) = .accepted Cookie.username ∧
      gate.registry.size = 2 := by
  intro pair gate
  have hr : resolve (FileSystem.empty 0)
      [.addInline (Entry.sample 'a').encode, .addInline (Entry.sample 'b').encode] =
      .ok [Entry.sample 'a', Entry.sample 'b'] := by decide +kernel
  have hb := Registry.build_of_resolve hr (some pair)
  have hq : (Entry.sample 'a').hash ≠ keyedHash (Text.utf8 ['s']) (Text.utf8 ['r']) := by decide +kernel
  obtain ⟨entries, he, hd, -, -, hs⟩ := authenticate_encode_iff _ _ (some pair) gate.cookie _ hb
  obtain rfl : [Entry.sample 'a', Entry.sample 'b'] = entries := Except.ok.inj (hr.symm.trans he)
  refine ⟨hb, (hd ['a'] ['r'] (by decide)).2.2 ?_, (hd Cookie.username ['x'] (by decide)).1.2 ?_, ?_⟩
  · intro h
    cases h with
    | cookie _ _ hu => exact absurd hu (by decide)
    | entry e he' hp =>
      obtain rfl : Entry.sample 'a' = e := Option.some.inj he'
      exact hq hp
    | legacy _ _ hn => exact hn (Entry.sample 'a') (by simp) rfl
  · exact .cookie ⟨['x'], ['c']⟩ rfl rfl rfl
  · exact hs.trans (by rfl)

end Authenticator

end RpcGate
