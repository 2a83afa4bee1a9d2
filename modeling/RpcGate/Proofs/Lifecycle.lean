import RpcGate.Listener.Startup
import RpcGate.Proofs.Decision
import RpcGate.Proofs.Publication

/-!
# Cookies over a whole run

A host starts and stops servers, one at a time, and every start may fail.
After each of its acts the cookie of the server that runs stands whole in its
place, or no server runs and no secret is left in a file; and the secrets of
earlier starts let nobody in (`Host.run_life_cycle`).

A cookie replaces whatever link has its name. Where the path itself leads
through that link, nobody finds the cookie any more, to check its bits or to
take it away (`Host.run_loses_cookie`).
-/

namespace RpcGate

namespace FileSystem

/-- Nothing is new; files and links may have gone. -/
structure Sheds (fs fs' : FileSystem) : Prop where
  thins : fs.Thins fs'
  file : ∀ loc content mode, fs'.node? loc = some (.file content mode) → fs.node? loc = some (.file content mode)

def Holds (fs : FileSystem) (secret : Text) : Prop :=
  ∃ loc content mode, fs.node? loc = some (.file content mode) ∧ Text.utf8 secret <:+: content

section
variable {fs₀ fs fs' : FileSystem} {loc : Location}

theorem Sheds.refl (fs : FileSystem) : Sheds fs fs := ⟨.refl fs, fun _ _ _ h => h⟩

theorem Sheds.trans (h : Sheds fs₀ fs) (h' : Sheds fs fs') : Sheds fs₀ fs' :=
  ⟨h.thins.trans h'.thins, fun loc content mode hn => h.file loc content mode (h'.file loc content mode hn)⟩

theorem sheds_erase (hd : ∀ m, fs.node? loc ≠ some (.directory m)) : Sheds fs (fs.erase loc) := by
  refine ⟨thins_erase hd, fun l content mode hn => ?_⟩
  rw [node?_erase] at hn
  split at hn
  · cases hn
  · exact hn

theorem Sheds.not_holds (h : Sheds fs fs') {secret : Text} (hs : ¬ fs.Holds secret) : ¬ fs'.Holds secret := by
  intro hh
  obtain ⟨loc, content, mode, hn, hin⟩ := hh
  exact hs ⟨loc, content, mode, h.file loc content mode hn, hin⟩

end

end FileSystem

/-! ## The cookie in its place -/

/-- The files are as at first, less what has gone, and hold the cookie that the options ask for. -/
inductive Keeps (fs₀ : FileSystem) : Option CookieOptions → Option Cookie → FileSystem → Prop
  | nothing {fs : FileSystem} (hs : fs₀.Sheds fs) : Keeps fs₀ none none fs
  | cookie {fs : FileSystem} {o : CookieOptions} {secret : Text} {loc : Location} {mode : Mode} (hs : fs₀.Sheds fs)
    (hp : Cookie.CookiePlace o.path fs loc)
    (hl : (fs.insert loc (.file (Cookie.content secret) mode)).locate .entry o.path = .ok loc)
    (hm : ∀ m, o.permissions.target? = some m → mode = m) :
    Keeps fs₀ (some o) (some ⟨secret, o.path⟩) (fs.insert loc (.file (Cookie.content secret) mode))

section
variable {fs₀ fs : FileSystem} {options : Option CookieOptions} {c : Cookie}

theorem Keeps.stat (h : Keeps fs₀ options (some c) fs) : ∃ o loc mode, options = some o ∧ c.path = o.path ∧
    fs.stat c.path = .ok (loc, .file (Cookie.content c.secret) mode) ∧
    ∀ m, o.permissions.target? = some m → mode = m := by
  cases h with
  | @cookie fs o secret loc mode hs hp hl hm =>
    exact ⟨o, loc, mode, rfl, rfl, FileSystem.stat_of_entry hl (fs.node?_insert_self loc _) (by simp), hm⟩

theorem Cookie.remove_of_place {loc : Location} {mode : Mode} (hp : CookiePlace c.path fs loc)
    (hl : (fs.insert loc (.file (content c.secret) mode)).locate .entry c.path = .ok loc) :
    c.remove (fs.insert loc (.file (content c.secret) mode)) = fs.erase loc := by
  have hr : (fs.insert loc (.file (content c.secret) mode)).remove c.path = .ok (fs.erase loc) := by
    refine FileSystem.remove_eq_ok_iff.2 ⟨loc, _, hl, fs.node?_insert_self loc _, hp.endsInName,
      ?_, rfl, (FileSystem.erase_insert _ _ _).symm⟩
    rw [(FileSystem.thins_insert_file hp.notDirectory).mayChange]
    exact hp.mayChange
  rw [remove, hr]

theorem Keeps.dropped {cookie : Option Cookie} : Keeps fs₀ options cookie fs →
    fs₀.Sheds (match cookie with | some c => c.remove fs | none => fs) := by
  intro h
  cases h with
  | nothing hs => exact hs
  | @cookie fs o secret loc mode hs hp hl _ =>
    show fs₀.Sheds (Cookie.remove ⟨secret, o.path⟩ _)
    rw [Cookie.remove_of_place (c := ⟨secret, o.path⟩) hp hl]
    exact hs.trans (FileSystem.sheds_erase hp.notDirectory)

end

namespace Cookie

theorem Spared.sheds {path : Path} {fs fs' : FileSystem} (h : Spared path fs fs') : fs.Sheds fs' :=
  ⟨h.thins, fun _ _ _ hn => h.node?_of_some hn⟩

theorem checkMode_posix {permissions : CookiePermissions} {path : Path} {fs : FileSystem} {loc : Location}
    {content : Bytes} {mode : Mode} (hs : fs.stat path = .ok (loc, .file content mode))
    (hm : ∀ m, permissions.target? = some m → mode = m) : checkMode .posix permissions path fs = none := by
  unfold checkMode
  cases ht : permissions.target? with
  | none => rfl
  | some m =>
    simp [Capability.mode, Capability.posix, Capability.present, hs, Except.map, Node.mode, hm m ht]

theorem Provider.provision_of_places {o : CookieOptions} {fs : FileSystem} {t loc : Location} {mode : Mode}
    (hf : fs.isFile (temporary o.path) = false) (hd : DraftPlace o.path fs t) (hp : CookiePlace o.path fs loc)
    (ha : fs.AvoidsOwnLink o.path) (hm : IsFinalMode .posix o.permissions fs.umask mode) (bytes : Vector UInt8 32) :
    (new o.path o.permissions).provision bytes fs =
      ⟨fs.insert loc (.file (content (secretOf bytes)) mode), .active, .ok ⟨secretOf bytes, o.path⟩⟩ := by
  have hl := FileSystem.locate_insert_file (.refl fs) ha hp.locate hp.notDirectory (content (secretOf bytes)) mode
  have hstat := FileSystem.stat_of_entry hl (fs.node?_insert_self loc _) (by simp)
  have hcheck := checkMode_posix hstat fun m (ht : o.permissions.target? = some m) => hm.eq_target ht
  unfold provision
  simp only [new, publish_of_places hf hd hp hm, hcheck]

theorem Provider.provision_keeps {fs₀ fs : FileSystem} {o : CookieOptions} (hs : fs₀.Sheds fs)
    (ha : fs₀.AvoidsOwnLink o.path) (bytes : Vector UInt8 32) (disk : Disk) :
    (∃ e, ((new o.path o.permissions).provision bytes fs disk).result = .error e ∧
        fs₀.Sheds ((new o.path o.permissions).provision bytes fs disk).files) ∨
      (((new o.path o.permissions).provision bytes fs disk).result = .ok ⟨secretOf bytes, o.path⟩ ∧
        Keeps fs₀ (some o) (some ⟨secretOf bytes, o.path⟩) ((new o.path o.permissions).provision bytes fs disk).files) := by
  rcases publish_cases disk .posix o.permissions o.path (secretOf bytes) fs with ⟨e, he, hspared⟩ | ⟨hn, mode, hm, hstands⟩
  · rcases (new o.path o.permissions).provision_cases bytes fs disk with ⟨e, -, hp⟩ | ⟨hn, -⟩
    · rw [hp]
      exact .inl ⟨e, rfl, hs.trans hspared.sheds⟩
    · cases he.symm.trans hn
  · have hkeeps : Keeps fs₀ (some o) (some ⟨secretOf bytes, o.path⟩)
        (publish disk .posix o.permissions o.path (secretOf bytes) fs).1 := by
      generalize (publish disk .posix o.permissions o.path (secretOf bytes) fs).1 = fs' at hstands
      cases hstands with
      | published hc _ hp =>
        have hsheds := hs.trans hc.spared.sheds
        exact .cookie hsheds hp (FileSystem.locate_insert_file hsheds.thins ha hp.locate hp.notDirectory _ _)
          fun m ht => hm.eq_target ht
    obtain ⟨_, loc, mode, ho, -, hstat, htarget⟩ := hkeeps.stat
    obtain rfl := Option.some.inj ho
    rw [(new o.path o.permissions).provision_eq hn (checkMode_posix hstat htarget)]
    exact .inr ⟨rfl, hkeeps⟩

end Cookie

namespace Server

theorem start_of_provision {config : ServerConfig} {bytes : Vector UInt8 32} {net : Binding} {fs : FileSystem}
    {disk : Disk} {o : CookieOptions} {registry : Registry} {outcome : Cookie.Provider.Outcome}
    (hb : Registry.build fs config.auth.directives config.auth.legacy = .ok registry)
    (ho : config.auth.cookie = some o)
    (hp : (Cookie.Provider.new o.path o.permissions).provision bytes fs disk = outcome) :
    start config bytes net fs disk = match outcome.result with
      | .error e => (outcome.files, .error (.auth e))
      | .ok c => listen config net registry (some c) outcome.files := by
  unfold start prepare provisionCookie
  rw [hb, ho]
  simp only [hp]
  cases outcome.result with
  | error e => rfl
  | ok c => rfl

/-- The secret that a start draws, if it comes to that. -/
def drawn? (config : ServerConfig) (bytes : Vector UInt8 32) (fs : FileSystem) : Option Text :=
  match Registry.build fs config.auth.directives config.auth.legacy, config.auth.cookie with
  | .ok _, some _ => some (Cookie.secretOf bytes)
  | _, _ => none

section
variable {fs₀ fs : FileSystem} {options : Option CookieOptions} {cookie : Option Cookie} {config : ServerConfig}
  {net : Binding} (hn : net.bound = .ok () → ∃ address, net.address = .ok address)

include hn in
theorem listen_keeps (config : ServerConfig) (hk : Keeps fs₀ options cookie fs) (registry : Registry) :
    (∃ e, (listen config net registry cookie fs).2 = .error e ∧ fs₀.Sheds (listen config net registry cookie fs).1) ∨
      ∃ s, (listen config net registry cookie fs).2 = .ok s ∧ s.authenticator.cookie = cookie ∧
        Keeps fs₀ options cookie (listen config net registry cookie fs).1 := by
  unfold listen
  cases hb : net.bound with
  | error fault => exact .inl ⟨_, rfl, hk.dropped⟩
  | ok =>
    obtain ⟨address, haddress⟩ := hn hb
    rw [haddress]
    exact .inr ⟨_, rfl, rfl, hk⟩

include hn in
theorem start_keeps (hs : fs₀.Sheds fs) (ha : ∀ o, config.auth.cookie = some o → fs₀.AvoidsOwnLink o.path)
    (bytes : Vector UInt8 32) (disk : Disk) :
    (∃ e, (start config bytes net fs disk).2 = .error e ∧ fs₀.Sheds (start config bytes net fs disk).1) ∨
      ∃ s, (start config bytes net fs disk).2 = .ok s ∧
        Keeps fs₀ config.auth.cookie s.authenticator.cookie (start config bytes net fs disk).1 ∧
        drawn? config bytes fs = s.authenticator.cookie.map Cookie.secret := by
  unfold start prepare drawn?
  cases hb : Registry.build fs config.auth.directives config.auth.legacy with
  | error e => exact .inl ⟨_, rfl, hs⟩
  | ok registry =>
    cases ho : config.auth.cookie with
    | none =>
      rcases listen_keeps hn config (Keeps.nothing hs) registry with hl | ⟨s, hl, hc, hk⟩
      · exact .inl hl
      · exact .inr ⟨s, hl, hc ▸ hk, by rw [hc]; rfl⟩
    | some o =>
      unfold provisionCookie
      rcases Cookie.Provider.provision_keeps hs (ha o ho) bytes disk with ⟨e, hr, hp⟩ | ⟨hr, hp⟩
      · simp only [hr, Except.map]
        exact .inl ⟨_, rfl, hp⟩
      · simp only [hr, Except.map]
        rcases listen_keeps hn config hp registry with hl | ⟨s, hl, hc, hk⟩
        · exact .inl hl
        · exact .inr ⟨s, hl, hc ▸ hk, by rw [hc]; rfl⟩

theorem stop_sheds {s : Server} (hk : Keeps fs₀ options s.authenticator.cookie fs) : fs₀.Sheds (s.stop fs) := by
  exact hk.dropped

end

end Server

/-! ## Runs -/

/-- A machine on which one server can run at a time. -/
structure Host where
  files : FileSystem
  running : Option (ServerConfig × Server)
  /-- The secrets that starts have drawn so far. -/
  issued : List Text

inductive Act
  | start (config : ServerConfig) (bytes : Vector UInt8 32) (net : Binding) (disk : Disk)
  | stop

/-- A listener that is bound has an address, and the path of the cookie does not need the link it names. -/
def Act.IsFair (fs : FileSystem) : Act → Prop
  | start config _ net _ => (net.bound = .ok () → ∃ address, net.address = .ok address) ∧
    ∀ o, config.auth.cookie = some o → fs.AvoidsOwnLink o.path
  | stop => True

namespace Host

def next? (h : Host) : Act → Option Host
  | .start config bytes net disk => match h.running with
    | some _ => none
    | none => some ⟨(Server.start config bytes net h.files disk).1,
        (Server.start config bytes net h.files disk).2.toOption.map (config, ·),
        h.issued ++ (Server.drawn? config bytes h.files).toList⟩
  | .stop => h.running.map fun r => ⟨r.2.stop h.files, none, h.issued⟩

def run? (h : Host) (acts : List Act) : Option Host := acts.foldlM next? h

/-- What every act preserves. -/
structure IsSound (fs : FileSystem) (h : Host) : Prop where
  idle : h.running = none → fs.Sheds h.files
  busy : ∀ config s, h.running = some (config, s) →
    Keeps fs config.auth.cookie s.authenticator.cookie h.files ∧
      ∃ earlier, h.issued = earlier ++ (s.authenticator.cookie.map Cookie.secret).toList

section
variable {fs : FileSystem} {h h' : Host}

theorem IsSound.next {a : Act} (hs : IsSound fs h) (ha : a.IsFair fs) (hn : h.next? a = some h') :
    IsSound fs h' := by
  cases a with
  | start config bytes net disk =>
    cases hr : h.running with
    | some r => simp [next?, hr] at hn
    | none =>
      simp only [next?, hr, Option.some.injEq] at hn
      subst hn
      rcases Server.start_keeps ha.1 (hs.idle hr) ha.2 bytes disk with ⟨e, he, hsheds⟩ | ⟨s, hok, hk, hdrawn⟩
      · refine ⟨fun _ => hsheds, fun _ _ hrun => ?_⟩
        simp [he, Except.toOption] at hrun
      · refine ⟨fun hrun => ?_, fun config' s' hrun => ?_⟩
        · simp [hok, Except.toOption] at hrun
        · simp only [hok, Except.toOption, Option.map_some, Option.some.injEq, Prod.mk.injEq] at hrun
          obtain ⟨rfl, rfl⟩ := hrun
          exact ⟨hk, h.issued, by rw [hdrawn]⟩
  | stop =>
    cases hr : h.running with
    | none => simp [next?, hr] at hn
    | some r =>
      simp only [next?, hr, Option.map_some, Option.some.injEq] at hn
      subst hn
      refine ⟨fun _ => ?_, fun _ _ hrun => by cases hrun⟩
      exact Server.stop_sheds (hs.busy r.1 r.2 hr).1

theorem IsSound.run {acts : List Act} (hs : IsSound fs h) (ha : ∀ a ∈ acts, a.IsFair fs)
    (hr : h.run? acts = some h') : IsSound fs h' := by
  induction acts generalizing h with
  | nil => exact Option.some.inj hr ▸ hs
  | cons a acts ih =>
    obtain ⟨mid, hn, hr⟩ := Option.bind_eq_some_iff.1 hr
    exact ih (hs.next (ha a (by simp)) hn) (fun a' hm => ha a' (by simp [hm])) hr

end

def digest (secret : Text) : Digest := keyedHash decoyKey (Text.utf8 secret)

end Host

theorem Authenticator.authenticate_old_cookie (a : Authenticator) {old : Text}
    (hu : Cookie.username ∉ a.registry.usernames)
    (hd : ∀ c, a.cookie = some c → Host.digest old ≠ Host.digest c.secret) :
    a.authenticate (some (BasicHeader.encode Cookie.username old)) = .rejected := by
  rw [authenticate_encode a (by decide)]
  refine if_neg fun hc => ?_
  rw [check, Bool.or_eq_true, Option.any_eq_true] at hc
  rcases hc with ⟨c, hc, hv⟩ | hv
  · exact hd c hc ((Cookie.verify_iff c _ old).1 hv).2
  · obtain ⟨credential, hg, -⟩ := (Registry.verify_iff _ _ old).1 hv
    exact hu (Registry.mem_usernames_iff.2 (by rw [hg]; rfl))

namespace Host

/-- After any acts of a host that began without a server: the cookie of the server that runs is in
its place, whole and with its bits; while none runs, no file holds a secret that it did not hold at
first; and the secrets of earlier starts are rejected. -/
theorem run_life_cycle (fs : FileSystem) (acts : List Act) (h : Host) (ha : ∀ a ∈ acts, a.IsFair fs)
    (hr : run? ⟨fs, none, []⟩ acts = some h) :
    (∀ config s c, h.running = some (config, s) → s.authenticator.cookie = some c →
      ∃ o loc mode, config.auth.cookie = some o ∧ c.path = o.path ∧
        h.files.stat c.path = .ok (loc, .file (Cookie.content c.secret) mode) ∧
        ∀ m, o.permissions.target? = some m → mode = m) ∧
    (h.running = none → ∀ secret ∈ h.issued, ¬ fs.Holds secret → ¬ h.files.Holds secret) ∧
    (∀ config s, h.running = some (config, s) →
      ∃ earlier, h.issued = earlier ++ (s.authenticator.cookie.map Cookie.secret).toList ∧
        (h.issued.Pairwise (fun a b => digest a ≠ digest b) → Cookie.username ∉ s.authenticator.registry.usernames →
          ∀ old ∈ earlier,
            s.authenticator.authenticate (some (BasicHeader.encode Cookie.username old)) = .rejected)) := by
  have hs : IsSound fs h := by
    have hstart : IsSound fs ⟨fs, none, []⟩ := ⟨fun _ => .refl fs, fun _ _ hrun => by cases hrun⟩
    exact hstart.run ha hr
  refine ⟨?_, ?_, ?_⟩
  · intro config s c hrun hc
    exact (hc ▸ (hs.busy config s hrun).1).stat
  · intro hidle secret _ hno
    exact (hs.idle hidle).not_holds hno
  · intro config s hrun
    obtain ⟨-, earlier, hissued⟩ := hs.busy config s hrun
    refine ⟨earlier, hissued, fun hdistinct hu old hold => ?_⟩
    refine s.authenticator.authenticate_old_cookie hu fun c hc => ?_
    rw [hissued, hc] at hdistinct
    exact (List.pairwise_append.1 hdistinct).2.2 old hold c.secret (by simp)

/-- A server is started, stopped, and started again: the second cookie stands, the first is rejected. -/
theorem run_life_cycle_restart :
    let config : ServerConfig := ⟨⟨.loopback, 8332, 0⟩, [], none, some ⟨"/.cookie".toList, .ownerOnly⟩, [], false⟩
    let net : Binding := ⟨.ok (), .ok config.address⟩
    let first : Vector UInt8 32 := Vector.replicate 32 0
    let second : Vector UInt8 32 := Vector.replicate 32 1
    ∃ h s c, run? ⟨FileSystem.empty 0, none, []⟩ [.start config first net .sound, .stop, .start config second net .sound] = some h ∧
      h.running = some (config, s) ∧ s.authenticator.cookie = some c ∧
      (∃ loc, h.files.stat c.path = .ok (loc, .file (Cookie.content (Cookie.secretOf second)) 0o600)) ∧
      s.authenticator.authenticate (some (BasicHeader.encode Cookie.username (Cookie.secretOf first))) = .rejected := by
  intro config net first second
  have hplace := Cookie.cookiePlace_root 0
  have ha := FileSystem.avoidsOwnLink_of_not_link hplace.locate fun target h => by cases h
  let after (bytes : Vector UInt8 32) : FileSystem :=
    (FileSystem.empty 0).insert [".cookie".toList] (.file (Cookie.content (Cookie.secretOf bytes)) 0o600)
  let server (bytes : Vector UInt8 32) : Server :=
    ⟨config.address, ⟨Registry.empty, some ⟨Cookie.secretOf bytes, "/.cookie".toList⟩⟩, [], false⟩
  have hstart (bytes : Vector UInt8 32) :
      Server.start config bytes net (FileSystem.empty 0) = (after bytes, .ok (server bytes)) :=
    Server.start_of_provision rfl rfl (Cookie.Provider.provision_of_places (o := ⟨_, .ownerOnly⟩)
      (Cookie.isFile_temporary_root 0) (Cookie.draftPlace_root 0) hplace ha rfl bytes)
  have hstop (bytes : Vector UInt8 32) : (server bytes).stop (after bytes) = FileSystem.empty 0 := by
    have hremove := Cookie.remove_of_place (c := ⟨Cookie.secretOf bytes, _⟩) hplace (hplace.locate_insert rfl _ 0o600)
    exact hremove.trans (FileSystem.erase_eq_self rfl)
  have hrun : run? ⟨FileSystem.empty 0, none, []⟩ [.start config first net .sound, .stop, .start config second net .sound] =
      some ⟨after second, some (config, server second), [Cookie.secretOf first, Cookie.secretOf second]⟩ := by
    have hd (bytes : Vector UInt8 32) : Server.drawn? config bytes (FileSystem.empty 0) = some (Cookie.secretOf bytes) := rfl
    simp only [run?, List.foldlM_cons, List.foldlM_nil, next?, hstart, hstop, hd, Except.toOption, Option.map_some,
      Option.bind_eq_bind, Option.bind_some, Option.toList_some, List.nil_append, List.singleton_append]
    rfl
  have hfair : ∀ a ∈ [Act.start config first net .sound, .stop, .start config second net .sound],
      a.IsFair (FileSystem.empty 0) := by
    have hnet : net.bound = .ok () → ∃ address, net.address = .ok address := fun _ => ⟨_, rfl⟩
    have hcookie : ∀ o, config.auth.cookie = some o → (FileSystem.empty 0).AvoidsOwnLink o.path := by
      intro o ho
      exact Option.some.inj ho ▸ ha
    simp only [List.forall_mem_cons]
    exact ⟨⟨hnet, hcookie⟩, trivial, ⟨hnet, hcookie⟩, by simp⟩
  obtain ⟨hplaced, -, hrejected⟩ := run_life_cycle _ _ _ hfair hrun
  obtain ⟨o, loc, mode, ho, -, hstat, hmode⟩ := hplaced _ _ _ rfl rfl
  obtain rfl := Option.some.inj ho
  obtain rfl := hmode 0o600 rfl
  obtain ⟨earlier, hissued, hrejected⟩ := hrejected _ _ rfl
  have hissued : [Cookie.secretOf first] ++ [Cookie.secretOf second] = earlier ++ [Cookie.secretOf second] := hissued
  obtain rfl := List.append_cancel_right hissued
  have hd : digest (Cookie.secretOf first) ≠ digest (Cookie.secretOf second) := by decide +kernel
  refine ⟨_, _, _, hrun, rfl, rfl, ⟨loc, hstat⟩, ?_⟩
  exact hrejected (by simpa using hd) List.not_mem_nil _ (by simp)

/-- A path that leads through the link it names: the start fails after the cookie has taken the
place of the link, and the secret stays. -/
theorem run_loses_cookie :
    let fs := ((FileSystem.empty 0).insert [['d']] (.directory 0o755)).insert [['l']] (.link ['d'])
    let config : ServerConfig := ⟨⟨.loopback, 8332, 0⟩, [], none, some ⟨"/l/../l".toList, .ownerOnly⟩, [], false⟩
    let net : Binding := ⟨.ok (), .ok config.address⟩
    let bytes : Vector UInt8 32 := Vector.replicate 32 0
    ∃ h, run? ⟨fs, none, []⟩ [.start config bytes net .sound] = some h ∧ h.running = none ∧
      Cookie.secretOf bytes ∈ h.issued ∧ ¬ fs.Holds (Cookie.secretOf bytes) ∧ h.files.Holds (Cookie.secretOf bytes) := by
  intro fs config net bytes
  have hl : Path.IsProper ['l'] := by unfold Path.IsProper; decide
  have hd : Path.IsProper ['d'] := by unfold Path.IsProper; decide
  have ht : Path.IsProper "l.tmp".toList := by unfold Path.IsProper; decide
  have walks (aim : FileSystem.Aim) {n : Name} (hn : Path.IsProper n)
      (ht : aim.follows → ∀ target, fs.node? [n] ≠ some (.link target)) :
      fs.Walks aim FileSystem.linkLimit [] [['l'], ['.', '.'], n] [n] := by
    have hroot : fs.Opens [] := ⟨0o755, rfl, rfl⟩
    have hdir : fs.Opens [['d']] := ⟨0o755, rfl, rfl⟩
    refine .follow hroot hl (by simp) rfl (.inl (by simp)) ?_
    exact .enter hroot hd (by simp) (by simp) (.up hdir (.last hroot hn ht))
  have hplace : Cookie.CookiePlace "/l/../l".toList fs [['l']] :=
    ⟨FileSystem.locate_eq_ok_iff.2 ⟨by decide, walks .entry hl fun h => by cases h⟩, by decide, rfl, fun m h => by cases h⟩
  have hdraft : Cookie.DraftPlace "/l/../l".toList fs ["l.tmp".toList] :=
    ⟨FileSystem.locate_eq_ok_iff.2 ⟨by decide, walks .makeNew ht fun h => by cases h⟩, rfl, rfl⟩
  have hclean : fs.isFile (Cookie.temporary "/l/../l".toList) = false :=
    FileSystem.isFile_of_free
      (FileSystem.locate_eq_ok_iff.2 ⟨by decide, walks .reach ht fun _ target h => by cases h⟩) rfl
  let after := fs.insert [['l']] (.file (Cookie.content (Cookie.secretOf bytes)) 0o600)
  have hpublish : Cookie.publish .sound .posix .ownerOnly "/l/../l".toList (Cookie.secretOf bytes) fs = (after, none) :=
    have hmode : Cookie.IsFinalMode .posix .ownerOnly fs.umask 0o600 := rfl
    Cookie.publish_of_places hclean hdraft hplace hmode (Cookie.secretOf bytes)
  obtain ⟨e, hcheck⟩ : ∃ e, Cookie.checkMode .posix .ownerOnly "/l/../l".toList after = some e := by
    cases hs : after.stat "/l/../l".toList with
    | ok found =>
      obtain ⟨hr, -⟩ := FileSystem.stat_eq_ok hs
      -- what the path went through is a file now
      rcases (FileSystem.locate_eq_ok_iff.1 hr).2.cases_proper hl with ⟨h, -⟩ | ⟨hs, h⟩ | ⟨target, _, h, -⟩
      · cases h
      · obtain ⟨m, hm⟩ := h.directory_of_ne_nil hs
        cases hm
      · cases h
    | error fault =>
      refine ⟨.cookieNotWritten "/l/../l".toList fault, ?_⟩
      simp only [Cookie.checkMode, Capability.mode, Capability.present, hs]
      rfl
  have hprovision : (Cookie.Provider.new "/l/../l".toList .ownerOnly).provision bytes fs =
      ⟨after, .failedFatal, .error e⟩ := by
    simp only [Cookie.Provider.provision, Cookie.Provider.new, hpublish, hcheck]
  have hstart : Server.start config bytes net fs = _ :=
    Server.start_of_provision (o := ⟨"/l/../l".toList, .ownerOnly⟩) rfl rfl hprovision
  have hrun : run? ⟨fs, none, []⟩ [.start config bytes net .sound] = some ⟨after, none, [Cookie.secretOf bytes]⟩ := by
    simp only [run?, List.foldlM_cons, List.foldlM_nil, next?, hstart, Option.bind_eq_bind, Option.bind_some]
    rfl
  refine ⟨_, hrun, rfl, List.mem_singleton.2 rfl, ?_, ?_⟩
  · intro hh
    obtain ⟨loc, content, mode, hn, -⟩ := hh
    have hempty : (FileSystem.empty 0).node? loc = if loc = [] then some (.directory 0o755) else none := by
      cases loc with
      | nil => rfl
      | cons => rfl
    simp only [fs, FileSystem.node?_insert, hempty] at hn
    split at hn
    · cases hn
    · split at hn
      · cases hn
      · split at hn
        · cases hn
        · cases hn
  · refine ⟨[['l']], _, 0o600, by rw [FileSystem.node?_insert, if_pos rfl], ?_⟩
    rw [Cookie.content_eq]
    exact (List.suffix_append _ _).isInfix

end Host

end RpcGate
