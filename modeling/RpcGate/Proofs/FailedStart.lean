import RpcGate.Proofs.Established

/-!
# A failed start over a cookie that stands

A start replaces a cookie that stands in its place, and only then binds. As
long as it fails before that, the file stays as it was; a disk that fails can
lose it only where the path is a link that needs the leftover draft. What a
failed bind takes away is the new cookie, so that none is left; and where the
bound address cannot be told, the new one stays (`start_failure_over_cookie`).
-/

namespace RpcGate

namespace Cookie

section
variable {path : Path} {fs fs₁ fs' : FileSystem} {loc t : Location} {permissions : CookiePermissions} {secret : Text}
  {disk : Disk} {capability : Capability}

/-! ## Clearing a leftover away -/

theorem draftPlace_erase (hf : fs.isFile (temporary path) = true) (ht : fs.locate .entry (temporary path) = .ok t)
    (hm : fs.mayChange t) : DraftPlace path (fs.erase t) t := by
  have hd := FileSystem.deadEnd_of_isFile hf ht
  refine ⟨?_, fs.node?_erase_self t, ?_⟩
  · exact FileSystem.locate_makeNew ((FileSystem.locate_erase_iff hd rfl).2 ht)
      ((Path.endsInName_iff _).1 (endsInName_temporary path)).1
  · rw [(FileSystem.thins_erase hd.1).mayChange]
    exact hm

theorem cookiePlace_of_link {target : Path} (hp : fs.isFile path = true) (hl : fs.locate .entry path = .ok loc)
    (hn : fs.node? loc = some (.link target)) (ht : fs.locate .entry (temporary path) = .ok t)
    (hm : fs.mayChange t) : CookiePlace path fs loc := by
  obtain ⟨l, content, mode, hs⟩ := FileSystem.isFile_eq_true hp
  obtain ⟨hreach, hnode⟩ := FileSystem.stat_eq_ok hs
  obtain ⟨⟨_, hne, _⟩, -⟩ := FileSystem.locate_eq_ok_iff.1 hl
  obtain ⟨dir, ⟨_, hdir⟩, _, hlast⟩ := FileSystem.exists_directory hl
  obtain ⟨dir', ⟨_, hdir'⟩, _, hrlast⟩ := FileSystem.exists_directory hreach
  obtain rfl := hdir.unique hdir'
  have hne' : l ≠ loc := by
    rintro rfl
    rw [hn] at hnode; cases hnode
  obtain ⟨hproper, rfl⟩ := hlast.isProper_of_link hrlast hn hne'
  obtain rfl := FileSystem.locate_ending_eq slash_not_mem_ending (by decide) hne hdir ht rfl
  exact ⟨hl, (Path.endsInName_iff path).2 ⟨hproper.1, hproper.2.1, hproper.2.2.1⟩, hm, fun m h => by simp [hn] at h⟩

theorem CookiePlace.erase (h : CookiePlace path fs loc) (ht : fs.DeadEnd t) : CookiePlace path (fs.erase t) loc := by
  have hthin := FileSystem.thins_erase ht.1
  refine ⟨(FileSystem.locate_erase_iff ht rfl).2 h.locate, h.endsInName, ?_, ?_⟩
  · rw [hthin.mayChange]; exact h.mayChange
  · intro m hm; exact h.notDirectory m ((hthin.directory _ _).1 hm)

theorem stat_erase (hp : fs.isFile path = true) (hl : fs.locate .entry path = .ok loc)
    (hn : ∀ target, fs.node? loc ≠ some (.link target)) (hf : fs.isFile (temporary path) = true)
    (ht : fs.locate .entry (temporary path) = .ok t) : (fs.erase t).stat path = fs.stat path := by
  obtain ⟨l, content, mode, hs⟩ := FileSystem.isFile_eq_true hp
  obtain ⟨hreach, hnode⟩ := FileSystem.stat_eq_ok hs
  have hsame : fs.locate .reach path = .ok loc := FileSystem.locate_retarget hl rfl (fun _ => rfl) fun _ => .inr hn
  obtain rfl := FileSystem.locate_unique hreach hsame
  have hl' := (FileSystem.locate_erase_iff (FileSystem.deadEnd_of_isFile hf ht) rfl).2 hl
  have hnode' : (fs.erase t).node? l = some (.file content mode) := by
    rw [FileSystem.node?_erase, if_neg (locate_temporary_ne hl rfl ht rfl)]
    exact hnode
  rw [hs, FileSystem.stat_of_entry hl' hnode' (by simp)]

/-! ## A publication over a file -/

theorem publish_of_discard (hr : Step.discard.run disk capability path fs = .ok fs₁)
    (hc : fs₁.isFile (temporary path) = false) :
    publish disk capability permissions path secret fs = publish disk capability permissions path secret fs₁ := by
  unfold publish steps
  simp only [List.cons_append]
  rw [runSteps_cons hr, runSteps_cons (discard_of_clean hc)]

theorem publish_of_stuck {fault : Fault} (hr : Step.discard.run disk capability path fs = .error fault) :
    (publish disk capability permissions path secret fs).1 = fs := by
  unfold publish steps
  simp only [List.cons_append, runSteps, hr]
  rfl

theorem publish_of_clean {e : AuthError} (hf : fs.isFile (temporary path) = false)
    (h : (publish disk capability permissions path secret fs).2 = some e) :
    (publish disk capability permissions path secret fs).1 = fs := by
  rcases publish_cases disk capability permissions path secret fs with ⟨_, -, hs⟩ | ⟨hn, -⟩
  · generalize (publish disk capability permissions path secret fs).1 = fs' at hs
    cases hs with
    | same => rfl
    | stale hf' => rw [hf] at hf'; cases hf'
  · rw [hn] at h; cases h

/-- Once its leftover is out of the way, nothing hinders a publication over a link that leads to a file. -/
theorem publish_over_link {target : Path} (hp : fs.isFile path = true) (hl : fs.locate .entry path = .ok loc)
    (hn : fs.node? loc = some (.link target)) (hf : fs.isFile (temporary path) = true)
    (ht : fs.locate .entry (temporary path) = .ok t) (hm : fs.mayChange t) :
    (publish .sound .posix permissions path secret (fs.erase t)).2 = none := by
  obtain ⟨mode, hmode⟩ : ∃ mode, IsFinalMode .posix permissions (fs.erase t).umask mode := by
    unfold IsFinalMode
    cases permissions.target? with
    | none => exact ⟨_, rfl⟩
    | some wanted => exact ⟨wanted, rfl⟩
  have hplace := (cookiePlace_of_link hp hl hn ht hm).erase (FileSystem.deadEnd_of_isFile hf ht)
  rw [publish_of_places (Cleared.stale hf ht).isFile (draftPlace_erase hf ht hm) hplace hmode]

/-- The leftover draft has gone, and the path is a link, which may have needed it. -/
structure LosesLeftover (path : Path) (fs fs' : FileSystem) : Prop where
  link : ∃ loc target, fs.locate .entry path = .ok loc ∧ fs.node? loc = some (.link target)
  leftover : ∃ t, fs.isFile (temporary path) ∧ fs.locate .entry (temporary path) = .ok t ∧ fs' = fs.erase t

/-- A publication that fails leaves the file that its path led to, wherever that stands, unless the disk
fails it. -/
theorem publish_over_file {e : AuthError} (hp : fs.isFile path = true)
    (h : (publish disk .posix permissions path secret fs).2 = some e) :
    (publish disk .posix permissions path secret fs).1.stat path = fs.stat path ∨
      disk ≠ .sound ∧ LosesLeftover path fs (publish disk .posix permissions path secret fs).1 := by
  cases hr : Step.discard.run disk .posix path fs with
  | error fault => exact .inl (by rw [publish_of_stuck hr])
  | ok fs₁ =>
    have hc := cleared_of_discard hr
    rw [publish_of_discard hr hc.isFile] at h ⊢
    rw [publish_of_clean hc.isFile h]
    cases hc with
    | clean => exact .inl rfl
    | @stale t hf ht =>
      have hm : fs.mayChange t := by
        simp only [Step.run, hf, if_true] at hr
        obtain ⟨_, _, ht', -, -, hm, -⟩ := FileSystem.remove_eq_ok_iff.1 hr
        rwa [FileSystem.locate_unique ht ht']
      obtain ⟨l, content, mode, hs⟩ := FileSystem.isFile_eq_true hp
      obtain ⟨loc, hl⟩ := FileSystem.exists_locate_entry (FileSystem.stat_eq_ok hs).1
      -- a link may lead to the very leftover that has gone; but then only the disk can fail
      by_cases hlink : ∃ target, fs.node? loc = some (.link target)
      · obtain ⟨target, hn⟩ := hlink
        refine .inr ⟨?_, ⟨loc, target, hl, hn⟩, t, hf, ht, rfl⟩
        rintro rfl
        rw [publish_over_link hp hl hn hf ht hm] at h
        cases h
      · exact .inl (stat_erase hp hl (fun target hn => hlink ⟨target, hn⟩) hf ht)

/-! ## A new cookie in the place of the old one -/

theorem Stands.stat {held : Bytes} {mode : Mode} (h : Stands path fs (.published held mode) fs')
    (ha : fs.AvoidsOwnLink path) : ∃ loc, fs'.stat path = .ok (loc, .file held mode) := by
  obtain ⟨loc, hl, hn⟩ := FileSystem.entry?_eq_some_iff.1 (h.entry?_cookie_iff.2 ha)
  exact ⟨loc, FileSystem.stat_of_entry hl hn (by simp)⟩

theorem Stands.remove {mode : Mode} (h : Stands path fs (.published (content secret) mode) fs')
    (ha : fs.AvoidsOwnLink path) : FileSystem.stat (Cookie.remove ⟨secret, path⟩ fs') path = .error (.system .notFound) ∧
      ∀ l, fs.locate .entry path ≠ .ok l → (Cookie.remove ⟨secret, path⟩ fs').node? l = fs'.node? l := by
  cases h with
  | @published fs₁ t loc _ _ hc hd hp =>
    have hl := FileSystem.locate_insert_file hc.spared.thins ha hp.locate hp.notDirectory (content secret) mode
    rw [remove_of_place (c := ⟨secret, path⟩) hp hl]
    refine ⟨?_, fun l hne => ?_⟩
    · refine FileSystem.stat_of_free (FileSystem.locate_of_thins hl ?_ rfl) (fs₁.node?_erase_self loc)
      rw [← FileSystem.insert_erase]
      exact FileSystem.thins_insert_file fun m hm => by rw [FileSystem.node?_erase_self] at hm; cases hm
    · have hother : l ≠ loc := fun he => hne (he ▸ FileSystem.locate_of_thins hp.locate hc.spared.thins rfl)
      rw [FileSystem.node?_erase, if_neg hother, FileSystem.node?_insert, if_neg hother]

theorem Provider.provision_over_file {o : CookieOptions} (hp : fs.isFile o.path = true) (bytes : Vector UInt8 32)
    (disk : Disk) :
    (∃ e, ((new o.path o.permissions).provision bytes fs disk).result = .error e ∧
        Spared o.path fs ((new o.path o.permissions).provision bytes fs disk).files ∧
        (((new o.path o.permissions).provision bytes fs disk).files.stat o.path = fs.stat o.path ∨
          disk ≠ .sound ∧ LosesLeftover o.path fs ((new o.path o.permissions).provision bytes fs disk).files)) ∨
      (((new o.path o.permissions).provision bytes fs disk).result = .ok ⟨secretOf bytes, o.path⟩ ∧
        Stands o.path fs (.published (content (secretOf bytes)) (o.permissions.target?.getD (0o666 &&& ~~~fs.umask)))
          ((new o.path o.permissions).provision bytes fs disk).files) := by
  rcases publish_cases disk .posix o.permissions o.path (secretOf bytes) fs with ⟨e, he, hs⟩ | ⟨hn, mode, hm, hs⟩
  · rcases (new o.path o.permissions).provision_cases bytes fs disk with ⟨e', -, hfail⟩ | ⟨hn, -⟩
    · rw [hfail]
      exact .inl ⟨e', rfl, hs, publish_over_file hp he⟩
    · cases he.symm.trans hn
  · obtain ⟨loc, hstat⟩ := hs.stat (FileSystem.avoidsOwnLink_of_isFile hp)
    have hcheck := checkMode_posix hstat fun m (ht : o.permissions.target? = some m) => hm.eq_target ht
    rw [(new o.path o.permissions).provision_eq hn hcheck]
    exact .inr ⟨rfl, hm.eq_getD ▸ hs⟩

end

end Cookie

namespace Server

theorem listen_failure {config : ServerConfig} {net : Binding} {registry : Registry} {c : Cookie} {fs : FileSystem}
    {e : StartupError} (he : (listen config net registry (some c) fs).2 = .error e) :
    ∃ fault, e = .bind config.address fault ∧
      (net.bound = .error fault ∧ (listen config net registry (some c) fs).1 = c.remove fs ∨
        net.bound = .ok () ∧ net.address = .error fault ∧ (listen config net registry (some c) fs).1 = fs) := by
  unfold listen at he ⊢
  cases hb : net.bound with
  | error fault =>
    rw [hb] at he
    exact ⟨fault, (Except.error.inj he).symm, .inl ⟨rfl, rfl⟩⟩
  | ok =>
    cases ha : net.address with
    | error fault =>
      rw [hb, ha] at he
      exact ⟨fault, (Except.error.inj he).symm, .inr ⟨rfl, rfl, rfl⟩⟩
    | ok address => rw [hb, ha] at he; cases he

/-- A start that fails by a credential or by the cookie leaves the file at the cookie's path as it
was, unless the disk failed and the path is a link that may have needed the leftover draft. After a
failed bind nothing is there any more, and where the address cannot be told the new cookie is. No
other file has changed but for the leftover. -/
theorem start_failure_over_cookie (config : ServerConfig) (o : CookieOptions) (ho : config.auth.cookie = some o)
    (fs : FileSystem) (loc : Location) (held : Bytes) (mode : Mode) (hs : fs.stat o.path = .ok (loc, .file held mode))
    (bytes : Vector UInt8 32) (net : Binding) (disk : Disk) (e : StartupError)
    (he : (start config bytes net fs disk).2 = .error e) :
    let fs' := (start config bytes net fs disk).1
    ((∃ e', e = .auth e' ∧ (fs'.stat o.path = .ok (loc, .file held mode) ∨
        disk ≠ .sound ∧ Cookie.LosesLeftover o.path fs fs')) ∨
      ∃ fault, e = .bind config.address fault ∧
        (net.bound = .error fault ∧ fs'.stat o.path = .error (.system .notFound) ∨
          net.bound = .ok () ∧ net.address = .error fault ∧
            ∃ l, fs'.stat o.path = .ok (l, .file (Cookie.content (Cookie.secretOf bytes))
              (o.permissions.target?.getD (0o666 &&& ~~~fs.umask))))) ∧
    ∀ l, fs.locate .entry o.path ≠ .ok l → fs.locate .entry (Cookie.temporary o.path) ≠ .ok l →
      fs'.node? l = fs.node? l := by
  have hp : fs.isFile o.path = true := by rw [FileSystem.isFile, hs]; rfl
  have ha := FileSystem.avoidsOwnLink_of_isFile hp
  cases hb : Registry.build fs config.auth.directives config.auth.legacy with
  | error e' =>
    have hstart : start config bytes net fs disk = (fs, .error (.auth e')) := by
      unfold start prepare
      rw [hb]
    rw [hstart] at he ⊢
    exact ⟨.inl ⟨e', (Except.error.inj he).symm, .inl hs⟩, fun _ _ _ => rfl⟩
  | ok registry =>
    rw [start_of_provision hb ho rfl] at he ⊢
    rcases Cookie.Provider.provision_over_file hp bytes disk with ⟨e', hr, hspared, hstat⟩ | ⟨hr, hstands⟩
    · simp only [hr] at he ⊢
      rw [hs] at hstat
      exact ⟨.inl ⟨e', (Except.error.inj he).symm, hstat⟩, fun l _ ht => hspared.node?_eq ht⟩
    · simp only [hr] at he ⊢
      obtain ⟨fault, rfl, ⟨hbound, hfiles⟩ | ⟨hbound, haddress, hfiles⟩⟩ := listen_failure he
      · obtain ⟨hgone, hothers⟩ := hstands.remove ha
        rw [hfiles]
        exact ⟨.inr ⟨fault, rfl, .inl ⟨hbound, hgone⟩⟩, fun l hl ht => (hothers l hl).trans (hstands.node?_other hl ht)⟩
      · rw [hfiles]
        exact ⟨.inr ⟨fault, rfl, .inr ⟨hbound, haddress, hstands.stat ha⟩⟩, fun l hl ht => hstands.node?_other hl ht⟩

section
variable {held : Bytes} {mode : Mode} {bytes : Vector UInt8 32} {net : Binding}

/-- A file system with nothing but a cookie in it. -/
def standing (held : Bytes) (mode : Mode) : FileSystem :=
  (FileSystem.empty 0o022).insert [Cookie.fileName] (.file held mode)

/-- A start without credentials, for the cookie that stands. -/
def overStanding : ServerConfig := ⟨⟨.loopback, 8332, 0⟩, [], none, some ⟨"/.cookie".toList, .ownerOnly⟩, [], false⟩

theorem locate_standing {n : Name} (hn : Path.IsProper n) (hp : '\x00' ∉ n) (hs : '/' ∉ n) (aim : FileSystem.Aim) :
    (standing held mode).locate aim ('/' :: n) = .ok [n] := by
  refine FileSystem.locate_top ⟨0o755, rfl, rfl⟩ hn hp hs aim fun _ target h => ?_
  rw [standing, FileSystem.node?_insert] at h
  split at h
  · cases h
  · cases h

theorem cookiePlace_standing : Cookie.CookiePlace "/.cookie".toList (standing held mode) [Cookie.fileName] :=
  ⟨locate_standing (by unfold Path.IsProper; decide) (by decide) (by decide) .entry, by decide, rfl,
    fun m h => by cases h⟩

theorem stat_standing : (standing held mode).stat "/.cookie".toList = .ok ([Cookie.fileName], .file held mode) :=
  FileSystem.stat_of_entry cookiePlace_standing.locate rfl (by simp)

theorem start_overStanding : start overStanding bytes net (standing held mode) =
    listen overStanding net Registry.empty (some ⟨Cookie.secretOf bytes, "/.cookie".toList⟩)
      (standing (Cookie.content (Cookie.secretOf bytes)) 0o600) := by
  have hdraft (aim : FileSystem.Aim) : (standing held mode).locate aim (Cookie.temporary "/.cookie".toList) = .ok _ :=
    locate_standing (by unfold Path.IsProper; decide) (by decide) (by decide) aim
  have ha : (standing held mode).AvoidsOwnLink "/.cookie".toList :=
    FileSystem.avoidsOwnLink_of_not_link cookiePlace_standing.locate fun target h => by cases h
  refine (start_of_provision rfl rfl (Cookie.Provider.provision_of_places (o := ⟨_, .ownerOnly⟩) (t := [".cookie.tmp".toList])
    (FileSystem.isFile_of_free (hdraft .reach) rfl) ⟨hdraft .makeNew, rfl, rfl⟩ cookiePlace_standing ha rfl bytes)).trans ?_
  rw [standing, FileSystem.insert_insert]
  rfl

end

/-- A bound listener whose address cannot be told. -/
theorem start_failure_over_cookie_unaddressed :
    let old := Cookie.content (Cookie.secretOf (Vector.replicate 32 1))
    let fs := standing old 0o600
    let bytes := Vector.replicate 32 0
    let net : Binding := ⟨.ok (), .error (.system .notPermitted)⟩
    (start overStanding bytes net fs).2 = .error (.bind overStanding.address (.system .notPermitted)) ∧
      ∃ l, (start overStanding bytes net fs).1.stat "/.cookie".toList =
        .ok (l, .file (Cookie.content (Cookie.secretOf bytes)) 0o600) := by
  intro old fs bytes net
  have he : (start overStanding bytes net fs).2 = .error (.bind overStanding.address (.system .notPermitted)) := by
    rw [start_overStanding]
    rfl
  refine ⟨he, ?_⟩
  rcases (start_failure_over_cookie overStanding _ rfl fs _ _ _ stat_standing bytes net .sound _ he).1 with
    ⟨e', h, -⟩ | ⟨fault, -, ⟨h, -⟩ | ⟨-, -, h⟩⟩
  · cases h
  · cases h
  · exact h

/-- The cookie of another instance is gone when a start finds its address in use. -/
theorem start_drops_standing_cookie :
    let old := Cookie.content (Cookie.secretOf (Vector.replicate 32 1))
    let fs := standing old 0o600
    let bytes := Vector.replicate 32 0
    let net : Binding := ⟨.error (.system .addressInUse), .error (.system .addressInUse)⟩
    fs.stat "/.cookie".toList = .ok ([Cookie.fileName], .file old 0o600) ∧
      (start overStanding bytes net fs).2 = .error (.bind overStanding.address (.system .addressInUse)) ∧
      (start overStanding bytes net fs).1.stat "/.cookie".toList = .error (.system .notFound) := by
  intro old fs bytes net
  have hremove : Cookie.remove ⟨Cookie.secretOf bytes, "/.cookie".toList⟩
      (standing (Cookie.content (Cookie.secretOf bytes)) 0o600) = FileSystem.empty 0o022 := by
    have hplace := Cookie.cookiePlace_root 0o022
    exact (Cookie.remove_of_place (c := ⟨_, _⟩) hplace (hplace.locate_insert rfl _ 0o600)).trans
      (FileSystem.erase_eq_self rfl)
  have hstart : start overStanding bytes net fs =
      (FileSystem.empty 0o022, .error (.bind overStanding.address (.system .addressInUse))) := by
    rw [start_overStanding, listen]
    simp only [net, hremove]
  rw [hstart]
  exact ⟨stat_standing, rfl, FileSystem.stat_of_free (Cookie.cookiePlace_root 0o022).locate rfl⟩

end Server

end RpcGate
