import RpcGate.Proofs.Publication

/-!
# What a failed provisioning leaves

Whatever fails before the cookie is in its place does no harm: no file is
added or altered. A cookie whose bits are then found wrong stays where it is
(`provision_failure`).
-/

namespace RpcGate

namespace Cookie

/-- No file is new, the entry of the cookie is as it was, and no other entry has changed but that of
a leftover draft, which is gone. -/
structure Harmless (path : Path) (fs fs' : FileSystem) : Prop where
  files : ∀ loc content mode, fs'.node? loc = some (.file content mode) → fs.node? loc = some (.file content mode)
  cookie : fs'.entry? path = fs.entry? path
  others : ∀ loc, fs'.node? loc ≠ fs.node? loc → fs'.node? loc = none ∧
    fs.isFile (temporary path) = true ∧ fs.locate .entry (temporary path) = .ok loc

/-- The whole cookie stands at its entry, and nothing else has changed but for a leftover draft. -/
structure LeftBehind (path : Path) (secret : Text) (fs fs' : FileSystem) : Prop where
  cookie : ∃ loc mode, fs.locate .entry path = .ok loc ∧ fs'.node? loc = some (.file (content secret) mode)
  others : ∀ loc, fs.locate .entry path ≠ .ok loc → fs.locate .entry (temporary path) ≠ .ok loc →
    fs'.node? loc = fs.node? loc

theorem Spared.harmless {path : Path} {fs fs' : FileSystem} (h : Spared path fs fs') : Harmless path fs fs' := by
  refine ⟨fun loc content mode hn => h.node?_of_some hn, h.entry?_cookie, fun loc hne => ?_⟩
  cases h with
  | same => exact absurd rfl hne
  | stale hf ht =>
    rw [FileSystem.node?_erase] at hne ⊢
    split at hne
    · next he =>
      subst he
      exact ⟨if_pos rfl, hf, ht⟩
    · exact absurd rfl hne

theorem Stands.leftBehind {path : Path} {fs fs' : FileSystem} {secret : Text} {mode : Mode}
    (h : Stands path fs (.published (content secret) mode) fs') : LeftBehind path secret fs fs' := by
  obtain ⟨loc, hl, hn⟩ := h.placed
  exact ⟨⟨loc, mode, hl, hn⟩, fun loc hl ht => h.node?_other hl ht⟩

theorem harmless_undo {disk : Disk} {capability : Capability} {permissions : CookiePermissions} {path : Path}
    {secret : Text} {fs : FileSystem} {before after : List Step} {s : Step}
    (hs : steps permissions secret = before ++ s :: after) (hr : (runSteps disk capability path before fs).2 = none) :
    Harmless path fs (s.undo path (s.leave disk path (runSteps disk capability path before fs).1)) := by
  have ht := throughout_steps disk capability permissions fs.umask secret
  rw [hs] at ht
  obtain ⟨phase, -, hstands, hend, -⟩ := Stands.runSteps .fresh ht.of_append
  obtain ⟨hleft, hexpects⟩ := hstands.leave (hend hr).2.1 disk
  exact (hleft.undo hexpects).harmless

/-- A provider that fails is failed for good. If the publication failed there is no harm done, however
far a write came; if the bits were found wrong after it, the cookie has been left behind. -/
theorem Provider.provision_failure (p : Provider) (disk : Disk) (bytes : Vector UInt8 32) (fs : FileSystem)
    (e : AuthError) (h : (p.provision bytes fs disk).result = .error e) :
    (p.provision bytes fs disk).state = .failedFatal ∧
    ((publish disk p.capability p.permissions p.path (secretOf bytes) fs).2 = some e ∧
        Harmless p.path fs (p.provision bytes fs disk).files ∨
      (publish disk p.capability p.permissions p.path (secretOf bytes) fs).2 = none ∧
        checkMode p.capability p.permissions p.path (p.provision bytes fs disk).files = some e ∧
        LeftBehind p.path (secretOf bytes) fs (p.provision bytes fs disk).files) ∧
    ∀ before s after, steps p.permissions (secretOf bytes) = before ++ s :: after →
      (runSteps disk p.capability p.path before fs).2 = none →
      Harmless p.path fs (s.undo p.path (s.leave disk p.path (runSteps disk p.capability p.path before fs).1)) := by
  have hfiles := publish_cases disk p.capability p.permissions p.path (secretOf bytes) fs
  refine ⟨?_, ?_, fun before s after hs hr => harmless_undo hs hr⟩
  · rcases p.provision_cases bytes fs disk with ⟨_, -, hp⟩ | ⟨-, ⟨_, -, hp⟩ | ⟨-, hp⟩⟩
    · rw [hp]
    · rw [hp]
    · rw [hp] at h; cases h
  · rcases p.provision_cases bytes fs disk with ⟨e', he, hp⟩ | ⟨hn, ⟨e', hc, hp⟩ | ⟨-, hp⟩⟩
    · rw [hp] at h ⊢
      cases h
      obtain ⟨_, -, hs⟩ := hfiles.resolve_right fun hr => by rw [he] at hr; cases hr.1
      exact .inl ⟨he, hs.harmless⟩
    · rw [hp] at h ⊢
      cases h
      obtain ⟨-, mode, -, hs⟩ := hfiles.resolve_left fun hl => by
        obtain ⟨_, he, -⟩ := hl
        rw [hn] at he; cases he
      exact .inr ⟨hn, hc, hs.leftBehind⟩
    · rw [hp] at h; cases h

/-- A directory has the name of the cookie: the rename fails, when the draft holds the whole secret. -/
theorem Provider.provision_failure_directory :
    let p : Provider := ⟨"/.cookie".toList, .ownerOnly, .posix, .uninitialized⟩
    let fs := (FileSystem.empty 0).insert [".cookie".toList] (.directory 0o755)
    let bytes := Vector.replicate 32 0
    let drafted := withDraft fs [".cookie.tmp".toList] (content (secretOf bytes)) 0o600
    (runSteps .sound p.capability p.path (steps p.permissions (secretOf bytes)) fs) =
        (drafted, some (.rename, .system .isDirectory)) ∧
      (p.provision bytes fs).result = .error (.cookieNotWritten p.path (.system .isDirectory)) ∧
      (p.provision bytes fs).state = .failedFatal ∧ Harmless p.path fs (p.provision bytes fs).files := by
  intro p fs bytes drafted
  have hroot : fs.Opens [] := ⟨0o755, rfl, rfl⟩
  have hlink {n : Name} (target : Path) : fs.node? [n] ≠ some (.link target) := by
    rw [FileSystem.node?_insert]
    split
    · simp
    · exact fun h => by cases h
  have htemporary (aim : FileSystem.Aim) : fs.locate aim (temporary p.path) = .ok [".cookie.tmp".toList] :=
    FileSystem.locate_top hroot (by unfold Path.IsProper; decide) (by decide) (by decide) aim fun _ => hlink
  have hdraft : DraftPlace p.path fs [".cookie.tmp".toList] := ⟨htemporary .makeNew, rfl, rfl⟩
  have hcookie : drafted.locate .entry p.path = .ok [".cookie".toList] :=
    FileSystem.locate_of_thins
      (FileSystem.locate_top hroot (by unfold Path.IsProper; decide) (by decide) (by decide) .entry fun _ => hlink)
      hdraft.thins_back rfl
  have hrename : drafted.rename (temporary p.path) p.path = .error (.system .isDirectory) := by
    rw [FileSystem.rename, hdraft.locate_withDraft, hcookie]
    rfl
  have hrun : runSteps .sound p.capability p.path (steps p.permissions (secretOf bytes)) fs =
      (drafted, some (.rename, .system .isDirectory)) := by
    have hmode : IsFinalMode p.capability p.permissions fs.umask 0o600 := rfl
    rw [runSteps_of_draftPlace (FileSystem.isFile_of_free (htemporary .reach) rfl) hdraft hmode, runSteps,
      show Step.run .sound p.capability p.path drafted .rename = _ from hrename]
    rfl
  have hpublish : (publish .sound p.capability p.permissions p.path (secretOf bytes) fs).2 =
      some (.cookieNotWritten p.path (.system .isDirectory)) := by
    rw [publish, hrun]
    rfl
  have hr : (p.provision bytes fs).result = .error (.cookieNotWritten p.path (.system .isDirectory)) := by
    rcases p.provision_cases bytes fs .sound with ⟨e, he, hp⟩ | ⟨hn, -⟩
    · rw [hp, Option.some.inj (he.symm.trans hpublish)]
    · cases hpublish.symm.trans hn
  obtain ⟨hstate, hleft, -⟩ := p.provision_failure .sound bytes fs _ hr
  refine ⟨hrun, hr, hstate, ?_⟩
  rcases hleft with ⟨-, h⟩ | ⟨h, -⟩
  · exact h
  · cases hpublish.symm.trans h

/-- A capability that sets the bits and reports others: the provider fails with the cookie, secret
and all, where nothing was. -/
theorem Provider.provision_leaves_secret :
    let capability : Capability := ⟨fun _ wanted => .ok wanted, fun p => p.map fun bits => some (bits.toNat + 4)⟩
    let p : Provider := ⟨"/.cookie".toList, .ownerOnly, capability, .uninitialized⟩
    let fs := FileSystem.empty 0
    let bytes := Vector.replicate 32 0
    (p.provision bytes fs).result = .error (.cookieMode p.path 0o600 0o604) ∧ fs.entry? p.path = none ∧
      FileSystem.entry? (p.provision bytes fs).files p.path = some (.file (content (secretOf bytes)) 0o600) ∧
      ¬ Harmless p.path fs (p.provision bytes fs).files := by
  intro capability p fs bytes
  have hplace : CookiePlace p.path fs [".cookie".toList] := cookiePlace_root 0
  let after := fs.insert [".cookie".toList] (.file (content (secretOf bytes)) 0o600)
  have hpublish : publish .sound p.capability p.permissions p.path (secretOf bytes) fs = (after, none) :=
    have hmode : IsFinalMode p.capability p.permissions fs.umask 0o600 := rfl
    publish_of_places (isFile_temporary_root 0) (draftPlace_root 0) hplace hmode (secretOf bytes)
  have hnone : fs.entry? p.path = none := by
    unfold FileSystem.entry?
    rw [hplace.locate]
    rfl
  have hlocate : after.locate .entry p.path = .ok [".cookie".toList] := hplace.locate_insert rfl _ _
  have hentry : after.entry? p.path = some (.file (content (secretOf bytes)) 0o600) := by
    unfold FileSystem.entry?
    rw [hlocate]
    rfl
  have hcheck : checkMode p.capability p.permissions p.path after = some (.cookieMode p.path 0o600 0o604) := by
    have hstat : after.stat p.path = .ok (_, .file (content (secretOf bytes)) 0o600) :=
      FileSystem.stat_of_entry hlocate rfl (by simp)
    have hreport : p.capability.mode after p.path = .ok (some 0o604) := by
      rw [Capability.mode, Capability.present, hstat]
      rfl
    unfold checkMode
    simp only [hreport]
    rfl
  have hprovision : p.provision bytes fs = ⟨after, .failedFatal, .error (.cookieMode p.path 0o600 0o604)⟩ := by
    simp only [Provider.provision, hpublish, hcheck]
  rw [hprovision]
  refine ⟨rfl, hnone, hentry, fun h => ?_⟩
  have hsame := h.cookie
  rw [hentry, hnone] at hsame
  cases hsame

end Cookie

end RpcGate
