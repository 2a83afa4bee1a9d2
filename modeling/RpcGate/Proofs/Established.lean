import RpcGate.Proofs.EntryText
import RpcGate.Proofs.Lifecycle

/-!
# What a successful provisioning establishes

The whole cookie stands at the entry that its path names, with the bits that
were asked for, and nothing else has changed but for a leftover draft
(`Provider.provision_establishes`). The path leads to it, unless it leads
through the very link that the cookie has replaced; where bits are asked for,
reading them back finds that out.
-/

namespace RpcGate

namespace Cookie

section
variable {path : Path} {fs fs' : FileSystem} {held : Bytes} {mode : Mode} {permissions : CookiePermissions}

theorem Stands.entry?_of_stat (h : Stands path fs (.published held mode) fs') {found : Location × Node}
    (hs : fs'.stat path = .ok found) : fs'.entry? path = some (.file held mode) := by
  obtain ⟨l, hl⟩ := FileSystem.exists_locate_entry (FileSystem.stat_eq_ok hs).1
  exact FileSystem.entry?_eq_some_iff.2 ⟨l, hl, h.node?_of_locate hl⟩

theorem Stands.entry?_temporary (h : Stands path fs (.published held mode) fs') : fs'.entry? (temporary path) = none := by
  rw [Option.eq_none_iff_forall_ne_some]
  intro n hn
  cases h with
  | published hc hd hp =>
    obtain ⟨t, ht, hn⟩ := FileSystem.entry?_eq_some_iff.1 hn
    have ht := FileSystem.locate_of_thins ht (FileSystem.thins_insert_file hp.notDirectory) rfl
    rw [FileSystem.node?_insert, if_neg (locate_temporary_ne hp.locate rfl ht rfl).symm,
      FileSystem.locate_unique ht hd.entry, hd.free] at hn
    cases hn

theorem Stands.node?_temporary (h : Stands path fs (.published held mode) fs') {t : Location}
    (ht : fs.locate .entry (temporary path) = .ok t) : fs'.node? t = none := by
  cases h with
  | published hc hd hp =>
    obtain rfl := FileSystem.locate_unique ht (FileSystem.locate_of_thins hd.entry hc.spared.thins rfl)
    rw [FileSystem.node?_insert, if_neg (locate_temporary_ne hp.locate rfl hd.entry rfl).symm, hd.free]

theorem Stands.not_directory (h : Stands path fs (.published held mode) fs') (m : Mode) :
    fs.entry? path ≠ some (.directory m) ∧ fs.entry? (temporary path) ≠ some (.directory m) := by
  simp only [ne_eq, FileSystem.entry?_eq_some_iff, not_exists, not_and]
  cases h with
  | published hc hd hp =>
    have hthins := hc.spared.thins
    constructor
    · intro l hl hn
      obtain rfl := FileSystem.locate_unique hl (FileSystem.locate_of_thins hp.locate hthins rfl)
      exact hp.notDirectory m ((hthins.directory _ m).2 hn)
    · intro t ht hn
      obtain rfl := FileSystem.locate_unique ht (FileSystem.locate_of_thins hd.entry hthins rfl)
      have hfree := (hthins.directory t m).2 hn
      rw [hd.free] at hfree
      cases hfree

theorem IsFinalMode.eq_getD {umask : Mode} (h : IsFinalMode Capability.posix permissions umask mode) :
    mode = permissions.target?.getD (0o666 &&& ~~~umask) := by
  cases ht : permissions.target? with
  | none => rwa [IsFinalMode, ht, draftMode, ht] at h
  | some m => exact h.eq_target ht

theorem stat_of_checkMode {m : Mode} (hm : permissions.target? = some m)
    (h : checkMode .posix permissions path fs = none) : ∃ found, fs.stat path = .ok found := by
  unfold checkMode at h
  cases hs : fs.stat path with
  | ok found => exact ⟨found, rfl⟩
  | error fault => simp [hm, Capability.mode, Capability.posix, Capability.present, hs, Except.map] at h

end

theorem secretOf_hex (bytes : Vector UInt8 32) :
    (secretOf bytes).length = 64 ∧ ∀ c ∈ secretOf bytes, c ∈ "0123456789abcdef".toList := by
  refine ⟨?_, fun c hc => Hex.mem_encode hc⟩
  rw [secretOf, Hex.length_encode]
  simp

theorem verify_content (c : Cookie) : ∃ user secret,
    (Text.ofUtf8? (content c.secret)).bind (Text.splitOnce ':') = some (user, secret) ∧ c.verify user secret := by
  refine ⟨username, c.secret, ?_, (c.verify_iff _ _).2 ⟨rfl, rfl⟩⟩
  rw [content, Text.ofUtf8?_utf8, Option.bind_some]
  exact Text.splitOnce_eq_some_iff.2 ⟨rfl, by decide⟩

theorem Provider.stands_of_ok {p : Provider} {disk : Disk} {bytes : Vector UInt8 32} {fs : FileSystem} {c : Cookie}
    (h : (p.provision bytes fs disk).result = .ok c) :
    (p.provision bytes fs disk).state = .active ∧ c = ⟨secretOf bytes, p.path⟩ ∧
      checkMode p.capability p.permissions p.path (p.provision bytes fs disk).files = none ∧
      ∃ mode, IsFinalMode p.capability p.permissions fs.umask mode ∧
        Stands p.path fs (.published (content (secretOf bytes)) mode) (p.provision bytes fs disk).files := by
  rcases p.provision_cases bytes fs disk with ⟨_, -, hp⟩ | ⟨hn, ⟨_, -, hp⟩ | ⟨hcheck, hp⟩⟩
  · rw [hp] at h; cases h
  · rw [hp] at h; cases h
  · rcases publish_cases disk p.capability p.permissions p.path (secretOf bytes) fs with ⟨e, he, -⟩ | ⟨-, hs⟩
    · cases he.symm.trans hn
    · rw [hp] at h ⊢
      cases h
      exact ⟨rfl, rfl, hcheck, hs⟩

/-- Everything that a successful provisioning promises, and that it promises nothing where a
directory has one of the two names. -/
theorem Provider.provision_establishes (p : Provider) (hp : p.capability = .posix) (disk : Disk)
    (bytes : Vector UInt8 32) (fs : FileSystem) (c : Cookie) (h : (p.provision bytes fs disk).result = .ok c) :
    let fs' := (p.provision bytes fs disk).files
    let file := Node.file (content c.secret) (p.permissions.target?.getD (0o666 &&& ~~~fs.umask))
    (p.provision bytes fs disk).state = .active ∧ c.path = p.path ∧
    c.secret.length = 64 ∧ (∀ d ∈ c.secret, d ∈ "0123456789abcdef".toList) ∧
    (∃ loc, fs.locate .entry p.path = .ok loc ∧ fs'.node? loc = some file) ∧
    (fs.AvoidsOwnLink p.path ↔ fs'.entry? p.path = some file) ∧
    (p.permissions.target?.isSome → fs'.entry? p.path = some file) ∧
    (∀ t, fs.locate .entry (temporary p.path) = .ok t → fs'.node? t = none) ∧ fs'.entry? (temporary p.path) = none ∧
    (∀ loc, fs.locate .entry p.path ≠ .ok loc → fs.locate .entry (temporary p.path) ≠ .ok loc →
      fs'.node? loc = fs.node? loc) ∧
    (∃ user secret, (Text.ofUtf8? (content c.secret)).bind (Text.splitOnce ':') = some (user, secret) ∧
      c.verify user secret) ∧
    (∀ m, fs.entry? p.path ≠ some (.directory m) ∧ fs.entry? (temporary p.path) ≠ some (.directory m)) := by
  intro fs' file
  obtain ⟨hstate, rfl, hcheck, mode, hm, hs⟩ := stands_of_ok h
  rw [hp] at hm hcheck
  obtain rfl := hm.eq_getD
  obtain ⟨hlength, hdigits⟩ := secretOf_hex bytes
  refine ⟨hstate, rfl, hlength, hdigits, hs.placed, hs.entry?_cookie_iff.symm, ?_,
    fun t => hs.node?_temporary, hs.entry?_temporary, fun loc => hs.node?_other, verify_content _, hs.not_directory⟩
  intro ht
  obtain ⟨m, hm⟩ := Option.isSome_iff_exists.1 ht
  obtain ⟨found, hfound⟩ := stat_of_checkMode hm hcheck
  exact hs.entry?_of_stat hfound

/-- A link has the name, and the file that it leads to cannot be written. -/
theorem Provider.provision_establishes_over_link :
    let fs := ((FileSystem.empty 0o022).insert [['f']] (.file [0x78] 0o400)).insert [".cookie".toList] (.link "/f".toList)
    let p := Provider.new "/.cookie".toList (.mode 0o640)
    let bytes := Vector.replicate 32 0
    let outcome := p.provision bytes fs
    outcome.result = .ok ⟨secretOf bytes, p.path⟩ ∧
      outcome.files.entry? p.path = some (.file (content (secretOf bytes)) 0o640) ∧
      outcome.files.node? [['f']] = some (.file [0x78] 0o400) ∧ outcome.files.entry? (temporary p.path) = none := by
  intro fs p bytes outcome
  have hroot : fs.Opens [] := ⟨0o755, rfl, rfl⟩
  have hcookie : Path.IsProper fileName := by unfold Path.IsProper; decide
  have hdraft : Path.IsProper ".cookie.tmp".toList := by unfold Path.IsProper; decide
  have hl : fs.locate .entry p.path = .ok [fileName] :=
    FileSystem.locate_top hroot hcookie (by decide) (by decide) .entry fun h => by cases h
  have ht (aim : FileSystem.Aim) : fs.locate aim (temporary p.path) = .ok [".cookie.tmp".toList] :=
    FileSystem.locate_top hroot hdraft (by decide) (by decide) aim fun _ target h => by cases h
  have ha : fs.AvoidsOwnLink p.path := by
    intro loc target hloc _
    obtain rfl := FileSystem.locate_unique hl hloc
    exact FileSystem.locate_top ⟨0o755, rfl, rfl⟩ hcookie (by decide) (by decide) .entry fun h => by cases h
  have hprovision : outcome = ⟨_, .active, .ok ⟨secretOf bytes, p.path⟩⟩ :=
    Provider.provision_of_places (o := ⟨p.path, .mode 0o640⟩) (FileSystem.isFile_of_free (ht .reach) rfl)
      ⟨ht .makeNew, rfl, rfl⟩ ⟨hl, by decide, rfl, fun m h => by cases h⟩ ha rfl bytes
  have hok : outcome.result = .ok ⟨secretOf bytes, p.path⟩ := by rw [hprovision]
  obtain ⟨-, -, -, -, -, -, hfound, -, htemporary, hothers, -⟩ := p.provision_establishes rfl .sound bytes fs _ hok
  refine ⟨hok, hfound rfl, hothers [['f']] ?_ ?_, htemporary⟩
  · rw [hl]
    decide
  · rw [ht]
    decide

/-- A path through the link that it names, and no bits to read back: the cookie is there, and its
path leads nowhere any more. -/
theorem Provider.provision_hides_cookie :
    let fs := (FileSystem.empty 0o022).insert [['l']] (.link ['.'])
    let p := Provider.new "/l/l".toList .osDefault
    let bytes := Vector.replicate 32 0
    let outcome := p.provision bytes fs
    outcome.result = .ok ⟨secretOf bytes, p.path⟩ ∧
      outcome.files.node? [['l']] = some (.file (content (secretOf bytes)) 0o644) ∧
      outcome.files.isFile p.path = false ∧ outcome.files.entry? p.path = none := by
  intro fs p bytes outcome
  have hroot : fs.Opens [] := ⟨0o755, rfl, rfl⟩
  have hl : Path.IsProper ['l'] := by unfold Path.IsProper; decide
  have ht : Path.IsProper "l.tmp".toList := by unfold Path.IsProper; decide
  have walks (aim : FileSystem.Aim) {n : Name} (hn : Path.IsProper n)
      (hlink : aim.follows → ∀ target, fs.node? [n] ≠ some (.link target)) :
      fs.Walks aim FileSystem.linkLimit [] [['l'], n] [n] :=
    .follow hroot hl (by simp [hn.1]) rfl (.inl (by simp)) (.here hroot (.last hroot hn hlink))
  have hplace : CookiePlace p.path fs [['l']] :=
    ⟨FileSystem.locate_eq_ok_iff.2 ⟨by decide, walks .entry hl fun h => by cases h⟩, by decide, rfl, fun m h => by cases h⟩
  have hdraft : DraftPlace p.path fs ["l.tmp".toList] :=
    ⟨FileSystem.locate_eq_ok_iff.2 ⟨by decide, walks .makeNew ht fun h => by cases h⟩, rfl, rfl⟩
  have hclean : fs.isFile (temporary p.path) = false :=
    FileSystem.isFile_of_free (FileSystem.locate_eq_ok_iff.2 ⟨by decide, walks .reach ht fun _ target h => by cases h⟩) rfl
  let after := fs.insert [['l']] (.file (content (secretOf bytes)) 0o644)
  have hpublish : publish .sound p.capability p.permissions p.path (secretOf bytes) fs = (after, none) :=
    have hmode : IsFinalMode p.capability p.permissions fs.umask 0o644 :=
      show (0o644 : Mode) = 0o666 &&& ~~~0o022 from by decide
    publish_of_places hclean hdraft hplace hmode (secretOf bytes)
  have hprovision : outcome = ⟨after, .active, .ok ⟨secretOf bytes, p.path⟩⟩ := by
    simp only [outcome, Provider.provision, hpublish]
    rfl
  -- what the path went through is a file now
  have hgone (aim : FileSystem.Aim) (loc : Location) : after.locate aim p.path ≠ .ok loc := by
    intro h
    rcases (FileSystem.locate_eq_ok_iff.1 h).2.cases_proper hl with ⟨h, -⟩ | ⟨hs, h⟩ | ⟨target, _, h, -⟩
    · cases h
    · obtain ⟨m, hm⟩ := h.directory_of_ne_nil hs
      cases hm
    · cases h
  have hfile : after.isFile p.path = false := by
    unfold FileSystem.isFile FileSystem.stat
    cases h : after.locate .reach p.path with
    | ok loc => exact absurd h (hgone .reach loc)
    | error fault => rfl
  have hentry : after.entry? p.path = none := by
    unfold FileSystem.entry?
    cases h : after.locate .entry p.path with
    | ok loc => exact absurd h (hgone .entry loc)
    | error fault => rfl
  rw [hprovision]
  exact ⟨rfl, rfl, hfile, hentry⟩

end Cookie

end RpcGate
