import RpcGate.Proofs.Established

/-!
# What group and other may do with the cookie

The bits that are asked for are the bits of the file, if they can be set. Where
only a flag can be, group and other never get to read the cookie or to execute
it, but all may write to it as soon as somebody may
(`Provider.provision_excess`).
-/

namespace RpcGate

namespace Mode

/-- What `bits` give to group and other and `m` does not. -/
def excess (m bits : Mode) : Mode := bits &&& 0o077 &&& ~~~m

theorem excess_self (m : Mode) : excess m m = 0 := by
  rw [excess, BitVec.and_comm m, BitVec.and_assoc]
  simp

theorem and_not_eq_zero_iff (m k : Mode) : k &&& ~~~m = 0 ↔ m &&& k = k := by
  constructor
  · intro h
    ext i hi
    have hbit := congrArg (fun b : Mode => b[i]) h
    simpa using hbit
  · intro h
    rw [← h, BitVec.and_comm m, BitVec.and_assoc]
    simp

theorem excess_flag_eq_zero_iff (m : Mode) :
    (if m &&& 0o222 = 0 then (0 : Mode) else 0o022 &&& ~~~m) = 0 ↔ m &&& 0o222 = 0 ∨ m &&& 0o022 = 0o022 := by
  split
  · next h => exact iff_of_true rfl (.inl h)
  · next h => rw [and_not_eq_zero_iff, or_iff_right h]

end Mode

namespace Cookie

section
variable {permissions : CookiePermissions} {umask m bits : Mode} {path : Path} {fs : FileSystem}

/-! ## Bits by a flag -/

theorem isFinalMode_flagged_iff (hm : permissions.target? = some m) : IsFinalMode .readOnlyFlag permissions umask bits ↔
    bits = if m &&& 0o222 = 0 then CookiePermissions.ownerBits &&& ~~~umask &&& ~~~0o222
      else CookiePermissions.ownerBits &&& ~~~umask ||| 0o222 := by
  rw [IsFinalMode, hm, draftMode_of_target hm]
  exact ⟨fun h => (Except.ok.inj h).symm, fun h => congrArg Except.ok h.symm⟩

theorem ownerBits_and_shared (x : Mode) : CookiePermissions.ownerBits &&& x &&& 0o077 = 0 := by
  rw [BitVec.and_assoc, BitVec.and_comm x, ← BitVec.and_assoc]
  exact BitVec.zero_and

theorem IsFinalMode.excess_flagged (h : IsFinalMode .readOnlyFlag permissions umask bits)
    (hm : permissions.target? = some m) : m.excess bits = if m &&& 0o222 = 0 then 0 else 0o022 &&& ~~~m := by
  rw [(isFinalMode_flagged_iff hm).1 h, Mode.excess]
  split
  · rw [BitVec.and_assoc CookiePermissions.ownerBits, ownerBits_and_shared]
    exact BitVec.zero_and
  · rw [BitVec.and_or_distrib_right, ownerBits_and_shared]
    rfl

theorem checkMode_readOnlyFlag : checkMode .readOnlyFlag permissions path fs = none := by
  unfold checkMode
  split
  · rfl
  · rfl

end

theorem posix_ne_readOnlyFlag : Capability.posix ≠ Capability.readOnlyFlag := by
  intro h
  have hreport : Capability.posix.report (.ok 0) = Capability.readOnlyFlag.report (.ok 0) := by rw [h]
  cases hreport

/-! ## The bits of a provisioned cookie -/

/-- Where bits can be set the cookie has those that are asked for. A flag gives it the bits of its
owner, and the write bits of all or of nobody: group and other have too much exactly if somebody is
to write and not both of them, and even then it is the write bit alone. -/
theorem Provider.provision_excess (p : Provider) (hp : p.capability = .posix ∨ p.capability = .readOnlyFlag) (m : Mode)
    (hm : p.permissions.target? = some m) (disk : Disk) (bytes : Vector UInt8 32) (fs : FileSystem) (c : Cookie)
    (h : (p.provision bytes fs disk).result = .ok c) :
    ∃ bits : Mode,
      (∃ loc, fs.locate .entry p.path = .ok loc ∧
        (p.provision bytes fs disk).files.node? loc = some (.file (content c.secret) bits)) ∧
      (∀ n, FileSystem.entry? (p.provision bytes fs disk).files p.path = some n → n = .file (content c.secret) bits) ∧
      (p.capability = .posix → bits = m) ∧
      (p.capability = .readOnlyFlag → bits =
        if m &&& 0o222 = 0 then CookiePermissions.ownerBits &&& ~~~fs.umask &&& ~~~0o222
        else CookiePermissions.ownerBits &&& ~~~fs.umask ||| 0o222) ∧
      (m.excess bits = 0 ↔ p.capability = .posix ∨ m &&& 0o222 = 0 ∨ m &&& 0o022 = 0o022) ∧
      m.excess bits &&& 0o055 = 0 := by
  obtain ⟨-, rfl, -, bits, hbits, hs⟩ := stands_of_ok h
  refine ⟨bits, hs.placed, fun n hn => ?_, ?_⟩
  · obtain ⟨loc, hl, hn⟩ := FileSystem.entry?_eq_some_iff.1 hn
    exact Option.some.inj (hn.symm.trans (hs.node?_of_locate hl))
  rcases hp with hp | hp
  · rw [hp] at hbits ⊢
    obtain rfl := hbits.eq_target hm
    simp [Mode.excess_self, posix_ne_readOnlyFlag]
  · rw [hp] at hbits ⊢
    refine ⟨fun h => absurd h.symm posix_ne_readOnlyFlag, fun _ => (isFinalMode_flagged_iff hm).1 hbits, ?_, ?_⟩
    · rw [hbits.excess_flagged hm, Mode.excess_flag_eq_zero_iff, or_iff_right posix_ne_readOnlyFlag.symm]
    · rw [hbits.excess_flagged hm]
      split
      · rfl
      · rw [BitVec.and_comm, ← BitVec.and_assoc]
        exact BitVec.zero_and

theorem Provider.provision_flagged {permissions : CookiePermissions} {umask bits : Mode}
    (h : IsFinalMode .readOnlyFlag permissions umask bits) (bytes : Vector UInt8 32) :
    (⟨"/.cookie".toList, permissions, .readOnlyFlag, .uninitialized⟩ : Provider).provision bytes (FileSystem.empty umask) =
      ⟨(FileSystem.empty umask).insert [".cookie".toList] (.file (content (secretOf bytes)) bits), .active,
        .ok ⟨secretOf bytes, "/.cookie".toList⟩⟩ := by
  have hpublish := publish_of_places (isFile_temporary_root umask) (draftPlace_root umask) (cookiePlace_root umask) h
    (secretOf bytes)
  unfold provision
  simp only [hpublish, checkMode_readOnlyFlag]

/-- Nobody is to write: the flag takes the owner's write bit too. -/
theorem Provider.provision_excess_read_only :
    let p : Provider := ⟨"/.cookie".toList, .mode 0o440, .readOnlyFlag, .uninitialized⟩
    let fs := FileSystem.empty 0o022
    let bytes := Vector.replicate 32 0
    (p.capability = .posix ∨ p.capability = .readOnlyFlag) ∧ p.permissions.target? = some 0o440 ∧
      (p.provision bytes fs).result = .ok ⟨secretOf bytes, p.path⟩ ∧
      (∃ loc, fs.locate .entry p.path = .ok loc ∧
        (p.provision bytes fs).files.node? loc = some (.file (content (secretOf bytes)) 0o400)) ∧
      Mode.excess 0o440 0o400 = 0 := by
  intro p fs bytes
  have hbits : IsFinalMode .readOnlyFlag p.permissions fs.umask 0o400 := (isFinalMode_flagged_iff rfl).2 (by decide)
  have hok : (p.provision bytes fs).result = .ok ⟨secretOf bytes, p.path⟩ := by
    rw [show p.provision bytes fs = _ from provision_flagged hbits bytes]
  obtain ⟨bits, hplaced, -, -, hflag, hexcess, -⟩ := p.provision_excess (.inr rfl) 0o440 rfl .sound bytes fs _ hok
  obtain rfl : bits = 0o400 := (hflag rfl).trans (by decide)
  exact ⟨.inr rfl, rfl, hok, hplaced, hexcess.2 (.inr (.inl (by decide)))⟩

/-- The owner alone is to read and write: the flag lets all write. -/
theorem Provider.provision_lets_all_write :
    let p : Provider := ⟨"/.cookie".toList, .ownerOnly, .readOnlyFlag, .uninitialized⟩
    let fs := FileSystem.empty 0o022
    let bytes := Vector.replicate 32 0
    p.permissions.target? = some 0o600 ∧ (p.provision bytes fs).result = .ok ⟨secretOf bytes, p.path⟩ ∧
      FileSystem.entry? (p.provision bytes fs).files p.path = some (.file (content (secretOf bytes)) 0o622) ∧
      Mode.excess 0o600 0o622 = 0o022 := by
  intro p fs bytes
  have hbits : IsFinalMode .readOnlyFlag p.permissions fs.umask 0o622 := (isFinalMode_flagged_iff rfl).2 (by decide)
  have hl := (cookiePlace_root 0o022).locate_insert rfl (content (secretOf bytes)) 0o622
  rw [show p.provision bytes fs = _ from provision_flagged hbits bytes]
  exact ⟨rfl, rfl, FileSystem.entry?_eq_some_iff.2 ⟨_, hl, FileSystem.node?_insert_self ..⟩, by decide⟩

end Cookie

end RpcGate
