import RpcGate.Cookie.Provision
import RpcGate.Proofs.Locate

/-!
# The file that is being written

What creating, removing and moving a file take for granted, and what each
operation does to the draft of a cookie: a file under the temporary name, where
nothing stood before.
-/

namespace RpcGate

namespace FileSystem

section
variable {fs fs' : FileSystem} {p source target : Path}

theorem createNew_eq_ok_iff {mode : Mode} : fs.createNew p mode = .ok fs' ↔ ∃ loc, fs.locate .makeNew p = .ok loc ∧
    fs.node? loc = none ∧ fs.mayChange loc ∧ fs' = fs.insert loc (.file [] (fs.granted mode)) := by
  unfold createNew
  constructor
  · intro h
    cases hl : fs.locate .makeNew p with
    | error e => rw [hl] at h; cases h
    | ok loc =>
      rw [hl] at h
      simp only [bind, Except.bind] at h
      split at h
      · cases h
      · next hn =>
        split at h
        · cases h
        · next hm =>
          cases h
          exact ⟨loc, rfl, by simpa using hn, by simpa using hm, rfl⟩
  · intro h
    obtain ⟨loc, hl, hn, hm, rfl⟩ := h
    simp [hl, bind, Except.bind, hn, hm]

theorem remove_eq_ok_iff : fs.remove p = .ok fs' ↔ ∃ loc n, fs.locate .entry p = .ok loc ∧
    fs.node? loc = some n ∧ Path.endsInName p ∧ fs.mayChange loc ∧ n.isDirectory = false ∧ fs' = fs.erase loc := by
  unfold remove
  constructor
  · intro h
    cases hl : fs.locate .entry p with
    | error e => rw [hl] at h; cases h
    | ok loc =>
      rw [hl] at h
      simp only [bind, Except.bind] at h
      split at h
      · cases h
      · next n hn =>
        cases he : Path.endsInName p
        · simp [he] at h
        cases hm : fs.mayChange loc
        · simp [he, hm] at h
        cases hd : n.isDirectory
        · simp only [he, hm, hd, Bool.not_true, Bool.false_eq_true, if_false] at h
          exact ⟨loc, n, rfl, hn, rfl, hm, hd, (Except.ok.inj h).symm⟩
        · simp [he, hm, hd] at h
  · intro h
    obtain ⟨loc, n, hl, hn, he, hm, hd, rfl⟩ := h
    simp only [hl, bind, Except.bind, hn, he, hm, hd, Bool.not_true, Bool.false_eq_true, if_false]

theorem rename_eq_ok_iff : fs.rename source target = .ok fs' ↔ ∃ old new n, fs.locate .entry source = .ok old ∧
    fs.locate .entry target = .ok new ∧ Path.endsInName target ∧ fs.node? old = some n ∧ fs.mayChange old ∧
    fs.mayChange new ∧ (∀ m, fs.node? new ≠ some (.directory m)) ∧ fs' = (fs.erase old).insert new n := by
  unfold rename
  constructor
  · intro h
    cases ho : fs.locate .entry source with
    | error e => rw [ho] at h; cases h
    | ok old =>
      cases hn : fs.locate .entry target with
      | error e => rw [ho, hn] at h; cases h
      | ok new =>
        rw [ho, hn] at h
        simp only [bind, Except.bind] at h
        split at h
        · cases h
        · next hlast =>
          split at h
          · cases h
          · next hpiece =>
            split at h
            · cases h
            · next n hnode =>
              split at h
              · cases h
              · next hm =>
                split at h
                · cases h
                · next hd =>
                  cases h
                  simp only [Bool.or_eq_true, Bool.not_eq_true', not_or, Bool.not_eq_false] at hm
                  refine ⟨old, new, n, rfl, rfl, by simp [Path.endsInName, hlast, hpiece], hnode, hm.1, hm.2, ?_, rfl⟩
                  intro m hdir
                  rw [hdir] at hd
                  exact hd rfl
  · intro h
    obtain ⟨old, new, n, ho, hn, he, hnode, hold, hnew, hd, rfl⟩ := h
    have hany : (fs.node? new).any Node.isDirectory = false := by
      cases hnew' : fs.node? new with
      | none => rfl
      | some node =>
        cases node with
        | directory m => exact absurd hnew' (hd m)
        | _ => rfl
    simp only [Path.endsInName, ne_eq, Bool.and_eq_true, decide_eq_true_eq] at he
    simp [ho, hn, bind, Except.bind, he, hnode, hold, hnew, hany]

end

end FileSystem

namespace Cookie

theorem slash_not_mem_ending : '/' ∉ ".tmp".toList := by decide

theorem endsInName_temporary (path : Path) : Path.endsInName (temporary path) := by
  have hlen : 2 < (Path.lastPiece (temporary path)).length := by
    rw [temporary, Path.lastPiece_withEnding slash_not_mem_ending, List.length_append]
    exact Nat.lt_of_lt_of_le (by decide : 2 < ".tmp".toList.length) (Nat.le_add_left _ _)
  rw [Path.endsInName_iff]
  refine ⟨?_, ?_, ?_⟩
  · intro h; rw [h] at hlen; simp at hlen
  · intro h; rw [h] at hlen; simp at hlen
  · intro h; rw [h] at hlen; simp at hlen

theorem locate_temporary_ne {fs : FileSystem} {aim aim' : FileSystem.Aim} {path : Path} {loc t : Location}
    (h : fs.locate aim path = .ok loc) (hf : aim.follows = false)
    (ht : fs.locate aim' (temporary path) = .ok t) (hf' : aim'.follows = false) : loc ≠ t :=
  FileSystem.locate_ending slash_not_mem_ending (by decide) h hf ht hf'

/-- A place for the draft: nothing stands there, and entries can be made. -/
structure DraftPlace (path : Path) (fs : FileSystem) (t : Location) : Prop where
  locate : fs.locate .makeNew (temporary path) = .ok t
  free : fs.node? t = none
  mayChange : fs.mayChange t

/-- A place that a cookie can be moved to. -/
structure CookiePlace (path : Path) (fs : FileSystem) (loc : Location) : Prop where
  locate : fs.locate .entry path = .ok loc
  endsInName : Path.endsInName path
  mayChange : fs.mayChange loc
  notDirectory : ∀ m, fs.node? loc ≠ some (.directory m)

abbrev withDraft (fs : FileSystem) (t : Location) (content : Bytes) (mode : Mode) : FileSystem :=
  fs.insert t (.file content mode)

theorem draft_of_createNew {path : Path} {fs fs' : FileSystem} {mode : Mode}
    (h : fs.createNew (temporary path) mode = .ok fs') :
    ∃ t, DraftPlace path fs t ∧ fs' = withDraft fs t [] (fs.granted mode) := by
  obtain ⟨t, hl, hn, hm, rfl⟩ := FileSystem.createNew_eq_ok_iff.1 h
  exact ⟨t, ⟨hl, hn, hm⟩, rfl⟩

namespace DraftPlace

variable {path : Path} {fs fs' : FileSystem} {t : Location} {content : Bytes} {mode : Mode}

theorem entry (h : DraftPlace path fs t) : fs.locate .entry (temporary path) = .ok t :=
  FileSystem.locate_retarget h.locate rfl (fun h => h) fun h => .inl h

theorem createNew (h : DraftPlace path fs t) (mode : Mode) :
    fs.createNew (temporary path) mode = .ok (withDraft fs t [] (fs.granted mode)) :=
  FileSystem.createNew_eq_ok_iff.2 ⟨t, h.locate, h.free, h.mayChange, rfl⟩

theorem thins (h : DraftPlace path fs t) : fs.Thins (withDraft fs t content mode) :=
  FileSystem.thins_insert_file fun m hd => by rw [h.free] at hd; cases hd

theorem thins_back (h : DraftPlace path fs t) : (withDraft fs t content mode).Thins fs :=
  FileSystem.thins_of_insert_file fun n hn => by rw [h.free] at hn; cases hn

theorem node?_withDraft : (withDraft fs t content mode).node? t = some (.file content mode) :=
  fs.node?_insert_self t _

theorem locate_withDraft (h : DraftPlace path fs t) :
    (withDraft fs t content mode).locate .entry (temporary path) = .ok t :=
  FileSystem.locate_of_thins h.entry h.thins_back rfl

/-- A draft is no part of what its path names. -/
theorem entry?_withDraft (h : DraftPlace path fs t) :
    FileSystem.entry? (withDraft fs t content mode) path = fs.entry? path := by
  unfold FileSystem.entry?
  cases hl : fs.locate .entry path with
  | ok loc =>
    rw [FileSystem.locate_of_thins hl h.thins_back rfl]
    exact (fs.node?_insert t loc _).trans (if_neg (locate_temporary_ne hl rfl h.entry rfl))
  | error fault =>
    cases hl' : (withDraft fs t content mode).locate .entry path with
    | error fault' => rfl
    | ok loc =>
      rw [FileSystem.locate_of_thins hl' h.thins rfl] at hl
      cases hl

theorem stat_withDraft (h : DraftPlace path fs t) :
    (withDraft fs t content mode).stat (temporary path) = .ok (t, .file content mode) :=
  FileSystem.stat_of_entry h.locate_withDraft node?_withDraft (by simp)

theorem isFile_withDraft (h : DraftPlace path fs t) :
    (withDraft fs t content mode).isFile (temporary path) = true := by
  rw [FileSystem.isFile, h.stat_withDraft]
  rfl

theorem extend_withDraft (h : DraftPlace path fs t) (more : Bytes) :
    (withDraft fs t content mode).extend (temporary path) more = .ok (withDraft fs t (content ++ more) mode) := by
  rw [FileSystem.extend, h.stat_withDraft]
  simp only [bind, Except.bind, FileSystem.insert_insert]

theorem apply_withDraft (h : DraftPlace path fs t) (capability : Capability) (wanted : Mode) :
    capability.apply (withDraft fs t content mode) (temporary path) wanted =
      (capability.choose (.ok mode) wanted).map (withDraft fs t content) := by
  rw [Capability.apply, Capability.present, h.stat_withDraft]
  simp only [Except.map, Node.mode]
  cases capability.choose (.ok mode) wanted with
  | error fault => rfl
  | ok bits =>
    simp only [bind, Except.bind, FileSystem.setMode, h.stat_withDraft, Node.withMode, FileSystem.insert_insert]

theorem remove_withDraft (h : DraftPlace path fs t) :
    (withDraft fs t content mode).remove (temporary path) = .ok fs := by
  refine FileSystem.remove_eq_ok_iff.2
    ⟨t, _, h.locate_withDraft, node?_withDraft, endsInName_temporary path, ?_, rfl, ?_⟩
  · rw [h.thins.mayChange]; exact h.mayChange
  · rw [FileSystem.erase_insert, FileSystem.erase_eq_self h.free]

theorem rename_withDraft_iff (h : DraftPlace path fs t) :
    (withDraft fs t content mode).rename (temporary path) path = .ok fs' ↔
      ∃ loc, CookiePlace path fs loc ∧ fs' = fs.insert loc (.file content mode) := by
  have herase : (withDraft fs t content mode).erase t = fs := by
    rw [FileSystem.erase_insert, FileSystem.erase_eq_self h.free]
  rw [FileSystem.rename_eq_ok_iff]
  constructor
  · intro hr
    obtain ⟨old, new, n, ho, hn, he, hnode, -, hm, hd, rfl⟩ := hr
    obtain rfl := FileSystem.locate_unique h.locate_withDraft ho
    rw [node?_withDraft] at hnode
    cases hnode
    refine ⟨new, ⟨FileSystem.locate_of_thins hn h.thins rfl, he, ?_, ?_⟩, by rw [herase]⟩
    · rw [← h.thins.mayChange]; exact hm
    · intro m hdir
      exact hd m ((h.thins.directory _ _).2 hdir)
  · intro hr
    obtain ⟨loc, hp, rfl⟩ := hr
    refine ⟨t, loc, _, h.locate_withDraft, FileSystem.locate_of_thins hp.locate h.thins_back rfl, hp.endsInName,
      node?_withDraft, ?_, ?_, ?_, by rw [herase]⟩
    · rw [h.thins.mayChange]; exact h.mayChange
    · rw [h.thins.mayChange]; exact hp.mayChange
    · intro m hdir
      exact hp.notDirectory m ((h.thins.directory _ _).1 hdir)

end DraftPlace

theorem CookiePlace.locate_insert {path : Path} {fs : FileSystem} {loc : Location} (h : CookiePlace path fs loc)
    (hn : fs.node? loc = none) (content : Bytes) (mode : Mode) :
    (fs.insert loc (.file content mode)).locate .entry path = .ok loc :=
  FileSystem.locate_of_thins h.locate (FileSystem.thins_of_insert_file fun n hn' => by rw [hn] at hn'; cases hn') rfl

/-! ## Where nothing is in the way -/

section
variable (umask : Mode)

theorem locate_root {n : Name} (hn : Path.IsProper n) (hp : '\x00' ∉ n) (hs : '/' ∉ n) (aim : FileSystem.Aim) :
    (FileSystem.empty umask).locate aim ('/' :: n) = .ok [n] :=
  FileSystem.locate_top ⟨0o755, rfl, rfl⟩ hn hp hs aim fun _ target h => by cases h

theorem isFile_temporary_root : (FileSystem.empty umask).isFile (temporary "/.cookie".toList) = false :=
  FileSystem.isFile_of_free (locate_root umask (by unfold Path.IsProper; decide) (by decide) (by decide) .reach) rfl

theorem draftPlace_root : DraftPlace "/.cookie".toList (FileSystem.empty umask) [".cookie.tmp".toList] :=
  ⟨locate_root umask (by unfold Path.IsProper; decide) (by decide) (by decide) .makeNew, rfl, rfl⟩

theorem cookiePlace_root : CookiePlace "/.cookie".toList (FileSystem.empty umask) [".cookie".toList] :=
  ⟨locate_root umask (by unfold Path.IsProper; decide) (by decide) (by decide) .entry, by decide, rfl,
    fun m h => by cases h⟩

end

end Cookie

end RpcGate
