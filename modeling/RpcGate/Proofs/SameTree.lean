import RpcGate.Listener.Startup
import RpcGate.Proofs.EntryText
import RpcGate.Proofs.Locate
import RpcGate.Proofs.TwoRuns

/-!
# Trees that differ in what files hold

Operations on paths look at directories, links and permission bits, never at
what a file holds. On two trees that differ in contents alone they succeed
together or fail together with one fault, and leave such trees again. So
neither the contents of files nor its secret decide how the publication of a
cookie ends (`provisionCookie_alike`).
-/

namespace RpcGate

namespace Node

/-- The same node, or files with the same bits, or no node both times. -/
inductive Alike : Option Node → Option Node → Prop
  | same (n : Option Node) : Alike n n
  | file (c c' : Bytes) (m : Mode) : Alike (some (.file c m)) (some (.file c' m))

theorem Alike.isSome_eq {a b : Option Node} (h : Alike a b) : b.isSome = a.isSome := by
  cases h <;> rfl

theorem Alike.isDirectory_eq {a b : Option Node} (h : Alike a b) : b.any isDirectory = a.any isDirectory := by
  cases h <;> rfl

end Node

namespace FileSystem

structure SameTree (fs fs' : FileSystem) : Prop where
  node? : ∀ loc, Node.Alike (fs.node? loc) (fs'.node? loc)
  umask : fs'.umask = fs.umask
  here : fs'.here = fs.here

/-- Both operations give trees of this kind, or both fail with one fault. -/
abbrev ChangeAlike (x y : Except Fault FileSystem) : Prop := EndAlike (fun _ => False) SameTree x y

namespace SameTree

section
variable {fs fs' : FileSystem} {loc : Location} {p source target : Path} {aim : Aim}

theorem refl (fs : FileSystem) : SameTree fs fs := ⟨fun loc => .same (fs.node? loc), rfl, rfl⟩

theorem node?_of_not_file (h : SameTree fs fs') {n : Option Node} (hn : fs.node? loc = n)
    (hf : ∀ c m, n ≠ some (.file c m)) : fs'.node? loc = n := by
  subst hn
  have ha := h.node? loc
  generalize fs.node? loc = a, fs'.node? loc = b at ha hf
  cases ha with
  | same => rfl
  | file c c' m => exact absurd rfl (hf c m)

theorem node?_cases (h : SameTree fs fs') {n : Node} (hn : fs.node? loc = some n) :
    fs'.node? loc = some n ∨ ∃ c c' m, n = .file c m ∧ fs'.node? loc = some (.file c' m) := by
  cases n with
  | file c m =>
    have ha := h.node? loc
    rw [hn] at ha
    generalize fs'.node? loc = b at ha
    cases ha with
    | same => exact .inl rfl
    | file _ c' _ => exact .inr ⟨c, c', m, rfl, rfl⟩
  | directory m => exact .inl (h.node?_of_not_file hn (by simp))
  | link t => exact .inl (h.node?_of_not_file hn (by simp))

theorem exists_node? (h : SameTree fs fs') {n : Node} (hn : fs.node? loc = some n) : ∃ n', fs'.node? loc = some n' :=
  Option.isSome_iff_exists.1 (by rw [(h.node? loc).isSome_eq, hn]; rfl)

theorem insert (h : SameTree fs fs') (loc : Location) {n n' : Node} (hn : Node.Alike (some n) (some n')) :
    SameTree (fs.insert loc n) (fs'.insert loc n') where
  node? other := by
    rw [node?_insert, node?_insert]
    split
    · exact hn
    · exact h.node? other
  umask := h.umask
  here := h.here

theorem erase (h : SameTree fs fs') (loc : Location) : SameTree (fs.erase loc) (fs'.erase loc) where
  node? other := by
    rw [node?_erase, node?_erase]
    split
    · exact .same none
    · exact h.node? other
  umask := h.umask
  here := h.here

/-! ## Paths -/

theorem walk (h : SameTree fs fs') (aim : Aim) (links : Nat) (loc : Location) (ns : List Name) :
    fs'.walk aim links loc ns = fs.walk aim links loc ns := by
  -- a file stops both walks in the same place; every other node is the same
  have directory {loc : Location} {m : Mode} (hd : fs.node? loc = some (.directory m)) :
      fs'.node? loc = some (.directory m) := h.node?_of_not_file hd (by simp)
  have link {loc : Location} {t : Path} (ht : fs.node? loc = some (.link t)) :
      fs'.node? loc = some (.link t) := h.node?_of_not_file ht (by simp)
  have free {loc : Location} (hn : fs.node? loc = none) : fs'.node? loc = none := h.node?_of_not_file hn (by simp)
  fun_induction FileSystem.walk fs aim links loc ns with
  | case1 => rw [FileSystem.walk]
  | case2 _ _ _ _ hd ih => simp [FileSystem.walk, directory hd, ih]
  | case3 _ _ _ _ _ hd h1 hs => simp [FileSystem.walk, directory hd, h1, hs]
  | case4 _ _ _ _ hd hs _ ih => simp [FileSystem.walk, directory hd, hs, ih]
  | case5 _ _ _ _ hd hs _ _ ih => simp [FileSystem.walk, directory hd, hs, ih]
  | case6 _ _ _ _ _ hd h1 hs h2 h3 hm => simp [FileSystem.walk, directory hd, h1, hs, h2, h3, hm]
  | case7 _ _ _ _ _ hd h1 hs h2 h3 hm hl => simp [FileSystem.walk, directory hd, h1, hs, h2, h3, hm, hl]
  | case8 _ _ _ _ hd h1 hs h2 h3 hl hn => simp [FileSystem.walk, directory hd, free hn, h1, hs, h2, h3, hl]
  | case9 _ _ _ _ _ hd h1 hs h2 h3 hm hl hn hns =>
    simp [FileSystem.walk, directory hd, free hn, h1, hs, h2, h3, hm, hl, hns]
  | case10 _ _ _ _ _ hd h1 hs h2 h3 _ hl _ ht hf =>
    simp [FileSystem.walk, directory hd, link ht, h1, hs, h2, h3, hl, hf]
  | case11 _ _ _ _ hd h1 hs h2 h3 hm hl _ ht hf =>
    simpa [FileSystem.walk, directory hd, link ht, h1, hs, h2, h3, hm, hl] using hf
  | case12 _ _ ns _ hd h1 hs h2 h3 hm hl _ ht hf _ ih =>
    have hf : ¬ (ns = [] ∧ aim.follows = false) := by simpa using hf
    simpa [FileSystem.walk, directory hd, link ht, h1, hs, h2, h3, hm, hl, hf] using ih
  | case13 _ _ _ _ _ hd h1 hs h2 h3 hm hl node hne hn ih =>
    rcases h.node?_cases hn with hn' | ⟨_, _, _, -, hn'⟩
    · cases node with
      | file => simp [FileSystem.walk, directory hd, hn', h1, hs, h2, h3, hm, hl, ih]
      | directory => simp [FileSystem.walk, directory hd, hn', h1, hs, h2, h3, hm, hl, ih]
      | link t => exact absurd rfl (hne t)
    · simp [FileSystem.walk, directory hd, hn', h1, hs, h2, h3, hm, hl, ih]
  | case14 _ _ _ _ node hd hn =>
    rcases h.node?_cases hn with hn' | ⟨_, _, _, -, hn'⟩
    · cases node with
      | file => simp [FileSystem.walk, hn']
      | directory m => exact absurd rfl (hd m)
      | link => simp [FileSystem.walk, hn']
    · simp [FileSystem.walk, hn']
  | case15 _ _ _ _ hn => simp [FileSystem.walk, free hn]

theorem locate (h : SameTree fs fs') (aim : Aim) (p : Path) : fs'.locate aim p = fs.locate aim p := by
  unfold FileSystem.locate
  simp only [h.walk, h.here]

theorem stat_cases (h : SameTree fs fs') (p : Path) :
    (∃ fault, fs.stat p = .error fault ∧ fs'.stat p = .error fault) ∨
      ∃ loc n n', fs.stat p = .ok (loc, n) ∧ fs'.stat p = .ok (loc, n') ∧ Node.Alike (some n) (some n') := by
  unfold FileSystem.stat
  rw [h.locate]
  cases fs.locate .reach p with
  | error fault => exact .inl ⟨fault, rfl, rfl⟩
  | ok loc =>
    cases hn : fs.node? loc with
    | none =>
      have hn' := h.node?_of_not_file hn (by simp)
      exact .inl ⟨.system .notFound, by simp [bind, Except.bind, hn], by simp [bind, Except.bind, hn']⟩
    | some n =>
      refine .inr ⟨loc, n, ?_⟩
      rcases h.node?_cases hn with hn' | ⟨c, c', m, rfl, hn'⟩
      · exact ⟨n, by simp [bind, Except.bind, hn], by simp [bind, Except.bind, hn'], .same _⟩
      · exact ⟨_, by simp [bind, Except.bind, hn], by simp [bind, Except.bind, hn'], .file c c' m⟩

theorem isFile (h : SameTree fs fs') (p : Path) : fs'.isFile p = fs.isFile p := by
  unfold FileSystem.isFile
  rcases h.stat_cases p with ⟨fault, hs, hs'⟩ | ⟨loc, n, n', hs, hs', ha⟩
  · rw [hs, hs']
  · rw [hs, hs']
    cases ha <;> rfl

theorem isDirectory (h : SameTree fs fs') (p : Path) : fs'.isDirectory p = fs.isDirectory p := by
  unfold FileSystem.isDirectory
  rcases h.stat_cases p with ⟨fault, hs, hs'⟩ | ⟨loc, n, n', hs, hs', ha⟩
  · rw [hs, hs']
  · rw [hs, hs']
    cases ha <;> rfl

theorem mayChange (h : SameTree fs fs') (loc : Location) : fs'.mayChange loc = fs.mayChange loc := by
  unfold FileSystem.mayChange
  have ha := h.node? loc.tail
  generalize fs.node? loc.tail = a, fs'.node? loc.tail = b at ha
  cases ha <;> rfl

/-! ## Changes -/

theorem createNew (h : SameTree fs fs') (p : Path) (mode : Mode) :
    ChangeAlike (fs.createNew p mode) (fs'.createNew p mode) := by
  unfold FileSystem.createNew
  rw [h.locate]
  cases fs.locate .makeNew p with
  | error fault => exact .error fault
  | ok loc =>
    have hgranted : fs'.granted mode = fs.granted mode := by rw [granted, h.umask, granted]
    simp only [bind, Except.bind, (h.node? loc).isSome_eq, h.mayChange, hgranted]
    split
    · exact .error _
    · split
      · exact .error _
      · exact .ok (h.insert loc (.same _))

theorem extend (h : SameTree fs fs') (p : Path) (more more' : Bytes) :
    ChangeAlike (fs.extend p more) (fs'.extend p more') := by
  unfold FileSystem.extend
  rcases h.stat_cases p with ⟨fault, hs, hs'⟩ | ⟨loc, n, n', hs, hs', ha⟩
  · rw [hs, hs']
    exact .error fault
  · rw [hs, hs']
    cases ha with
    | file c c' m => exact .ok (h.insert loc (.file _ _ m))
    | same => cases n with
      | file c m => exact .ok (h.insert loc (.file _ _ m))
      | directory => exact .error _
      | link => exact .error _

theorem setMode (h : SameTree fs fs') (p : Path) (mode : Mode) : ChangeAlike (fs.setMode p mode) (fs'.setMode p mode) := by
  unfold FileSystem.setMode
  rcases h.stat_cases p with ⟨fault, hs, hs'⟩ | ⟨loc, n, n', hs, hs', ha⟩
  · rw [hs, hs']
    exact .error fault
  · rw [hs, hs']
    cases ha with
    | file c c' m => exact .ok (h.insert loc (.file c c' mode))
    | same => exact .ok (h.insert loc (.same _))

theorem remove (h : SameTree fs fs') (p : Path) : ChangeAlike (fs.remove p) (fs'.remove p) := by
  unfold FileSystem.remove
  rw [h.locate]
  cases fs.locate .entry p with
  | error fault => exact .error fault
  | ok loc =>
    have hd := (h.node? loc).isDirectory_eq
    simp only [bind, Except.bind, h.mayChange]
    cases hn : fs.node? loc with
    | none =>
      rw [h.node?_of_not_file hn (by simp)]
      exact .error _
    | some n =>
      obtain ⟨n', hn'⟩ := h.exists_node? hn
      rw [hn, hn', Option.any_some, Option.any_some] at hd
      simp only [hn', hd]
      split
      · exact .error _
      · split
        · exact .error _
        · split
          · exact .error _
          · exact .ok (h.erase loc)

theorem rename (h : SameTree fs fs') (source target : Path) :
    ChangeAlike (fs.rename source target) (fs'.rename source target) := by
  unfold FileSystem.rename
  rw [h.locate, h.locate]
  cases fs.locate .entry source with
  | error fault => exact .error fault
  | ok old => cases fs.locate .entry target with
    | error fault => exact .error fault
    | ok new =>
      simp only [bind, Except.bind, h.mayChange, (h.node? new).isDirectory_eq]
      split
      · exact .error _
      · split
        · exact .error _
        · cases hn : fs.node? old with
          | none =>
            rw [h.node?_of_not_file hn (by simp)]
            exact .error _
          | some n =>
            obtain ⟨n', hn'⟩ := h.exists_node? hn
            have ha := h.node? old
            rw [hn, hn'] at ha
            simp only [hn']
            split
            · exact .error _
            · split
              · exact .error _
              · exact .ok ((h.erase old).insert new ha)

end

end SameTree

end FileSystem

/-! ## Publication -/

section
variable {fs fs' : FileSystem} (disk : Disk) (capability : Capability) (permissions : CookiePermissions) (path : Path)

theorem Capability.present_eq (h : fs.SameTree fs') (p : Path) : present fs' p = present fs p := by
  unfold present
  rcases h.stat_cases p with ⟨fault, hs, hs'⟩ | ⟨loc, n, n', hs, hs', ha⟩
  · rw [hs, hs']
  · rw [hs, hs']
    cases ha <;> rfl

namespace Cookie

/-- The same step, but for the bytes it writes, which are as many. -/
inductive Step.Alike : Step → Step → Prop
  | same (s : Step) : Alike s s
  | write {bytes bytes' : Bytes} (h : bytes'.length = bytes.length) : Alike (.write bytes) (.write bytes')

theorem Step.Alike.subject_eq {s s' : Step} (h : Alike s s') (path : Path) : s'.subject path = s.subject path := by
  cases h <;> rfl

theorem Step.write_alike (h : fs.SameTree fs') {bytes bytes' : Bytes} (hl : bytes'.length = bytes.length) :
    FileSystem.ChangeAlike (run disk capability path fs (.write bytes)) (run disk capability path fs' (.write bytes')) := by
  simp only [run, hl]
  cases disk.stop? bytes.length with
  | some stop => exact .error stop.2
  | none => exact h.extend _ bytes bytes'

theorem Step.run_alike (h : fs.SameTree fs') {s s' : Step} (hs : Alike s s') :
    FileSystem.ChangeAlike (s.run disk capability path fs) (s'.run disk capability path fs') := by
  cases hs with
  | write hl => exact write_alike disk capability path h hl
  | same => cases s with
    | discard =>
      simp only [run, h.isFile]
      split
      · exact h.remove _
      · exact .ok h
    | create mode => exact h.createNew _ mode
    | write bytes => exact write_alike disk capability path h rfl
    | sync =>
      unfold run
      cases disk.sync with
      | error fault => exact .error fault
      | ok _ => exact .ok h
    | permit wanted =>
      simp only [run, Capability.apply, Capability.present_eq h]
      cases capability.choose (Capability.present fs (temporary path)) wanted with
      | error fault => exact .error fault
      | ok bits => exact h.setMode _ bits
    | rename => exact h.rename _ _

/-- Runs that succeed leave trees of one kind; otherwise the first failing step is the same one in both. -/
theorem runSteps_alike {ss ss' : List Step} (hs : List.Forall₂ Step.Alike ss ss') (h : fs.SameTree fs') :
    ((runSteps disk capability path ss fs).2 = none →
      (runSteps disk capability path ss fs).1.SameTree (runSteps disk capability path ss' fs').1) ∧
    (runSteps disk capability path ss' fs').2.map (fun f => (f.1.subject path, f.2)) =
      (runSteps disk capability path ss fs).2.map (fun f => (f.1.subject path, f.2)) := by
  induction hs generalizing fs fs' with
  | nil => exact ⟨fun _ => h, rfl⟩
  | @cons s s' _ _ hs _ ih =>
    have hr := Step.run_alike disk capability path h hs
    unfold runSteps
    generalize s.run disk capability path fs = x, s'.run disk capability path fs' = y at hr
    cases hr with
    | ok h => exact ih h
    | error fault =>
      refine ⟨?_, by simp [hs.subject_eq path]⟩
      rintro ⟨⟩
    | left h => exact h.elim
    | right h => exact h.elim

theorem length_utf8_secretOf (bytes : Vector UInt8 32) : (Text.utf8 (secretOf bytes)).length = 64 := by
  rw [Text.length_utf8_of_ascii, secretOf, Hex.length_encode]
  · simp
  · intro c hc
    have hdigits : "0123456789abcdef".toList.all fun d => d.val ≤ 0x7f := by rfl
    exact of_decide_eq_true (List.all_eq_true.1 hdigits c (Hex.mem_encode hc))

theorem steps_alike (bytes bytes' : Vector UInt8 32) :
    List.Forall₂ Step.Alike (steps permissions (secretOf bytes)) (steps permissions (secretOf bytes')) := by
  have same (ss : List Step) : List.Forall₂ Step.Alike ss ss := List.forall₂_same.2 fun s _ => .same s
  unfold steps
  rw [List.append_assoc, List.append_assoc]
  refine List.rel_append ?_ (same _)
  have hl : (Text.utf8 (secretOf bytes')).length = (Text.utf8 (secretOf bytes)).length := by
    rw [length_utf8_secretOf, length_utf8_secretOf]
  exact .cons (.same _) (.cons (.same _) (.cons (.same _) (.cons (.same _) (.cons (.write hl) (same _)))))

theorem publish_alike (h : fs.SameTree fs') (bytes bytes' : Vector UInt8 32) :
    (publish disk capability permissions path (secretOf bytes') fs').2 =
        (publish disk capability permissions path (secretOf bytes) fs).2 ∧
      ((publish disk capability permissions path (secretOf bytes) fs).2 = none →
        (publish disk capability permissions path (secretOf bytes) fs).1.SameTree
          (publish disk capability permissions path (secretOf bytes') fs').1) := by
  obtain ⟨htree, hfailed⟩ := runSteps_alike disk capability path (steps_alike permissions bytes bytes') h
  unfold publish
  generalize runSteps disk capability path (steps permissions (secretOf bytes)) fs = x,
    runSteps disk capability path (steps permissions (secretOf bytes')) fs' = y at htree hfailed
  obtain ⟨files, failed⟩ := x
  obtain ⟨files', failed'⟩ := y
  cases failed with
  | none =>
    rw [Option.map_none, Option.map_eq_none_iff] at hfailed
    subst hfailed
    exact ⟨rfl, fun _ => htree rfl⟩
  | some f =>
    obtain ⟨f', rfl, hf⟩ := Option.map_eq_some_iff.1 hfailed
    obtain ⟨hsubject, hfault⟩ := Prod.mk.inj hf
    exact ⟨by simp only [hsubject, hfault], fun hn => by cases hn⟩

theorem checkMode_eq (h : fs.SameTree fs') :
    checkMode capability permissions path fs' = checkMode capability permissions path fs := by
  unfold checkMode
  simp only [Capability.mode, Capability.present_eq h]

theorem Provider.provision_alike (h : fs.SameTree fs') (p : Provider) (bytes bytes' : Vector UInt8 32) :
    EndAlike (fun _ => False) (fun _ _ => True) (p.provision bytes fs disk).result (p.provision bytes' fs' disk).result := by
  obtain ⟨hfailed, htree⟩ := publish_alike disk p.capability p.permissions p.path h bytes bytes'
  unfold provision
  simp only
  generalize publish disk p.capability p.permissions p.path (secretOf bytes) fs = x,
    publish disk p.capability p.permissions p.path (secretOf bytes') fs' = y at htree hfailed
  obtain ⟨files, failed⟩ := x
  obtain ⟨files', failed'⟩ := y
  obtain rfl : failed' = failed := hfailed
  cases failed' with
  | some e => exact .error e
  | none =>
    simp only [checkMode_eq p.capability p.permissions p.path (htree rfl)]
    cases checkMode p.capability p.permissions p.path files with
    | some e => exact .error e
    | none => exact .ok trivial

end Cookie

end

/-- How it ends is decided by the options, the disk and the tree alone. -/
theorem Server.provisionCookie_alike {fs fs' : FileSystem} (h : fs.SameTree fs') (options : Option CookieOptions)
    (secret secret' : Vector UInt8 32) (disk : Disk) :
    EndAlike (fun _ => False) (fun _ _ => True) (provisionCookie options secret fs disk).2
      (provisionCookie options secret' fs' disk).2 := by
  cases options with
  | none => exact .ok trivial
  | some o =>
    exact ((Cookie.Provider.new o.path o.permissions).provision_alike disk h secret secret').map fun _ _ _ => trivial

end RpcGate
