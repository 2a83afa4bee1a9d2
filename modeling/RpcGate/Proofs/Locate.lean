import RpcGate.Proofs.Walk

/-!
# The entry that a path names

A path and the same path with an ending differ in their last name alone, so
that they name two entries of one directory (`locate_ending`). A file that takes
the place of a link is found by the path that named the link, unless the path
leads through that very link (`entry?_insert_file_iff`).
-/

namespace RpcGate

/-! ## Names of a path -/

theorem Text.pieces_append_of_not_mem {sep : Char} {e : Text} (h : sep ∉ e) (t : Text) :
    pieces sep (t ++ e) = (pieces sep t).dropLast ++ [(pieces sep t).getLast (pieces_ne_nil sep t) ++ e] := by
  induction t with
  | nil => simp [pieces, pieces_of_not_mem h]
  | cons c cs ih =>
    obtain ⟨p, ps, hp⟩ := List.exists_cons_of_ne_nil (pieces_ne_nil sep cs)
    by_cases hc : c = sep
    · simp [pieces, hc, ih, hp]
    · simp only [List.cons_append, pieces, if_neg hc, ih, hp]
      cases ps with
      | nil => simp
      | cons q ps => simp

theorem Text.pieces_concat (sep : Char) (t : Text) : pieces sep (t ++ [sep]) = pieces sep t ++ [[]] := by
  induction t with
  | nil => simp [pieces]
  | cons c cs ih =>
    obtain ⟨p, ps, hp⟩ := List.exists_cons_of_ne_nil (pieces_ne_nil sep cs)
    by_cases hc : c = sep
    · simp [pieces, hc, ih]
    · simp [pieces, hc, ih, hp]

namespace Path

def front (p : Path) : List Name := (Text.pieces '/' p).dropLast.filter (· ≠ [])

theorem lastPiece_eq (p : Path) : lastPiece p = (Text.pieces '/' p).getLast (Text.pieces_ne_nil '/' p) := by
  rw [lastPiece, List.getLast?_eq_some_getLast (Text.pieces_ne_nil '/' p), Option.getD_some]

theorem names_eq (p : Path) : names p = front p ++ [lastPiece p].filter (· ≠ []) := by
  rw [names, front, lastPiece_eq, ← List.filter_append, List.dropLast_concat_getLast]

theorem getLast?_eq_slash_iff {p : Path} (h : p ≠ []) : p.getLast? = some '/' ↔ lastPiece p = [] := by
  obtain ⟨q, c, rfl⟩ := List.eq_nil_or_concat p |>.resolve_left h
  rw [List.concat_eq_append, List.getLast?_append, List.getLast?_singleton, lastPiece_eq]
  by_cases hc : c = '/'
  · subst hc
    simp [Text.pieces_concat]
  · simp [Text.pieces_append_of_not_mem (show '/' ∉ [c] by simpa using Ne.symm hc), hc]

theorem steps_eq {p : Path} (h : p ≠ []) : steps p = front p ++ [lastPiece p] := by
  rw [steps, names_eq]
  by_cases hl : lastPiece p = []
  · rw [if_pos ((getLast?_eq_slash_iff h).2 hl), hl]; simp
  · rw [if_neg (mt (getLast?_eq_slash_iff h).1 hl)]; simp [hl]

section
variable {ending : String} (he : '/' ∉ ending.toList) (p : Path)

include he in
theorem front_withEnding : front (withEnding p ending) = front p := by
  rw [front, withEnding, Text.pieces_append_of_not_mem he, List.dropLast_concat, front]

include he in
theorem lastPiece_withEnding : lastPiece (withEnding p ending) = lastPiece p ++ ending.toList := by
  rw [lastPiece_eq, lastPiece_eq]
  simp only [withEnding, Text.pieces_append_of_not_mem he, List.getLast_concat]

end

theorem isAbsolute_withEnding {p : Path} (h : p ≠ []) (ending : String) :
    isAbsolute (withEnding p ending) = isAbsolute p := by
  obtain ⟨c, cs, rfl⟩ := List.exists_cons_of_ne_nil h
  rfl

theorem lastName_eq {p : Path} (h : lastPiece p ≠ []) :
    lastName p = if lastPiece p = ['.'] ∨ lastPiece p = ['.', '.'] then [] else lastPiece p := by
  rw [lastName, names_eq]
  simp [h]

theorem endsInName_iff (p : Path) :
    endsInName p ↔ lastPiece p ≠ [] ∧ lastPiece p ≠ ['.'] ∧ lastPiece p ≠ ['.', '.'] := by
  by_cases h : lastPiece p = []
  · simp [endsInName, h]
  · rw [endsInName, lastName_eq h]
    by_cases h1 : lastPiece p = ['.']
    · simp [h1]
    · by_cases h2 : lastPiece p = ['.', '.']
      · simp [h2]
      · simp [h, h1, h2]

end Path

namespace FileSystem

theorem node?_erase_self (fs : FileSystem) (loc : Location) : (fs.erase loc).node? loc = none := by
  rw [node?_erase, if_pos rfl]

/-! ## Locating -/

/-- Where the walk of a path starts. -/
def origin (fs : FileSystem) (p : Path) : Location := if Path.isAbsolute p then [] else fs.here

section
variable {fs fs' : FileSystem} {aim aim' : Aim} {p : Path} {loc l t : Location}

theorem mapError_eq_ok_iff {x : Except Errno Location} : x.mapError Fault.system = .ok loc ↔ x = .ok loc := by
  constructor
  · intro h
    cases x with
    | ok l => exact congrArg _ (Except.ok.inj h)
    | error e => cases h
  · intro h
    rw [h]
    rfl

theorem locate_eq_ok_iff : fs.locate aim p = .ok loc ↔
    ('\x00' ∉ p ∧ p ≠ [] ∧ (Text.utf8 p).length < Path.lengthLimit) ∧
      Walks fs aim linkLimit (fs.origin p) (Path.steps p) loc := by
  rw [← walk_eq_ok_iff, locate, origin]
  by_cases h0 : '\x00' ∈ p
  · simp [h0]
  by_cases h1 : p = []
  · simp [h1]
  by_cases h2 : Path.lengthLimit ≤ (Text.utf8 p).length
  · simp [h0, h1, h2, Nat.not_lt.2 h2]
  simp [h0, h1, h2, Nat.not_le.1 h2, mapError_eq_ok_iff]

theorem locate_unique (h : fs.locate aim p = .ok loc) (h' : fs.locate aim p = .ok l) : loc = l :=
  Except.ok.inj (h.symm.trans h')

theorem locate_retarget (h : fs.locate aim p = .ok loc) (hm : aim'.makes = false)
    (hf : aim.follows → aim'.follows)
    (hl : aim'.follows → aim.follows ∨ ∀ target, fs.node? loc ≠ some (.link target)) :
    fs.locate aim' p = .ok loc := by
  obtain ⟨hp, hw⟩ := locate_eq_ok_iff.1 h
  exact locate_eq_ok_iff.2 ⟨hp, hw.retarget hm hf hl⟩

theorem locate_makeNew (h : fs.locate .entry p = .ok loc) (hp : Path.lastPiece p ≠ []) :
    fs.locate .makeNew p = .ok loc := by
  obtain ⟨hne, hw⟩ := locate_eq_ok_iff.1 h
  refine locate_eq_ok_iff.2 ⟨hne, hw.makeNew ?_⟩
  rw [Path.steps_eq hne.2.1, List.getLast?_concat]
  simpa using hp

theorem locate_reach_of_free (h : fs.locate .entry p = .ok loc) (hn : fs.node? loc = none) :
    fs.locate .reach p = .ok loc :=
  locate_retarget h rfl (fun _ => rfl) fun _ => .inr fun target => by simp [hn]

theorem exists_locate_entry (h : fs.locate aim p = .ok loc) : ∃ l, fs.locate .entry p = .ok l := by
  obtain ⟨hp, hw⟩ := locate_eq_ok_iff.1 h
  obtain ⟨l, hw'⟩ := hw.exists_entry
  exact ⟨l, locate_eq_ok_iff.2 ⟨hp, hw'⟩⟩

theorem locate_top {n : Name} (ho : fs.Opens []) (hn : Path.IsProper n) (hp : '\x00' ∉ n) (hs : '/' ∉ n) (aim : Aim)
    (hl : aim.follows → ∀ target, fs.node? [n] ≠ some (.link target)) : fs.locate aim ('/' :: n) = .ok [n] := by
  have hpieces : Text.pieces '/' ('/' :: n) = [[], n] := by
    rw [Text.pieces, if_pos rfl, Text.pieces_of_not_mem hs]
  have hsteps : Path.steps ('/' :: n) = [n] := by
    rw [Path.steps_eq (by simp), Path.front, Path.lastPiece_eq]
    simp [hpieces]
  have hlong : (Text.utf8 ('/' :: n)).length < Path.lengthLimit := by
    have h : (Text.utf8 n).length ≤ 255 := hn.2.2.2
    have hc : (Text.utf8 ('/' :: n)).length = 1 + (Text.utf8 n).length := List.length_append
    show _ < 4096
    omega
  refine locate_eq_ok_iff.2 ⟨⟨?_, by simp, hlong⟩, ?_⟩
  · simpa using hp
  · rw [hsteps]
    exact .last ho hn hl

theorem Thins.origin (ht : Thins fs fs') (p : Path) : fs'.origin p = fs.origin p := by
  rw [FileSystem.origin, FileSystem.origin, ht.here]

theorem locate_of_thins (h : fs'.locate aim p = .ok loc) (ht : Thins fs fs') (hf : aim.follows = false) :
    fs.locate aim p = .ok loc := by
  obtain ⟨hp, hw⟩ := locate_eq_ok_iff.1 h
  exact locate_eq_ok_iff.2 ⟨hp, ht.origin p ▸ hw.of_thins ht hf⟩

/-- File systems with the same directories and links have every path in the same place. -/
theorem locate_of_alike (h : fs'.locate aim p = .ok loc) (ht : Thins fs fs') (ht' : Thins fs' fs) :
    fs.locate aim p = .ok loc := by
  obtain ⟨hp, hw⟩ := locate_eq_ok_iff.1 h
  exact locate_eq_ok_iff.2 ⟨hp, ht.origin p ▸ hw.of_thins_of_links ht fun _ => ht'.link⟩

theorem stat_of_reach {n : Node} (h : fs.locate .reach p = .ok loc) (hn : fs.node? loc = some n) :
    fs.stat p = .ok (loc, n) := by
  rw [stat, h]
  simp only [bind, Except.bind, hn]

theorem stat_of_entry {n : Node} (h : fs.locate .entry p = .ok loc) (hn : fs.node? loc = some n)
    (hl : ∀ target, n ≠ .link target) : fs.stat p = .ok (loc, n) := by
  have hr : fs.locate .reach p = .ok loc :=
    locate_retarget h rfl (fun _ => rfl) fun _ => .inr fun target => by rw [hn]; simpa using hl target
  exact stat_of_reach hr hn

theorem stat_eq_ok {n : Node} (h : fs.stat p = .ok (loc, n)) :
    fs.locate .reach p = .ok loc ∧ fs.node? loc = some n := by
  unfold stat at h
  cases hr : fs.locate .reach p with
  | error e => rw [hr] at h; cases h
  | ok l =>
    rw [hr] at h
    simp only [bind, Except.bind] at h
    split at h
    · next n' hn => cases h; exact ⟨rfl, hn⟩
    · cases h

theorem stat_of_free (h : fs.locate .entry p = .ok loc) (hn : fs.node? loc = none) :
    fs.stat p = .error (.system .notFound) := by
  rw [stat, locate_reach_of_free h hn]
  simp only [bind, Except.bind, hn]

theorem isFile_of_free (h : fs.locate .reach p = .ok loc) (hn : fs.node? loc = none) : fs.isFile p = false := by
  unfold isFile stat
  rw [h]
  simp only [bind, Except.bind, hn]

theorem Walks.last_name {links : Nat} {dir : Location} {n : Name} (h : Walks fs aim links dir [n] loc)
    (hf : aim.follows = false) : n = [] ∧ loc = dir ∨ n = ['.'] ∧ loc = dir ∨ n = ['.', '.'] ∧ loc = dir.tail ∨
      Path.IsProper n ∧ loc = n :: dir := by
  cases h with
  | slash _ h => cases h; exact .inl ⟨rfl, rfl⟩
  | here _ h => cases h; exact .inr (.inl ⟨rfl, rfl⟩)
  | up _ h => cases h; exact .inr (.inr (.inl ⟨rfl, rfl⟩))
  | last _ hn => exact .inr (.inr (.inr ⟨hn, rfl⟩))
  | enter _ _ _ hs => exact absurd rfl hs
  | follow _ _ _ _ hs => simp [hf] at hs

theorem exists_directory (h : fs.locate aim p = .ok loc) : ∃ dir,
    (∃ links, Walks fs .reach links (fs.origin p) (Path.front p) dir) ∧
      ∃ links, Walks fs aim links dir [Path.lastPiece p] loc := by
  obtain ⟨⟨_, hp, _⟩, hw⟩ := locate_eq_ok_iff.1 h
  rw [Path.steps_eq hp] at hw
  obtain ⟨links, dir, hdir, hlast⟩ := hw.split (by simp)
  exact ⟨dir, ⟨_, hdir⟩, links, hlast⟩

theorem locate_ending_eq {links : Nat} {dir : Location} {ending : String} (he : '/' ∉ ending.toList)
    (hlong : 2 < ending.toList.length) (hp : p ≠ []) (hdir : Walks fs .reach links (fs.origin p) (Path.front p) dir)
    (ht : fs.locate aim (Path.withEnding p ending) = .ok t) (hf : aim.follows = false) :
    t = (Path.lastPiece p ++ ending.toList) :: dir := by
  obtain ⟨dir', ⟨_, hdir'⟩, _, hlast⟩ := exists_directory ht
  rw [Path.front_withEnding he, origin, Path.isAbsolute_withEnding hp, ← origin] at hdir'
  rw [Path.lastPiece_withEnding he] at hlast
  obtain rfl := hdir.unique hdir'
  have hlen : 2 < (Path.lastPiece p ++ ending.toList).length := by rw [List.length_append]; omega
  rcases hlast.last_name hf with ⟨h, -⟩ | ⟨h, -⟩ | ⟨h, -⟩ | ⟨-, h⟩
  · rw [h] at hlen; simp at hlen
  · rw [h] at hlen; simp at hlen
  · rw [h] at hlen; simp at hlen
  · exact h

/-- A path and the same path with an ending name two entries. -/
theorem locate_ending {ending : String} (he : '/' ∉ ending.toList) (hlong : 2 < ending.toList.length)
    (h : fs.locate aim p = .ok loc) (hf : aim.follows = false)
    (ht : fs.locate aim' (Path.withEnding p ending) = .ok t) (hf' : aim'.follows = false) : loc ≠ t := by
  obtain ⟨⟨_, hp, _⟩, -⟩ := locate_eq_ok_iff.1 h
  obtain ⟨dir, ⟨_, hdir⟩, _, hlast⟩ := exists_directory h
  obtain rfl := locate_ending_eq he hlong hp hdir ht hf'
  rcases hlast.last_name hf with ⟨-, rfl⟩ | ⟨-, rfl⟩ | ⟨-, rfl⟩ | ⟨-, rfl⟩
  · exact fun h => absurd (congrArg List.length h) (by simp)
  · exact fun h => absurd (congrArg List.length h) (by simp)
  · exact fun h => absurd (congrArg List.length h) (by simp)
  · intro h
    have hl := congrArg List.length (List.cons.inj h).1
    rw [List.length_append] at hl
    omega

theorem Thins.mayChange (h : Thins fs fs') (loc : Location) : fs'.mayChange loc = fs.mayChange loc := by
  unfold FileSystem.mayChange
  by_cases hd : ∃ m, fs.node? loc.tail = some (.directory m)
  · obtain ⟨m, hd⟩ := hd
    rw [hd, (h.directory _ _).2 hd]
  · have hd' : ¬ ∃ m, fs'.node? loc.tail = some (.directory m) := by simpa only [h.directory] using hd
    split
    · next m hm => exact absurd ⟨m, hm⟩ hd'
    · split
      · next m hm => exact absurd ⟨m, hm⟩ hd
      · rfl

/-! ## Links that lead to files -/

/-- What stands at `t` keeps no walk going: it is a file, or a link that leads to one. -/
def DeadEnd (fs : FileSystem) (t : Location) : Prop :=
  (∀ m, fs.node? t ≠ some (.directory m)) ∧
    ∀ target, fs.node? t = some (.link target) → ∀ aim links ns l, ns ≠ [] →
      ¬ Walks fs aim links (if Path.isAbsolute target then [] else t.tail) (Path.steps target ++ ns) l

theorem Walks.of_deadEnd {links : Nat} {ns : List Name} (h : Walks fs aim links loc ns l) (ht : fs.DeadEnd t)
    (hf : aim.follows = false) : Walks (fs.erase t) aim links loc ns l := by
  have hthin := thins_erase ht.1
  induction h with
  | done => exact .done _ _
  | slash hd _ ih => exact .slash ((hthin.directory _ _).2 hd) ih
  | here ho _ ih => exact .here (hthin.opens.2 ho) ih
  | up ho _ ih => exact .up (hthin.opens.2 ho) ih
  | last ho hn _ => exact .last (hthin.opens.2 ho) hn fun hf' => by simp [hf] at hf'
  | enter ho hn hm hs _ ih => exact .enter (hthin.opens.2 ho) hn hm hs ih
  | @follow _ loc n ns target _ ho hn hm hl hs h ih =>
    have hne : n :: loc ≠ t := by
      rintro rfl
      exact ht.2 target hl _ _ ns _ (hs.resolve_right (by simp [hf])) h
    exact .follow (hthin.opens.2 ho) hn hm (by rw [node?_erase, if_neg hne]; exact hl) hs ih

theorem isFile_eq_true (h : fs.isFile p = true) : ∃ l content mode, fs.stat p = .ok (l, .file content mode) := by
  unfold isFile at h
  split at h
  · next l n hs =>
    cases n with
    | file content mode => exact ⟨l, content, mode, hs⟩
    | directory => cases h
    | link => cases h
  · cases h

/-- A path that leads to a file by way of a link ends in a name of its own. -/
theorem Walks.isProper_of_link {links links' : Nat} {dir : Location} {n : Name} {target : Path}
    (h : Walks fs .entry links dir [n] loc) (hr : Walks fs .reach links' dir [n] l) (ht : fs.node? loc = some (.link target)) (hl : l ≠ loc) :
    Path.IsProper n ∧ loc = n :: dir := by
  obtain ⟨m, hd⟩ := h.directory_of_ne_nil (by simp)
  rcases h.last_name rfl with ⟨-, rfl⟩ | ⟨-, rfl⟩ | ⟨rfl, rfl⟩ | hn
  · rw [hd] at ht; cases ht
  · rw [hd] at ht; cases ht
  · cases hr with
    | up _ hr => cases hr; exact absurd rfl hl
    | last _ hn => exact absurd rfl hn.2.2.1
    | enter _ hn => exact absurd rfl hn.2.2.1
    | follow _ hn => exact absurd rfl hn.2.2.1
  · exact hn

theorem walks_target {links links' : Nat} {dir : Location} {n : Name} {target : Path}
    (h : Walks fs .entry links dir [n] t) (hr : Walks fs .reach links' dir [n] l)
    (ht : fs.node? t = some (.link target)) (hl : l ≠ t) :
    t.tail = dir ∧ ∃ links, Walks fs .reach links (if Path.isAbsolute target then [] else dir) (Path.steps target) l := by
  obtain ⟨hn, rfl⟩ := h.isProper_of_link hr ht hl
  rcases hr.cases_proper hn with ⟨-, hr⟩ | ⟨hs, -⟩ | ⟨target', links, ht', hr⟩
  · exact absurd hr hl
  · exact absurd rfl hs
  · rw [ht] at ht'
    obtain rfl := Node.link.inj (Option.some.inj ht')
    rw [List.append_nil] at hr
    exact ⟨rfl, links, hr⟩

theorem deadEnd_of_isFile (h : fs.isFile p = true) (ht : fs.locate .entry p = .ok t) : fs.DeadEnd t := by
  obtain ⟨l, content, mode, hs⟩ := isFile_eq_true h
  obtain ⟨hreach, hn⟩ := stat_eq_ok hs
  refine ⟨fun m hd => ?_, fun target hl aim links ns l' hns hgo => ?_⟩
  · have hsame : fs.locate .reach p = .ok t :=
      locate_retarget ht rfl (fun _ => rfl) fun _ => .inr fun target => by simp [hd]
    rw [locate_unique hreach hsame, hd] at hn
    cases hn
  · have hne : l ≠ t := by
      rintro rfl
      rw [hn] at hl; cases hl
    obtain ⟨dir, ⟨_, hdir⟩, _, hlast⟩ := exists_directory ht
    obtain ⟨dir', ⟨_, hdir'⟩, _, hrlast⟩ := exists_directory hreach
    obtain rfl := hdir.unique hdir'
    obtain ⟨rfl, _, hto⟩ := walks_target hlast hrlast hl hne
    -- whatever goes on from the target goes on from the file
    obtain ⟨_, mid, hmid, hrest⟩ := hgo.split hns
    obtain ⟨m, hd⟩ := hrest.directory_of_ne_nil hns
    rw [hmid.unique hto, hn] at hd
    cases hd

theorem locate_erase_iff (ht : fs.DeadEnd t) (hf : aim.follows = false) :
    (fs.erase t).locate aim p = .ok loc ↔ fs.locate aim p = .ok loc := by
  constructor
  · intro h
    exact locate_of_thins h (thins_erase ht.1) hf
  · intro h
    obtain ⟨hp, hw⟩ := locate_eq_ok_iff.1 h
    exact locate_eq_ok_iff.2 ⟨hp, hw.of_deadEnd ht hf⟩

theorem entry?_erase (ht : fs.DeadEnd t) (hp : ∀ loc, fs.locate .entry p = .ok loc → loc ≠ t) :
    entry? (fs.erase t) p = entry? fs p := by
  unfold entry?
  cases h : fs.locate .entry p with
  | ok loc =>
    rw [(locate_erase_iff ht rfl).2 h]
    simp only [node?_erase, if_neg (hp loc h)]
  | error e =>
    cases h' : (fs.erase t).locate .entry p with
    | error e' => rfl
    | ok loc =>
      rw [(locate_erase_iff ht rfl).1 h'] at h
      cases h

end

/-! ## A file in the place of a link -/

/-- A path that does not need the link it names, if it names one: it leads to the same entry when
that link has gone. -/
def AvoidsOwnLink (fs : FileSystem) (p : Path) : Prop :=
  ∀ loc target, fs.locate .entry p = .ok loc → fs.node? loc = some (.link target) →
    (fs.erase loc).locate .entry p = .ok loc

section
variable {fs₀ fs : FileSystem} {p : Path} {loc : Location}

theorem avoidsOwnLink_of_not_link (hl : fs.locate .entry p = .ok loc)
    (hn : ∀ target, fs.node? loc ≠ some (.link target)) : fs.AvoidsOwnLink p := by
  intro l target hl' ht
  rw [← locate_unique hl hl'] at ht
  exact absurd ht (hn target)

/-- A link that leads to a file can be spared on the way to itself. -/
theorem avoidsOwnLink_of_isFile (h : fs.isFile p = true) : fs.AvoidsOwnLink p := by
  intro loc target hl _
  exact (locate_erase_iff (deadEnd_of_isFile h hl) rfl).2 hl

theorem locate_insert_file (ht : fs₀.Thins fs) (ha : fs₀.AvoidsOwnLink p) (hl : fs.locate .entry p = .ok loc)
    (hd : ∀ m, fs.node? loc ≠ some (.directory m)) (content : Bytes) (mode : Mode) :
    (fs.insert loc (.file content mode)).locate .entry p = .ok loc := by
  by_cases hlink : ∃ target, fs.node? loc = some (.link target)
  · obtain ⟨target, hn⟩ := hlink
    have hd₀ : ∀ m, fs₀.node? loc ≠ some (.directory m) := fun m h => hd m ((ht.directory _ _).2 h)
    obtain ⟨hp, hw⟩ := locate_eq_ok_iff.1 hl
    obtain ⟨-, hw₀⟩ := locate_eq_ok_iff.1 (ha loc target (locate_of_thins hl ht rfl) (ht.link _ _ hn))
    have ho : (fs₀.erase loc).origin p = fs.origin p := by rw [origin, origin, ht.here]; rfl
    -- the walk needs neither the links that have gone before nor the one that goes now
    have hgone : Walks (fs.erase loc) .entry linkLimit (fs.origin p) (Path.steps p) loc := by
      refine hw.meet (ho ▸ hw₀) ht (thins_erase hd₀) (ht.trans (thins_erase hd)) (fun l t hl hl₀ => ?_) rfl
      rw [node?_erase] at hl₀ ⊢
      split at hl₀
      · cases hl₀
      · next hne => rw [if_neg hne]; exact hl
    rw [← insert_erase]
    refine locate_of_thins (locate_eq_ok_iff.2 ⟨hp, hgone⟩) (thins_of_insert_file fun n hn => ?_) rfl
    rw [node?_erase_self] at hn
    cases hn
  · refine locate_of_thins hl (thins_of_insert_file fun n hn => ?_) rfl
    cases n with
    | file => rfl
    | directory m => exact absurd hn (hd m)
    | link target => exact absurd ⟨target, hn⟩ hlink

theorem entry?_eq_some_iff {n : Node} : fs.entry? p = some n ↔ ∃ loc, fs.locate .entry p = .ok loc ∧ fs.node? loc = some n := by
  unfold entry?
  cases hl : fs.locate .entry p with
  | error e => simp
  | ok loc => simp

/-- A file in the place of a link is found by the path that named the link exactly if the path can
do without the link. -/
theorem entry?_insert_file_iff {content : Bytes} {mode : Mode} (ht : fs₀.Thins fs) (hl : fs.locate .entry p = .ok loc)
    (hd : ∀ m, fs.node? loc ≠ some (.directory m)) :
    FileSystem.entry? (fs.insert loc (.file content mode)) p = some (.file content mode) ↔ fs₀.AvoidsOwnLink p := by
  rw [entry?_eq_some_iff]
  constructor
  · intro h
    obtain ⟨l, hl', -⟩ := h
    obtain rfl := locate_unique hl (locate_of_thins hl' (thins_insert_file hd) rfl)
    intro l target hl₀ hn
    obtain rfl := locate_unique (locate_of_thins hl ht rfl) hl₀
    refine locate_of_thins hl' ?_ rfl
    rw [← insert_erase]
    refine (ht.erase loc).trans (thins_insert_file fun m hm => ?_)
    rw [node?_erase_self] at hm
    cases hm
  · intro ha
    exact ⟨loc, locate_insert_file ht ha hl hd content mode, fs.node?_insert_self loc _⟩

end

end FileSystem

end RpcGate
