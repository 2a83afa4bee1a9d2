import RpcGate.Files.System

/-!
# Where paths lead

A walk that arrives is a derivation (`walk_eq_ok_iff`). Derivations depend on
directories and links alone: they are kept when links come back
(`Walks.of_thins`), and when a link goes that leads to a file
(`Walks.of_deadEnd`). How many links may be followed does not decide where a
walk arrives (`Walks.unique`).
-/

namespace RpcGate

/-- A name that an entry can have. -/
def Path.IsProper (n : Name) : Prop :=
  n ≠ [] ∧ n ≠ ['.'] ∧ n ≠ ['.', '.'] ∧ (Text.utf8 n).length ≤ Path.nameLimit

namespace FileSystem

def Opens (fs : FileSystem) (loc : Location) : Prop :=
  ∃ m, fs.node? loc = some (.directory m) ∧ m.canSearch = true

/-- A walk along names that arrives. -/
inductive Walks (fs : FileSystem) (aim : Aim) : Nat → Location → List Name → Location → Prop
  | done (links : Nat) (loc : Location) : Walks fs aim links loc [] loc
  | slash {links loc m ns l} (hd : fs.node? loc = some (.directory m)) (h : Walks fs aim links loc ns l) :
      Walks fs aim links loc ([] :: ns) l
  | here {links loc ns l} (ho : fs.Opens loc) (h : Walks fs aim links loc ns l) :
      Walks fs aim links loc (['.'] :: ns) l
  | up {links loc ns l} (ho : fs.Opens loc) (h : Walks fs aim links loc.tail ns l) :
      Walks fs aim links loc (['.', '.'] :: ns) l
  | last {links loc n} (ho : fs.Opens loc) (hn : Path.IsProper n)
      (ht : aim.follows → ∀ target, fs.node? (n :: loc) ≠ some (.link target)) :
      Walks fs aim links loc [n] (n :: loc)
  | enter {links loc n ns l} (ho : fs.Opens loc) (hn : Path.IsProper n) (hm : ¬ (aim.makes ∧ ns = [[]]))
      (hs : ns ≠ []) (h : Walks fs aim links (n :: loc) ns l) : Walks fs aim links loc (n :: ns) l
  | follow {links loc n ns target l} (ho : fs.Opens loc) (hn : Path.IsProper n)
      (hm : ¬ (aim.makes ∧ ns = [[]])) (ht : fs.node? (n :: loc) = some (.link target))
      (hf : ns ≠ [] ∨ aim.follows)
      (h : Walks fs aim links (if Path.isAbsolute target then [] else loc) (Path.steps target ++ ns) l) :
      Walks fs aim (links + 1) loc (n :: ns) l

section
variable {fs fs' : FileSystem} {aim aim' : Aim} {links links' : Nat} {loc l l' : Location} {ns : List Name}

theorem Walks.directory_of_ne_nil (h : Walks fs aim links loc ns l) (hs : ns ≠ []) :
    ∃ m, fs.node? loc = some (.directory m) := by
  cases h with
  | done => exact absurd rfl hs
  | slash hd => exact ⟨_, hd⟩
  | here ho => exact ⟨_, ho.choose_spec.1⟩
  | up ho => exact ⟨_, ho.choose_spec.1⟩
  | last ho => exact ⟨_, ho.choose_spec.1⟩
  | enter ho => exact ⟨_, ho.choose_spec.1⟩
  | follow ho => exact ⟨_, ho.choose_spec.1⟩

theorem walks_of_walk (h : fs.walk aim links loc ns = .ok l) : Walks fs aim links loc ns l := by
  -- one constructor for each branch of the walk that goes on or ends well
  have opens {loc : Location} {m : Mode} (hd : fs.node? loc = some (.directory m))
      (hs : ¬ (!m.canSearch) = true) : fs.Opens loc := ⟨m, hd, by simpa using hs⟩
  fun_induction walk fs aim links loc ns with
  | case1 => cases h; exact .done _ _
  | case2 _ _ _ _ hd ih => exact .slash hd (ih h)
  | case3 => cases h
  | case4 _ _ _ _ hd hs _ ih => exact .here (opens hd hs) (ih h)
  | case5 _ _ _ _ hd hs _ _ ih => exact .up (opens hd hs) (ih h)
  | case6 => cases h
  | case7 => cases h
  | case8 _ _ _ _ hd h1 hs h2 h3 hl ha =>
    cases h
    exact .last (opens hd hs) ⟨h1, h2, h3, Nat.not_lt.1 hl⟩ (fun _ _ ht => by rw [ha] at ht; cases ht)
  | case9 => cases h
  | case10 _ _ _ _ _ hd h1 hs h2 h3 _ hl _ _ hf =>
    cases h
    obtain ⟨rfl, hf⟩ := hf
    exact .last (opens hd hs) ⟨h1, h2, h3, Nat.not_lt.1 hl⟩ (fun hf' => by simp [hf'] at hf)
  | case11 => cases h
  | case12 _ _ ns _ hd h1 hs h2 h3 hm hl _ ht hf _ ih =>
    refine .follow (opens hd hs) ⟨h1, h2, h3, Nat.not_lt.1 hl⟩ hm ht ?_ (by simpa using ih h)
    by_cases hns : ns = []
    · exact .inr (by simpa [hns] using hf)
    · exact .inl hns
  | case13 links loc n ns _ hd h1 hs h2 h3 hm hl node hne hn ih =>
    by_cases hns : ns = []
    · subst hns
      rw [walk] at h
      cases h
      exact .last (opens hd hs) ⟨h1, h2, h3, Nat.not_lt.1 hl⟩ (fun _ t ht => hne t (by simpa [hn] using ht))
    · exact .enter (opens hd hs) ⟨h1, h2, h3, Nat.not_lt.1 hl⟩ hm hns (ih h)
  | case14 => cases h
  | case15 => cases h

theorem walk_of_walks (h : Walks fs aim links loc ns l) : fs.walk aim links loc ns = .ok l := by
  have long {n : Name} (hn : Path.IsProper n) : ¬ Path.nameLimit < (Text.utf8 n).length :=
    Nat.not_lt.2 hn.2.2.2
  induction h with
  | done => rw [walk]
  | slash hd _ ih => simp [walk, hd, ih]
  | here ho _ ih =>
    obtain ⟨m, hd, hs⟩ := ho
    simp [walk, hd, hs, ih]
  | up ho _ ih =>
    obtain ⟨m, hd, hs⟩ := ho
    simp [walk, hd, hs, ih]
  | @last _ loc n ho hn ht =>
    obtain ⟨m, hd, hs⟩ := ho
    have hf : ∀ target, fs.node? (n :: loc) = some (.link target) → aim.follows = false := fun target h =>
      Bool.eq_false_iff.2 fun hf => ht hf target h
    rw [walk]
    simp only [hd, hs, hn.1, hn.2.1, hn.2.2.1, long hn, if_false, Bool.not_true, Bool.false_eq_true]
    cases hnode : fs.node? (n :: loc) with
    | none => simp
    | some node =>
      cases node with
      | file => simp [walk]
      | directory => simp [walk]
      | link target => simp [hf target hnode]
  | @enter _ loc n ns l ho hn hm hs h ih =>
    obtain ⟨m, hd, hsearch⟩ := ho
    obtain ⟨m', hd'⟩ := h.directory_of_ne_nil hs
    rw [walk]
    simp only [hd, hd', hsearch, hn.1, hn.2.1, hn.2.2.1, hm, long hn, if_false, Bool.not_true, Bool.false_eq_true]
    exact ih
  | @follow _ loc n ns target l ho hn hm ht hf h ih =>
    obtain ⟨m, hd, hs⟩ := ho
    have hf : ¬ (ns = [] ∧ (!aim.follows) = true) := by
      rcases hf with hf | hf
      · simp [hf]
      · simp [hf]
    rw [walk]
    simp only [hd, ht, hs, hn.1, hn.2.1, hn.2.2.1, hm, hf, long hn, if_false, Bool.not_true, Bool.false_eq_true]
    exact ih

theorem walk_eq_ok_iff : fs.walk aim links loc ns = .ok l ↔ Walks fs aim links loc ns l :=
  ⟨walks_of_walk, walk_of_walks⟩

theorem Walks.of_le (h : Walks fs aim links loc ns l) (hl : links ≤ links') : Walks fs aim links' loc ns l := by
  induction h generalizing links' with
  | done => exact .done _ _
  | slash hd _ ih => exact .slash hd (ih hl)
  | here ho _ ih => exact .here ho (ih hl)
  | up ho _ ih => exact .up ho (ih hl)
  | last ho hn ht => exact .last ho hn ht
  | enter ho hn hm hs _ ih => exact .enter ho hn hm hs (ih hl)
  | follow ho hn hm ht hf _ ih =>
    cases links' with
    | zero => exact absurd hl (Nat.not_succ_le_zero _)
    | succ links' => exact .follow ho hn hm ht hf (ih (Nat.le_of_succ_le_succ hl))

theorem Walks.unique (h : Walks fs aim links loc ns l) (h' : Walks fs aim links' loc ns l') : l = l' := by
  have h := walk_of_walks (h.of_le (Nat.le_max_left links links'))
  have h' := walk_of_walks (h'.of_le (Nat.le_max_right links links'))
  rw [h] at h'
  exact Except.ok.inj h'

theorem Walks.split {xs ys : List Name} (hy : ys ≠ []) (h : Walks fs aim links loc (xs ++ ys) l) :
    ∃ links' mid, Walks fs .reach links loc xs mid ∧ Walks fs aim links' mid ys l := by
  -- by induction on the walk, which may put the names of a link before `xs`
  generalize hns : xs ++ ys = ns at h
  have nil {links : Nat} {loc l : Location} {ns : List Name} (h : Walks fs aim links loc ns l)
      (hns : [] ++ ys = ns) : ∃ links' mid, Walks fs .reach links loc [] mid ∧ Walks fs aim links' mid ys l :=
    ⟨_, _, .done _ _, by rw [List.nil_append] at hns; exact hns ▸ h⟩
  induction h generalizing xs with
  | done => exact absurd (List.append_eq_nil_iff.1 hns).2 hy
  | slash hd h ih =>
    cases xs with
    | nil => exact nil (.slash hd h) hns
    | cons n xs =>
      obtain ⟨rfl, hxs⟩ := List.cons.inj hns
      obtain ⟨k, mid, hx, hy⟩ := ih hxs
      exact ⟨k, mid, .slash hd hx, hy⟩
  | here ho h ih =>
    cases xs with
    | nil => exact nil (.here ho h) hns
    | cons n xs =>
      obtain ⟨rfl, hxs⟩ := List.cons.inj hns
      obtain ⟨k, mid, hx, hy⟩ := ih hxs
      exact ⟨k, mid, .here ho hx, hy⟩
  | up ho h ih =>
    cases xs with
    | nil => exact nil (.up ho h) hns
    | cons n xs =>
      obtain ⟨rfl, hxs⟩ := List.cons.inj hns
      obtain ⟨k, mid, hx, hy⟩ := ih hxs
      exact ⟨k, mid, .up ho hx, hy⟩
  | last ho hn ht =>
    cases xs with
    | nil => exact nil (.last ho hn ht) hns
    | cons n xs => exact absurd (List.append_eq_nil_iff.1 (List.cons.inj hns).2).2 hy
  | enter ho hn hm hs h ih =>
    cases xs with
    | nil => exact nil (.enter ho hn hm hs h) hns
    | cons n xs =>
      obtain ⟨rfl, hxs⟩ := List.cons.inj hns
      obtain ⟨k, mid, hx, hy'⟩ := ih hxs
      refine ⟨k, mid, ?_, hy'⟩
      cases xs with
      | nil =>
        -- nothing follows the name any more, but a directory stands there
        obtain ⟨m, hd⟩ := h.directory_of_ne_nil hs
        cases hx
        exact .last ho hn fun _ target ht => by rw [hd] at ht; cases ht
      | cons x xs => exact .enter ho hn (by simp [Aim.makes]) (by simp) hx
  | follow ho hn hm ht hf h ih =>
    cases xs with
    | nil => exact nil (.follow ho hn hm ht hf h) hns
    | cons n xs =>
      obtain ⟨rfl, hxs⟩ := List.cons.inj hns
      obtain ⟨k, mid, hx, hy⟩ := ih ((List.append_assoc _ xs ys).trans (congrArg _ hxs))
      exact ⟨k, mid, .follow ho hn (by simp [Aim.makes]) ht (.inr rfl) hx, hy⟩

/-- A walk with another aim, which makes nothing, arrives at the same place if no link is in question there. -/
theorem Walks.retarget (h : Walks fs aim links loc ns l) (hm : aim'.makes = false)
    (hf : aim.follows → aim'.follows) (hl : aim'.follows → aim.follows ∨ ∀ target, fs.node? l ≠ some (.link target)) :
    Walks fs aim' links loc ns l := by
  induction h with
  | done => exact .done _ _
  | slash hd _ ih => exact .slash hd (ih hl)
  | here ho _ ih => exact .here ho (ih hl)
  | up ho _ ih => exact .up ho (ih hl)
  | last ho hn ht =>
    refine .last ho hn fun hf' => ?_
    rcases hl hf' with hf | hl
    · exact ht hf
    · exact hl
  | enter ho hn _ hs _ ih => exact .enter ho hn (by simp [hm]) hs (ih hl)
  | follow ho hn _ ht hs _ ih => exact .follow ho hn (by simp [hm]) ht (hs.imp_right hf) (ih hl)

/-- A walk to an entry also serves to make a file there, unless it ends with a slash. -/
theorem Walks.makeNew (h : Walks fs .entry links loc ns l) (hs : ns.getLast? ≠ some []) :
    Walks fs .makeNew links loc ns l := by
  have later {n : Name} {ns : List Name} (h : (n :: ns).getLast? ≠ some []) : ns.getLast? ≠ some [] := by
    cases ns with
    | nil => simp
    | cons => simpa using h
  have ends {ns : List Name} (h : ns.getLast? ≠ some []) : ¬ (Aim.makeNew.makes ∧ ns = [[]]) := by
    rintro ⟨-, rfl⟩
    exact h rfl
  induction h with
  | done => exact .done _ _
  | slash hd _ ih => exact .slash hd (ih (later hs))
  | here ho _ ih => exact .here ho (ih (later hs))
  | up ho _ ih => exact .up ho (ih (later hs))
  | last ho hn ht => exact .last ho hn ht
  | enter ho hn _ hne _ ih => exact .enter ho hn (ends (later hs)) hne (ih (later hs))
  | @follow _ _ _ ns target _ ho hn _ ht hf _ ih =>
    have hne : ns ≠ [] := hf.resolve_right (by simp [Aim.follows])
    have hlast : (Path.steps target ++ ns).getLast? = ns.getLast? := by
      rw [List.getLast?_append, List.getLast?_eq_some_getLast hne, Option.some_or]
    exact .follow ho hn (ends (later hs)) ht (.inl hne) (ih (hlast ▸ later hs))

theorem Walks.exists_entry (h : Walks fs aim links loc ns l) : ∃ l', Walks fs .entry links loc ns l' := by
  induction h with
  | done => exact ⟨_, .done _ _⟩
  | slash hd _ ih => exact ih.imp fun _ => .slash hd
  | here ho _ ih => exact ih.imp fun _ => .here ho
  | up ho _ ih => exact ih.imp fun _ => .up ho
  | last ho hn => exact ⟨_, .last ho hn (by simp [Aim.follows])⟩
  | enter ho hn _ hs _ ih => exact ih.imp fun _ => .enter ho hn (by simp [Aim.makes]) hs
  | @follow _ _ _ ns _ _ ho hn _ ht _ _ ih =>
    cases ns with
    | nil => exact ⟨_, .last ho hn (by simp [Aim.follows])⟩
    | cons => exact ih.imp fun _ => .follow ho hn (by simp [Aim.makes]) ht (.inl (List.cons_ne_nil _ _))

theorem Walks.cases_proper {n : Name} (h : Walks fs aim links loc (n :: ns) l) (hn : Path.IsProper n) :
    (ns = [] ∧ l = n :: loc) ∨ (ns ≠ [] ∧ Walks fs aim links (n :: loc) ns l) ∨
      ∃ target links', fs.node? (n :: loc) = some (.link target) ∧
        Walks fs aim links' (if Path.isAbsolute target then [] else loc) (Path.steps target ++ ns) l := by
  cases h with
  | slash => exact absurd rfl hn.1
  | here => exact absurd rfl hn.2.1
  | up => exact absurd rfl hn.2.2.1
  | last => exact .inl ⟨rfl, rfl⟩
  | enter _ _ _ hs h => exact .inr (.inl ⟨hs, h⟩)
  | follow _ _ _ ht _ h => exact .inr (.inr ⟨_, _, ht, h⟩)

end

/-! ## What a walk depends on -/

/-- Directories stay and links only go; files may come and go. -/
structure Thins (fs fs' : FileSystem) : Prop where
  directory : ∀ loc m, fs'.node? loc = some (.directory m) ↔ fs.node? loc = some (.directory m)
  link : ∀ loc target, fs'.node? loc = some (.link target) → fs.node? loc = some (.link target)
  here : fs'.here = fs.here

section
variable {fs fs' fs'' : FileSystem} {aim : Aim} {links links' : Nat} {loc l l' : Location} {ns : List Name}

theorem Thins.refl (fs : FileSystem) : Thins fs fs := ⟨fun _ _ => Iff.rfl, fun _ _ h => h, rfl⟩

theorem Thins.trans (h : Thins fs fs') (h' : Thins fs' fs'') : Thins fs fs'' where
  directory loc m := (h'.directory loc m).trans (h.directory loc m)
  link loc target hl := h.link loc target (h'.link loc target hl)
  here := h'.here.trans h.here

theorem Thins.opens (h : Thins fs fs') : fs'.Opens loc ↔ fs.Opens loc := by
  unfold Opens
  simp only [h.directory]

theorem thins_insert_file {content : Bytes} {mode : Mode} (h : ∀ m, fs.node? loc ≠ some (.directory m)) :
    Thins fs (fs.insert loc (.file content mode)) := by
  refine ⟨fun l m => ?_, fun l target => ?_, rfl⟩
  · rw [node?_insert]
    by_cases hl : l = loc
    · subst hl; simp [h m]
    · rw [if_neg hl]
  · rw [node?_insert]
    by_cases hl : l = loc
    · simp [hl]
    · rw [if_neg hl]; exact id

theorem thins_of_insert_file {content : Bytes} {mode : Mode} (h : ∀ n, fs.node? loc = some n → n.isFile) :
    Thins (fs.insert loc (.file content mode)) fs := by
  refine ⟨fun l m => ?_, fun l target hl => ?_, rfl⟩
  · rw [node?_insert]
    by_cases hl : l = loc
    · subst hl
      have hd : fs.node? l ≠ some (.directory m) := fun hd => by cases h _ hd
      simp [hd]
    · rw [if_neg hl]
  · rw [node?_insert]
    by_cases hloc : l = loc
    · subst hloc; cases h _ hl
    · rw [if_neg hloc]; exact hl

theorem thins_erase (h : ∀ m, fs.node? loc ≠ some (.directory m)) : Thins fs (fs.erase loc) := by
  refine ⟨fun l m => ?_, fun l target => ?_, rfl⟩
  · rw [node?_erase]
    by_cases hl : l = loc
    · subst hl; simp [h m]
    · rw [if_neg hl]
  · rw [node?_erase]
    by_cases hl : l = loc
    · simp [hl]
    · rw [if_neg hl]; exact id

theorem Thins.erase (h : Thins fs fs') (loc : Location) : Thins (fs.erase loc) (fs'.erase loc) := by
  refine ⟨fun l m => ?_, fun l target => ?_, h.here⟩
  · rw [node?_erase, node?_erase]
    by_cases hl : l = loc
    · rw [if_pos hl, if_pos hl]
    · rw [if_neg hl, if_neg hl]
      exact h.directory l m
  · rw [node?_erase, node?_erase]
    by_cases hl : l = loc
    · rw [if_pos hl, if_pos hl]
      exact id
    · rw [if_neg hl, if_neg hl]
      exact h.link l target

/-- A walk is kept when links come back, unless it ends with one that it would then have to follow. -/
theorem Walks.of_thins_of_links (h : Walks fs' aim links loc ns l) (ht : Thins fs fs')
    (hl : aim.follows → ∀ loc target, fs.node? loc = some (.link target) → fs'.node? loc = some (.link target)) :
    Walks fs aim links loc ns l := by
  induction h with
  | done => exact .done _ _
  | slash hd _ ih => exact .slash ((ht.directory _ _).1 hd) ih
  | here ho _ ih => exact .here (ht.opens.1 ho) ih
  | up ho _ ih => exact .up (ht.opens.1 ho) ih
  | last ho hn hnot =>
    exact .last (ht.opens.1 ho) hn fun hf target hlink => hnot hf target (hl hf _ target hlink)
  | enter ho hn hm hs _ ih => exact .enter (ht.opens.1 ho) hn hm hs ih
  | follow ho hn hm hlink hs _ ih => exact .follow (ht.opens.1 ho) hn hm (ht.link _ _ hlink) hs ih

theorem Walks.of_thins (h : Walks fs' aim links loc ns l) (ht : Thins fs fs') (hf : aim.follows = false) :
    Walks fs aim links loc ns l :=
  h.of_thins_of_links ht fun hf' => by simp [hf] at hf'

/-- A walk that arrives with some links gone and with others gone arrives with all of them gone. -/
theorem Walks.meet {a b : FileSystem} (h : Walks a aim links loc ns l) (h' : Walks b aim links' loc ns l')
    (ha : Thins fs a) (hb : Thins fs b) (hc : Thins fs fs')
    (hl : ∀ loc target, a.node? loc = some (.link target) → b.node? loc = some (.link target) →
      fs'.node? loc = some (.link target)) (hf : aim.follows = false) : Walks fs' aim links loc ns l := by
  have opens {loc : Location} (ho : a.Opens loc) : fs'.Opens loc := hc.opens.2 (ha.opens.1 ho)
  induction h generalizing links' with
  | done => exact .done _ _
  | slash hd _ ih =>
    cases h' with
    | slash _ h' => exact .slash ((hc.directory _ _).2 ((ha.directory _ _).1 hd)) (ih h')
    | last _ hn => exact absurd rfl hn.1
    | enter _ hn => exact absurd rfl hn.1
    | follow _ hn => exact absurd rfl hn.1
  | here ho _ ih =>
    cases h' with
    | here _ h' => exact .here (opens ho) (ih h')
    | last _ hn => exact absurd rfl hn.2.1
    | enter _ hn => exact absurd rfl hn.2.1
    | follow _ hn => exact absurd rfl hn.2.1
  | up ho _ ih =>
    cases h' with
    | up _ h' => exact .up (opens ho) (ih h')
    | last _ hn => exact absurd rfl hn.2.2.1
    | enter _ hn => exact absurd rfl hn.2.2.1
    | follow _ hn => exact absurd rfl hn.2.2.1
  | last ho hn _ => exact .last (opens ho) hn fun hf' => by simp [hf] at hf'
  | enter ho hn hm hs h ih =>
    rcases h'.cases_proper hn with ⟨rfl, -⟩ | ⟨-, h'⟩ | ⟨target, _, ht, -⟩
    · exact absurd rfl hs
    · exact .enter (opens ho) hn hm hs (ih h')
    · obtain ⟨m, hd⟩ := h.directory_of_ne_nil hs
      have hd := (ha.directory _ _).1 hd
      rw [hb.link _ _ ht] at hd
      cases hd
  | follow ho hn hm ht hs h ih =>
    have hne : _ ≠ [] := hs.resolve_right (by simp [hf])
    rcases h'.cases_proper hn with ⟨rfl, -⟩ | ⟨-, h'⟩ | ⟨target, _, ht', h'⟩
    · exact absurd rfl hne
    · obtain ⟨m, hd⟩ := h'.directory_of_ne_nil hne
      have hd := (hb.directory _ _).1 hd
      rw [ha.link _ _ ht] at hd
      cases hd
    · have htarget := ha.link _ _ ht
      rw [hb.link _ _ ht'] at htarget
      obtain rfl := Node.link.inj (Option.some.inj htarget)
      exact .follow (opens ho) hn hm (hl _ _ ht ht') hs (ih h')

end

end FileSystem

end RpcGate
