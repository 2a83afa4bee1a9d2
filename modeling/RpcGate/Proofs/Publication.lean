import RpcGate.Proofs.Draft

/-!
# How a cookie is published

Each step of a publication leads from one phase to the next (`Stands.step`), or
stops on the way (`Stands.leave`); and whatever it fails with, clearing up after
it leaves the files as they were but for a leftover draft (`Stands.undo`). After any number of steps the
entry of the cookie is what it was or holds the whole cookie, and a file with
a part of it is closed to everybody the target shuts out
(`Provider.meets_whole_or_nothing`).
-/

namespace RpcGate

namespace Cookie

/-! ## Phases -/

/-- How far a publication has come. -/
inductive Phase
  | fresh
  | cleared
  | draft (content : Bytes) (mode : Mode)
  | published (content : Bytes) (mode : Mode)

namespace Phase

def Expects : Phase → Step → Prop
  | fresh, .discard => True
  | cleared, .create _ => True
  | draft .., .write _ => True
  | draft .., .sync => True
  | draft .., .permit _ => True
  | draft .., .rename => True
  | _, _ => False

section
variable (disk : Disk) (capability : Capability) (umask : Mode)

def next? : Phase → Step → Option Phase
  | fresh, .discard => some cleared
  | cleared, .create mode => some (draft [] (mode &&& ~~~umask))
  | draft content mode, .write bytes => some (draft (content ++ bytes) mode)
  | draft content mode, .sync => some (draft content mode)
  | draft content mode, .permit wanted => match capability.choose (.ok mode) wanted with
    | .ok bits => some (draft content bits)
    | .error _ => none
  | draft content mode, .rename => some (published content mode)
  | _, _ => none

/-- The phase that a step fails in: a write may have come some way. -/
def leave : Phase → Step → Phase
  | draft content mode, .write bytes => match disk.stop? bytes.length with
    | some (n, _) => draft (content ++ bytes.take n) mode
    | none => draft content mode
  | phase, _ => phase

/-- Along the steps, as far as they succeed, each is due, and every phase has the property, also
the one that a failure leads to; the last phase has another one too. -/
def Throughout (always atEnd : Phase → Prop) : Phase → List Step → Prop
  | phase, [] => always phase ∧ atEnd phase
  | phase, s :: rest => always phase ∧ phase.Expects s ∧ always (phase.leave disk s) ∧
    ∀ phase', phase.next? capability umask s = some phase' → Throughout always atEnd phase' rest

variable {disk capability umask} {always atEnd : Phase → Prop}

theorem Throughout.head {phase : Phase} {steps : List Step}
    (h : Throughout disk capability umask always atEnd phase steps) : always phase := by
  cases steps with
  | nil => exact h.1
  | cons s rest => exact h.1

theorem Throughout.cons {phase phase' : Phase} {s : Step} {rest : List Step} (ha : always phase)
    (he : phase.Expects s) (hl : always (phase.leave disk s)) (hn : phase.next? capability umask s = some phase')
    (h : Throughout disk capability umask always atEnd phase' rest) :
    Throughout disk capability umask always atEnd phase (s :: rest) := by
  refine ⟨ha, he, hl, fun other ho => ?_⟩
  rw [hn] at ho
  exact Option.some.inj ho ▸ h

theorem Throughout.of_append {phase : Phase} {done rest : List Step}
    (h : Throughout disk capability umask always atEnd phase (done ++ rest)) :
    Throughout disk capability umask always (fun phase' => Throughout disk capability umask always atEnd phase' rest) phase
      done := by
  induction done generalizing phase with
  | nil => exact ⟨h.head, h⟩
  | cons s done ih => exact ⟨h.1, h.2.1, h.2.2.1, fun phase' hn => ih (h.2.2.2 phase' hn)⟩

theorem leave_write {content bytes : Bytes} {mode : Mode}
    (h : ∀ part, part <+: content ++ bytes → always (draft part mode)) :
    always ((draft content mode).leave disk (.write bytes)) := by
  rw [leave]
  cases disk.stop? bytes.length with
  | some stop => exact h _ ((List.prefix_append_right_inj content).2 (List.take_prefix stop.1 bytes))
  | none => exact h _ (List.prefix_append content bytes)

end

end Phase

/-! ## What a phase says about the files -/

/-- A leftover under the temporary name, where it counts as a file, is gone. -/
inductive Cleared (path : Path) (fs : FileSystem) : FileSystem → Prop
  | clean (h : fs.isFile (temporary path) = false) : Cleared path fs fs
  | stale {t : Location} (hf : fs.isFile (temporary path) = true) (ht : fs.locate .entry (temporary path) = .ok t) :
    Cleared path fs (fs.erase t)

/-- As before, or without the leftover. -/
inductive Spared (path : Path) (fs : FileSystem) : FileSystem → Prop
  | same : Spared path fs fs
  | stale {t : Location} (hf : fs.isFile (temporary path) = true) (ht : fs.locate .entry (temporary path) = .ok t) :
    Spared path fs (fs.erase t)

inductive Stands (path : Path) (fs : FileSystem) : Phase → FileSystem → Prop
  | fresh : Stands path fs .fresh fs
  | cleared {fs₁ : FileSystem} (hc : Cleared path fs fs₁) : Stands path fs .cleared fs₁
  | draft {fs₁ : FileSystem} {t : Location} {content : Bytes} {mode : Mode} (hc : Cleared path fs fs₁)
    (hd : DraftPlace path fs₁ t) : Stands path fs (.draft content mode) (withDraft fs₁ t content mode)
  | published {fs₁ : FileSystem} {t loc : Location} {content : Bytes} {mode : Mode} (hc : Cleared path fs fs₁)
    (hd : DraftPlace path fs₁ t) (hp : CookiePlace path fs₁ loc) :
    Stands path fs (.published content mode) (fs₁.insert loc (.file content mode))

section
variable {path : Path} {fs fs' fs₁ : FileSystem} {phase : Phase} {s : Step} {disk : Disk} {capability : Capability}

theorem Cleared.spared (h : Cleared path fs fs₁) : Spared path fs fs₁ := by
  cases h with
  | clean => exact .same
  | stale hf ht => exact .stale hf ht

theorem Spared.thins (h : Spared path fs fs₁) : fs.Thins fs₁ := by
  cases h with
  | same => exact .refl fs
  | stale hf ht => exact FileSystem.thins_erase (FileSystem.deadEnd_of_isFile hf ht).1

theorem Spared.node?_of_some (h : Spared path fs fs₁) {loc : Location} {n : Node} (hn : fs₁.node? loc = some n) :
    fs.node? loc = some n := by
  cases h with
  | same => exact hn
  | stale =>
    rw [FileSystem.node?_erase] at hn
    split at hn
    · cases hn
    · exact hn

theorem Spared.node?_eq (h : Spared path fs fs₁) {loc : Location}
    (hl : fs.locate .entry (temporary path) ≠ .ok loc) : fs₁.node? loc = fs.node? loc := by
  cases h with
  | same => rfl
  | stale _ ht =>
    have hne : loc ≠ _ := fun he => hl (he ▸ ht)
    rw [FileSystem.node?_erase, if_neg hne]

theorem Spared.entry?_cookie (h : Spared path fs fs₁) : fs₁.entry? path = fs.entry? path := by
  cases h with
  | same => rfl
  | stale hf ht =>
    exact FileSystem.entry?_erase (FileSystem.deadEnd_of_isFile hf ht) fun loc hl => locate_temporary_ne hl rfl ht rfl

theorem Cleared.umask (h : Cleared path fs fs₁) : fs₁.umask = fs.umask := by
  cases h with
  | clean => rfl
  | stale => rfl

theorem cleared_of_discard (h : Step.discard.run disk capability path fs = .ok fs') : Cleared path fs fs' := by
  simp only [Step.run] at h
  split at h
  · next hf =>
    obtain ⟨t, _, ht, -, -, -, -, rfl⟩ := FileSystem.remove_eq_ok_iff.1 h
    exact .stale hf ht
  · next hf =>
    cases h
    exact .clean (by simpa using hf)

theorem Cleared.isFile (h : Cleared path fs fs₁) : fs₁.isFile (temporary path) = false := by
  cases h with
  | clean hf => exact hf
  | @stale t hf ht =>
    have hl := (FileSystem.locate_erase_iff (FileSystem.deadEnd_of_isFile hf ht) rfl).2 ht
    have hn := fs.node?_erase_self t
    exact FileSystem.isFile_of_free (FileSystem.locate_reach_of_free hl hn) hn

theorem Cleared.undo_create (h : Cleared path fs fs₁) (mode : Mode) : (Step.create mode).undo path fs₁ = fs₁ := by
  simp [Step.undo, h.isFile]

theorem Stands.step (h : Stands path fs phase fs') (he : phase.Expects s) {fs'' : FileSystem}
    (hr : s.run disk capability path fs' = .ok fs'') :
    ∃ phase', phase.next? capability fs.umask s = some phase' ∧ Stands path fs phase' fs'' := by
  -- each phase lets through the steps that are due, and these are all there are
  cases h with
  | fresh =>
    cases s with
    | discard => exact ⟨_, rfl, .cleared (cleared_of_discard hr)⟩
    | _ => exact he.elim
  | cleared hc =>
    cases s with
    | create mode =>
      obtain ⟨t, hd, rfl⟩ := draft_of_createNew hr
      exact ⟨_, rfl, by rw [FileSystem.granted, hc.umask]; exact .draft hc hd⟩
    | _ => exact he.elim
  | draft hc hd =>
    cases s with
    | write bytes =>
      simp only [Step.run] at hr
      split at hr
      · cases hr
      · obtain rfl := Except.ok.inj ((hd.extend_withDraft bytes).symm.trans hr)
        exact ⟨_, rfl, .draft hc hd⟩
    | sync =>
      simp only [Step.run] at hr
      cases hs : disk.sync with
      | error fault => rw [hs] at hr; cases hr
      | ok _ =>
        rw [hs] at hr
        obtain rfl := Except.ok.inj hr
        exact ⟨_, rfl, .draft hc hd⟩
    | permit wanted =>
      have hr := (hd.apply_withDraft capability wanted).symm.trans hr
      cases hm : capability.choose (.ok _) wanted with
      | error fault => rw [hm] at hr; cases hr
      | ok bits =>
        rw [hm] at hr
        obtain rfl := Except.ok.inj hr
        exact ⟨.draft _ bits, by simp only [Phase.next?, hm], .draft hc hd⟩
    | rename =>
      obtain ⟨loc, hp, rfl⟩ := hd.rename_withDraft_iff.1 hr
      exact ⟨_, rfl, .published hc hd hp⟩
    | _ => exact he.elim
  | published => exact (by cases s <;> exact he : False).elim

theorem Stands.leave (h : Stands path fs phase fs') (he : phase.Expects s) (disk : Disk) :
    Stands path fs (phase.leave disk s) (s.leave disk path fs') ∧ (phase.leave disk s).Expects s := by
  cases h with
  | fresh =>
    cases s with
    | discard => exact ⟨.fresh, trivial⟩
    | _ => exact he.elim
  | cleared hc =>
    cases s with
    | create mode => exact ⟨.cleared hc, trivial⟩
    | _ => exact he.elim
  | draft hc hd =>
    cases s with
    | write bytes =>
      simp only [Phase.leave, Step.leave, hd.extend_withDraft]
      cases disk.stop? bytes.length with
      | some stop => exact ⟨.draft hc hd, trivial⟩
      | none => exact ⟨.draft hc hd, trivial⟩
    | discard => exact he.elim
    | create => exact he.elim
    | _ => exact ⟨.draft hc hd, trivial⟩
  | published => exact (by cases s <;> exact he : False).elim

theorem Stands.undo (h : Stands path fs phase fs') (he : phase.Expects s) : Spared path fs (s.undo path fs') := by
  cases h with
  | fresh =>
    cases s with
    | discard => exact .same
    | _ => exact he.elim
  | cleared hc =>
    cases s with
    | create mode => rw [hc.undo_create]; exact hc.spared
    | _ => exact he.elim
  | @draft fs₁ t content mode hc hd =>
    have hundo : s.undo path (withDraft fs₁ t content mode) = fs₁ := by
      cases s with
      | discard => exact he.elim
      | create => exact he.elim
      | _ => simp only [Step.undo, hd.isFile_withDraft, hd.remove_withDraft, if_true]
    rw [hundo]
    exact hc.spared
  | published => exact (by cases s <;> exact he : False).elim

theorem Stands.placed {content : Bytes} {mode : Mode} (h : Stands path fs (.published content mode) fs') :
    ∃ loc, fs.locate .entry path = .ok loc ∧ fs'.node? loc = some (.file content mode) := by
  cases h with
  | published hc _ hp =>
    exact ⟨_, FileSystem.locate_of_thins hp.locate hc.spared.thins rfl, FileSystem.node?_insert_self ..⟩

theorem Stands.node?_cookie (h : Stands path fs phase fs') {loc : Location} (hl : fs.locate .entry path = .ok loc) :
    fs'.node? loc = fs.node? loc ∨
      ∃ content mode, phase = .published content mode ∧ fs'.node? loc = some (.file content mode) := by
  have ht : fs.locate .entry (temporary path) ≠ .ok loc := fun ht => locate_temporary_ne hl rfl ht rfl rfl
  cases h with
  | fresh => exact .inl rfl
  | cleared hc => exact .inl (hc.spared.node?_eq ht)
  | draft hc hd =>
    left
    have hne := locate_temporary_ne hl rfl (FileSystem.locate_of_thins hd.entry hc.spared.thins rfl) rfl
    rw [FileSystem.node?_insert, if_neg hne, hc.spared.node?_eq ht]
  | published hc _ hp =>
    right
    rw [FileSystem.locate_unique hl (FileSystem.locate_of_thins hp.locate hc.spared.thins rfl)]
    exact ⟨_, _, rfl, FileSystem.node?_insert_self ..⟩

theorem Stands.entry?_cookie_iff {held : Bytes} {mode : Mode} (h : Stands path fs (.published held mode) fs') :
    fs'.entry? path = some (.file held mode) ↔ fs.AvoidsOwnLink path := by
  cases h with
  | published hc _ hp => exact FileSystem.entry?_insert_file_iff hc.spared.thins hp.locate hp.notDirectory

/-- A path that leads anywhere after the publication leads to the cookie. -/
theorem Stands.node?_of_locate {held : Bytes} {mode : Mode} (h : Stands path fs (.published held mode) fs') {loc : Location}
    (hl : fs'.locate .entry path = .ok loc) : fs'.node? loc = some (.file held mode) := by
  cases h with
  | published hc _ hp =>
    obtain rfl := FileSystem.locate_unique hp.locate
      (FileSystem.locate_of_thins hl (FileSystem.thins_insert_file hp.notDirectory) rfl)
    exact FileSystem.node?_insert_self ..

theorem Stands.entry?_cookie (h : Stands path fs phase fs') : fs'.entry? path = fs.entry? path ∨
    ∃ content mode, phase = .published content mode ∧
      (fs.AvoidsOwnLink path ∧ fs'.entry? path = some (.file content mode) ∨
        ¬ fs.AvoidsOwnLink path ∧ fs'.entry? path = none) := by
  cases h with
  | fresh => exact .inl rfl
  | cleared hc => exact .inl hc.spared.entry?_cookie
  | draft hc hd => exact .inl (hd.entry?_withDraft.trans hc.spared.entry?_cookie)
  | @published fs₁ t loc content mode hc hd hp =>
    have h : Stands path fs (.published content mode) (fs₁.insert loc (.file content mode)) := .published hc hd hp
    refine .inr ⟨content, mode, rfl, ?_⟩
    by_cases ha : fs.AvoidsOwnLink path
    · exact .inl ⟨ha, h.entry?_cookie_iff.2 ha⟩
    · refine .inr ⟨ha, Option.eq_none_iff_forall_ne_some.2 fun n hn => ha (h.entry?_cookie_iff.1 ?_)⟩
      obtain ⟨l, hl, -⟩ := FileSystem.entry?_eq_some_iff.1 hn
      exact FileSystem.entry?_eq_some_iff.2 ⟨l, hl, h.node?_of_locate hl⟩

theorem Stands.node?_other (h : Stands path fs phase fs') {loc : Location} (hl : fs.locate .entry path ≠ .ok loc)
    (ht : fs.locate .entry (temporary path) ≠ .ok loc) : fs'.node? loc = fs.node? loc := by
  cases h with
  | fresh => rfl
  | cleared hc => exact hc.spared.node?_eq ht
  | draft hc hd =>
    have hne : loc ≠ _ := fun he => ht (he ▸ FileSystem.locate_of_thins hd.entry hc.spared.thins rfl)
    rw [FileSystem.node?_insert, if_neg hne, hc.spared.node?_eq ht]
  | published hc _ hp =>
    have hne : loc ≠ _ := fun he => hl (he ▸ FileSystem.locate_of_thins hp.locate hc.spared.thins rfl)
    rw [FileSystem.node?_insert, if_neg hne, hc.spared.node?_eq ht]

theorem Stands.file_cases (h : Stands path fs phase fs') {loc : Location} {held : Bytes} {mode : Mode}
    (hn : fs'.node? loc = some (.file held mode)) :
    fs.node? loc = some (.file held mode) ∨ phase = .draft held mode ∨ phase = .published held mode := by
  cases h with
  | fresh => exact .inl hn
  | cleared hc => exact .inl (hc.spared.node?_of_some hn)
  | draft hc =>
    rw [FileSystem.node?_insert] at hn
    split at hn
    · cases hn; exact .inr (.inl rfl)
    · exact .inl (hc.spared.node?_of_some hn)
  | published hc =>
    rw [FileSystem.node?_insert] at hn
    split at hn
    · cases hn; exact .inr (.inr rfl)
    · exact .inl (hc.spared.node?_of_some hn)

theorem Stands.runSteps {always atEnd : Phase → Prop} {steps : List Step} (h : Stands path fs phase fs')
    (ht : phase.Throughout disk capability fs.umask always atEnd steps) :
    ∃ phase', always phase' ∧ Stands path fs phase' (runSteps disk capability path steps fs').1 ∧
      ((runSteps disk capability path steps fs').2 = none → atEnd phase') ∧
      ∀ s fault, (runSteps disk capability path steps fs').2 = some (s, fault) → phase'.Expects s := by
  induction steps generalizing phase fs' with
  | nil => exact ⟨phase, ht.1, h, fun _ => ht.2, fun s fault hs => by cases hs⟩
  | cons s rest ih =>
    rw [Cookie.runSteps]
    cases hr : s.run disk capability path fs' with
    | ok fs'' =>
      obtain ⟨phase', hn, h'⟩ := h.step ht.2.1 hr
      exact ih h' (ht.2.2.2 phase' hn)
    | error fault =>
      obtain ⟨hleft, hexpects⟩ := h.leave ht.2.1 disk
      refine ⟨_, ht.2.2.1, hleft, ?_, ?_⟩
      · intro hs
        cases hs
      · intro s' fault' hs
        cases hs
        exact hexpects

end

/-! ## The phases of a publication -/

section
variable (disk : Disk) (capability : Capability) (permissions : CookiePermissions) (umask : Mode)

def draftMode : Mode :=
  (if permissions.target?.isSome then CookiePermissions.ownerBits else 0o666) &&& ~~~umask

/-- The bits a draft ends up with: the target as the capability sets it, or those of a new file. -/
def IsFinalMode (mode : Mode) : Prop :=
  match permissions.target? with
  | none => mode = draftMode permissions umask
  | some wanted => capability.choose (.ok (draftMode permissions umask)) wanted = .ok mode

/-- A draft holds the beginning of the cookie, and what is published is whole and has its bits. -/
def Phase.IsSound (secret : Text) : Phase → Prop
  | .draft held mode => held <+: content secret ∧
    (mode = draftMode permissions umask ∨ IsFinalMode capability permissions umask mode)
  | .published held mode => held = content secret ∧ IsFinalMode capability permissions umask mode
  | _ => True

def Phase.IsPublished : Phase → Prop
  | .published .. => True
  | _ => False

theorem content_eq (secret : Text) : content secret = Text.utf8 username ++ Text.utf8 [':'] ++ Text.utf8 secret := by
  simp [content, Text.utf8]

theorem throughout_steps (secret : Text) :
    Phase.fresh.Throughout disk capability umask (Phase.IsSound capability permissions umask secret) Phase.IsPublished
      (steps permissions secret) := by
  have moved {mode : Mode} (hm : IsFinalMode capability permissions umask mode) :
      (Phase.draft (content secret) mode).Throughout disk capability umask
        (Phase.IsSound capability permissions umask secret) Phase.IsPublished [.rename] :=
    have hsound : Phase.IsSound capability permissions umask secret (.draft (content secret) mode) :=
      ⟨List.prefix_rfl, .inr hm⟩
    .cons hsound trivial hsound rfl ⟨⟨rfl, hm⟩, trivial⟩
  have begun {held : Bytes} (h : held <+: content secret) :
      Phase.IsSound capability permissions umask secret (.draft held (draftMode permissions umask)) := ⟨h, .inl rfl⟩
  have permitted : (Phase.draft (content secret) (draftMode permissions umask)).Throughout disk capability umask
      (Phase.IsSound capability permissions umask secret) Phase.IsPublished
      ((permissions.target?.map Step.permit).toList ++ [.rename]) := by
    cases ht : permissions.target? with
    | none => exact moved (by rw [IsFinalMode, ht])
    | some wanted =>
      refine ⟨begun List.prefix_rfl, trivial, begun List.prefix_rfl, fun phase hp => ?_⟩
      simp only [Phase.next?] at hp
      split at hp
      · next bits hb =>
        obtain rfl := Option.some.inj hp
        exact moved (by rw [IsFinalMode, ht]; exact hb)
      · cases hp
  have written {held bytes : Bytes} {rest : List Step} (h : held ++ bytes <+: content secret)
      (hr : (Phase.draft (held ++ bytes) (draftMode permissions umask)).Throughout disk capability umask
        (Phase.IsSound capability permissions umask secret) Phase.IsPublished rest) :
      (Phase.draft held (draftMode permissions umask)).Throughout disk capability umask
        (Phase.IsSound capability permissions umask secret) Phase.IsPublished (.write bytes :: rest) :=
    .cons (begun ((List.prefix_append held bytes).trans h)) trivial
      (Phase.leave_write fun _ hp => begun (hp.trans h)) rfl hr
  have hsynced : Phase.IsSound capability permissions umask secret
      (.draft (content secret) (draftMode permissions umask)) := begun List.prefix_rfl
  rw [content_eq] at permitted hsynced
  refine .cons trivial trivial trivial rfl ?_
  refine .cons trivial trivial trivial rfl ?_
  refine written ?_ (written ?_ (written ?_ ?_))
  · rw [content_eq, List.append_assoc]
    exact List.prefix_append _ _
  · rw [content_eq]
    exact List.prefix_append _ _
  · rw [content_eq]
    exact List.prefix_rfl
  · exact .cons hsynced trivial hsynced rfl permitted

end

/-- A publication leaves the files as they were, but for a leftover, or the whole cookie. -/
theorem publish_cases (disk : Disk) (capability : Capability) (permissions : CookiePermissions) (path : Path) (secret : Text)
    (fs : FileSystem) :
    (∃ e, (publish disk capability permissions path secret fs).2 = some e ∧
      Spared path fs (publish disk capability permissions path secret fs).1) ∨
    ((publish disk capability permissions path secret fs).2 = none ∧
      ∃ mode, IsFinalMode capability permissions fs.umask mode ∧
        Stands path fs (.published (content secret) mode) (publish disk capability permissions path secret fs).1) := by
  obtain ⟨phase, hsound, hstands, hend, hfail⟩ :=
    Stands.runSteps (@Stands.fresh path fs) (throughout_steps disk capability permissions fs.umask secret)
  unfold publish
  split
  · next fs' hr =>
    rw [hr] at hstands hend
    right
    refine ⟨rfl, ?_⟩
    cases phase with
    | published held mode =>
      obtain ⟨rfl, hmode⟩ := hsound
      exact ⟨mode, hmode, hstands⟩
    | _ => exact (hend rfl).elim
  · next fs' s fault hr =>
    rw [hr] at hstands hfail
    exact .inl ⟨_, rfl, hstands.undo (hfail s fault rfl)⟩

theorem runSteps_cons {disk : Disk} {capability : Capability} {path : Path} {fs fs' : FileSystem} {s : Step}
    (h : s.run disk capability path fs = .ok fs') (rest : List Step) :
    runSteps disk capability path (s :: rest) fs = runSteps disk capability path rest fs' := by
  rw [runSteps, h]

theorem discard_of_clean {disk : Disk} {capability : Capability} {path : Path} {fs : FileSystem}
    (h : fs.isFile (temporary path) = false) : Step.discard.run disk capability path fs = .ok fs := by
  simp only [Step.run, h, Bool.false_eq_true, if_false]

theorem DraftPlace.write_withDraft {capability : Capability} {path : Path} {fs : FileSystem} {t : Location} {held : Bytes}
    {mode : Mode} (hd : DraftPlace path fs t) (bytes : Bytes) :
    (Step.write bytes).run .sound capability path (withDraft fs t held mode) =
      .ok (withDraft fs t (held ++ bytes) mode) := hd.extend_withDraft bytes

/-- Where a draft has its place, and can get its bits, it comes to hold the whole cookie. -/
theorem runSteps_of_draftPlace {capability : Capability} {permissions : CookiePermissions} {path : Path}
    {fs : FileSystem} {t : Location} {mode : Mode} (hf : fs.isFile (temporary path) = false) (hd : DraftPlace path fs t)
    (hm : IsFinalMode capability permissions fs.umask mode) (secret : Text) :
    runSteps .sound capability path (steps permissions secret) fs =
      runSteps .sound capability path [.rename] (withDraft fs t (content secret) mode) := by
  have permitted : runSteps .sound capability path ((permissions.target?.map Step.permit).toList ++ [.rename])
      (withDraft fs t (content secret) (draftMode permissions fs.umask)) =
      runSteps .sound capability path [.rename] (withDraft fs t (content secret) mode) := by
    cases ht : permissions.target? with
    | none =>
      rw [IsFinalMode, ht] at hm
      rw [hm]
      rfl
    | some wanted =>
      rw [IsFinalMode, ht] at hm
      have happly : (Step.permit wanted).run .sound capability path _ = .ok (withDraft fs t (content secret) mode) :=
        (hd.apply_withDraft capability wanted).trans (by rw [hm]; rfl)
      exact runSteps_cons happly _
  rw [content_eq] at permitted ⊢
  refine (runSteps_cons (discard_of_clean hf) _).trans ?_
  refine (runSteps_cons (s := .create _) (hd.createNew _) _).trans ?_
  refine (runSteps_cons (hd.write_withDraft (Text.utf8 username)) _).trans ?_
  refine (runSteps_cons (hd.write_withDraft (Text.utf8 [':'])) _).trans ?_
  refine (runSteps_cons (hd.write_withDraft (Text.utf8 secret)) _).trans ?_
  exact (runSteps_cons (s := .sync) rfl _).trans permitted

/-- A cookie that has a place is published, if its draft has one, the capability gives it its bits and
the disk takes it. -/
theorem publish_of_places {capability : Capability} {permissions : CookiePermissions} {path : Path} {fs : FileSystem}
    {t loc : Location} {mode : Mode} (hf : fs.isFile (temporary path) = false) (hd : DraftPlace path fs t)
    (hp : CookiePlace path fs loc) (hm : IsFinalMode capability permissions fs.umask mode) (secret : Text) :
    publish .sound capability permissions path secret fs = (fs.insert loc (.file (content secret) mode), none) := by
  have hrun : runSteps .sound capability path (steps permissions secret) fs =
      (fs.insert loc (.file (content secret) mode), none) :=
    (runSteps_of_draftPlace hf hd hm secret).trans
      (runSteps_cons (s := .rename) (hd.rename_withDraft_iff.2 ⟨loc, hp, rfl⟩) [])
  rw [publish, hrun]

/-! ## What is met on the way -/

/-- The file systems that are met while a cookie is provisioned: after some of the steps, the
last of which may have stopped on the way, and at the end, when it has been cleared up after. -/
inductive Provider.Meets (p : Provider) (disk : Disk) (bytes : Vector UInt8 32) (fs : FileSystem) : FileSystem → Prop
  | during (n : Nat) :
    Meets p disk bytes fs (runSteps disk p.capability p.path ((steps p.permissions (secretOf bytes)).take n) fs).1
  | after : Meets p disk bytes fs (p.provision bytes fs disk).files

theorem Provider.provision_cases (p : Provider) (bytes : Vector UInt8 32) (fs : FileSystem) (disk : Disk) :
    (∃ e, (publish disk p.capability p.permissions p.path (secretOf bytes) fs).2 = some e ∧
      p.provision bytes fs disk =
        ⟨(publish disk p.capability p.permissions p.path (secretOf bytes) fs).1, .failedFatal, .error e⟩) ∨
    ((publish disk p.capability p.permissions p.path (secretOf bytes) fs).2 = none ∧
      ((∃ e, checkMode p.capability p.permissions p.path
          (publish disk p.capability p.permissions p.path (secretOf bytes) fs).1 = some e ∧
        p.provision bytes fs disk =
          ⟨(publish disk p.capability p.permissions p.path (secretOf bytes) fs).1, .failedFatal, .error e⟩) ∨
      (checkMode p.capability p.permissions p.path
          (publish disk p.capability p.permissions p.path (secretOf bytes) fs).1 = none ∧
        p.provision bytes fs disk =
          ⟨(publish disk p.capability p.permissions p.path (secretOf bytes) fs).1, .active,
            .ok ⟨secretOf bytes, p.path⟩⟩))) := by
  unfold provision
  simp only
  split
  · next fs' e h =>
    rw [h]
    exact .inl ⟨e, rfl, rfl⟩
  · next fs' h =>
    rw [h]
    refine .inr ⟨rfl, ?_⟩
    split
    · next e hc => exact .inl ⟨e, hc, rfl⟩
    · next hc => exact .inr ⟨hc, rfl⟩

theorem Provider.provision_eq (p : Provider) {bytes : Vector UInt8 32} {fs : FileSystem} {disk : Disk}
    (hn : (publish disk p.capability p.permissions p.path (secretOf bytes) fs).2 = none)
    (hc : checkMode p.capability p.permissions p.path
      (publish disk p.capability p.permissions p.path (secretOf bytes) fs).1 = none) :
    p.provision bytes fs disk = ⟨(publish disk p.capability p.permissions p.path (secretOf bytes) fs).1, .active,
      .ok ⟨secretOf bytes, p.path⟩⟩ := by
  rcases p.provision_cases bytes fs disk with ⟨e, he, -⟩ | ⟨-, ⟨e, he, -⟩ | ⟨-, h⟩⟩
  · cases he.symm.trans hn
  · cases he.symm.trans hc
  · exact h

theorem Provider.files_provision (p : Provider) (bytes : Vector UInt8 32) (fs : FileSystem) (disk : Disk) :
    (p.provision bytes fs disk).files = (publish disk p.capability p.permissions p.path (secretOf bytes) fs).1 := by
  rcases p.provision_cases bytes fs disk with ⟨_, -, h⟩ | ⟨-, ⟨_, -, h⟩ | ⟨-, h⟩⟩
  · rw [h]
  · rw [h]
  · rw [h]

theorem Spared.stands {path : Path} {fs fs' : FileSystem} (h : Spared path fs fs') :
    Stands path fs .fresh fs' ∨ Stands path fs .cleared fs' := by
  cases h with
  | same => exact .inl .fresh
  | stale hf ht => exact .inr (.cleared (.stale hf ht))

theorem Provider.Meets.stands {p : Provider} {disk : Disk} {bytes : Vector UInt8 32} {fs fs' : FileSystem}
    (h : p.Meets disk bytes fs fs') : ∃ phase : Phase,
      phase.IsSound p.capability p.permissions fs.umask (secretOf bytes) ∧ Stands p.path fs phase fs' := by
  cases h with
  | during n =>
    have ht := throughout_steps disk p.capability p.permissions fs.umask (secretOf bytes)
    rw [← List.take_append_drop n (steps p.permissions (secretOf bytes))] at ht
    obtain ⟨phase, hsound, hstands, -⟩ := Stands.runSteps .fresh ht.of_append
    exact ⟨phase, hsound, hstands⟩
  | after =>
    rw [files_provision]
    rcases publish_cases disk p.capability p.permissions p.path (secretOf bytes) fs with ⟨_, -, hs⟩ | ⟨-, mode, hm, hs⟩
    · rcases hs.stands with hs | hs
      · exact ⟨.fresh, trivial, hs⟩
      · exact ⟨.cleared, trivial, hs⟩
    · exact ⟨.published _ mode, ⟨rfl, hm⟩, hs⟩

theorem IsFinalMode.eq_target {permissions : CookiePermissions} {umask mode m : Mode}
    (h : IsFinalMode Capability.posix permissions umask mode) (hm : permissions.target? = some m) : mode = m := by
  rw [IsFinalMode, hm] at h
  exact (Except.ok.inj h).symm

theorem draftMode_of_target {permissions : CookiePermissions} {m : Mode} (h : permissions.target? = some m)
    (umask : Mode) : draftMode permissions umask = CookiePermissions.ownerBits &&& ~~~umask := by
  rw [draftMode, h]
  rfl

/-- At every moment the entry of the cookie is what it was or the whole cookie with its bits, and so
is what the path names, unless the path leads through the link that the cookie replaces. A file
that is not as it was holds a beginning of the cookie and has the bits of its owner alone, or those
that are asked for. Nothing changes but the two entries. -/
theorem Provider.meets_whole_or_nothing (p : Provider) (hp : p.capability = .posix) (m : Mode)
    (hm : p.permissions.target? = some m) (disk : Disk) (bytes : Vector UInt8 32) (fs fs' : FileSystem)
    (h : p.Meets disk bytes fs fs') :
    (∀ loc, fs.locate .entry p.path = .ok loc →
      fs'.node? loc = fs.node? loc ∨ fs'.node? loc = some (.file (content (secretOf bytes)) m)) ∧
    (fs'.entry? p.path = fs.entry? p.path ∨
      fs.AvoidsOwnLink p.path ∧ fs'.entry? p.path = some (.file (content (secretOf bytes)) m) ∨
      ¬ fs.AvoidsOwnLink p.path ∧ fs'.entry? p.path = none) ∧
    (∀ loc held mode, fs'.node? loc = some (.file held mode) →
      fs.node? loc = some (.file held mode) ∨ held <+: content (secretOf bytes) ∧
        (mode = CookiePermissions.ownerBits &&& ~~~fs.umask ∨ mode = m)) ∧
    (∀ loc, fs.locate .entry p.path ≠ .ok loc → fs.locate .entry (temporary p.path) ≠ .ok loc →
      fs'.node? loc = fs.node? loc) := by
  obtain ⟨phase, hsound, hstands⟩ := h.stands
  rw [hp] at hsound
  refine ⟨?_, ?_, ?_, fun loc hl ht => hstands.node?_other hl ht⟩
  · intro loc hl
    rcases hstands.node?_cookie hl with hn | ⟨held, mode, rfl, hn⟩
    · exact .inl hn
    · obtain ⟨rfl, hmode⟩ := hsound
      rw [hmode.eq_target hm] at hn
      exact .inr hn
  · rcases hstands.entry?_cookie with hn | ⟨held, mode, rfl, hn⟩
    · exact .inl hn
    · obtain ⟨rfl, hmode⟩ := hsound
      rw [hmode.eq_target hm] at hn
      exact .inr hn
  · intro loc held mode hn
    rcases hstands.file_cases hn with hn | rfl | rfl
    · exact .inl hn
    · obtain ⟨hheld, hmode⟩ := hsound
      rw [draftMode_of_target hm] at hmode
      exact .inr ⟨hheld, hmode.imp_right fun hmode => hmode.eq_target hm⟩
    · obtain ⟨rfl, hmode⟩ := hsound
      exact .inr ⟨List.prefix_rfl, .inr (hmode.eq_target hm)⟩

/-- Between the name and the secret. -/
theorem Provider.meets_whole_or_nothing_midway :
    let p : Provider := ⟨"/.cookie".toList, .mode 0o440, .posix, .uninitialized⟩
    let bytes := Vector.replicate 32 0
    let fs := FileSystem.empty 0o022
    let fs' := withDraft fs [".cookie.tmp".toList] (Text.utf8 username) 0o600
    p.Meets .sound bytes fs fs' ∧ fs'.node? [".cookie".toList] = none ∧
      Text.utf8 username <+: content (secretOf bytes) := by
  intro p bytes fs fs'
  have hd := draftPlace_root 0o022
  have hrun : (runSteps .sound p.capability p.path ((steps p.permissions (secretOf bytes)).take 3) fs).1 = fs' := by
    have hsteps : (steps p.permissions (secretOf bytes)).take 3 =
        [.discard, .create CookiePermissions.ownerBits, .write (Text.utf8 username)] := rfl
    rw [hsteps, runSteps_cons (discard_of_clean (isFile_temporary_root 0o022)),
      runSteps_cons (s := .create _) (hd.createNew _), runSteps_cons (hd.write_withDraft _)]
    rfl
  have hm : p.Meets .sound bytes fs fs' := hrun ▸ .during 3
  have hl := (cookiePlace_root 0o022).locate
  obtain ⟨h1, -, h2, -⟩ := p.meets_whole_or_nothing rfl 0o440 rfl .sound bytes fs fs' hm
  refine ⟨hm, ?_, ?_⟩
  · rcases h1 _ hl with h | h
    · exact h
    · cases h
  · rcases h2 [".cookie.tmp".toList] (Text.utf8 username) 0o600 rfl with h | ⟨h, -⟩
    · cases h
    · exact h

end Cookie

end RpcGate
