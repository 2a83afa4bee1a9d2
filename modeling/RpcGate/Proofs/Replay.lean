import Mathlib.Data.List.Induction
import RpcGate.Credential.Registry

/-!
# What survives the directives

The replay keeps two lists: the entries that count, and those that the latest
clear put aside. By position, what survives are the entries added after the
last clear that is not undone (`resolve_eq_added`). Of the state that a run
starts from, its active list counts up to the first clear that lasts, and its
other list only if a re-enable comes before any clear (`active_of_not_lasts`).
-/

namespace RpcGate

/-! ## Clears by position -/

/-- The next clear or re-enable is a re-enable. -/
def Undone (ds : List Directive) : Prop :=
  ∃ adds rest, ds = adds ++ .reEnable :: rest ∧ ∀ d ∈ adds, d.isAdd

/-- Some clear is not undone. -/
def Lasts (ds : List Directive) : Prop :=
  ∃ before after, ds = before ++ .clear :: after ∧ ¬ Undone after

/-- What follows the last clear that is not undone: everything, if there is none. -/
inductive Remains (ds : List Directive) : List Directive → Prop
  | all (h : ¬ Lasts ds) : Remains ds ds
  | cut {before after : List Directive} (h : ds = before ++ .clear :: after) (hu : ¬ Undone after)
    (hl : ¬ Lasts after) : Remains ds after

/-- The latest clear or re-enable is a clear. -/
def Pending (ds : List Directive) : Prop :=
  ∃ before adds, ds = before ++ .clear :: adds ∧ ∀ d ∈ adds, d.isAdd

theorem undone_reEnable (ds : List Directive) : Undone (.reEnable :: ds) := ⟨[], ds, rfl, by simp⟩

theorem not_undone_nil : ¬ Undone [] := by
  intro h
  obtain ⟨adds, rest, h, -⟩ := h
  simp at h

theorem not_undone_clear (ds : List Directive) : ¬ Undone (.clear :: ds) := by
  intro h
  obtain ⟨adds, rest, h, ha⟩ := h
  cases adds with
  | nil => simp at h
  | cons d adds =>
    have := ha d (by simp)
    rw [← (List.cons.inj h).1] at this
    cases this

theorem undone_add {d : Directive} (hd : d.isAdd) (ds : List Directive) :
    Undone (d :: ds) ↔ Undone ds := by
  constructor
  · intro h
    obtain ⟨adds, rest, h, ha⟩ := h
    cases adds with
    | nil =>
      rw [(List.cons.inj h).1] at hd
      cases hd
    | cons _ adds =>
      exact ⟨adds, rest, (List.cons.inj h).2, fun x hx => ha x (by simp [hx])⟩
  · intro h
    obtain ⟨adds, rest, rfl, ha⟩ := h
    refine ⟨d :: adds, rest, rfl, ?_⟩
    intro x hx
    rcases List.mem_cons.1 hx with rfl | hx
    · exact hd
    · exact ha x hx

theorem lasts_cons (d : Directive) (ds : List Directive) :
    Lasts (d :: ds) ↔ (d = .clear ∧ ¬ Undone ds) ∨ Lasts ds := by
  constructor
  · intro h
    obtain ⟨before, after, h, hu⟩ := h
    cases before with
    | nil =>
      obtain ⟨rfl, rfl⟩ := List.cons.inj h
      exact .inl ⟨rfl, hu⟩
    | cons _ before => exact .inr ⟨before, after, (List.cons.inj h).2, hu⟩
  · intro h
    rcases h with ⟨rfl, hu⟩ | ⟨before, after, rfl, hu⟩
    · exact ⟨[], ds, rfl, hu⟩
    · exact ⟨d :: before, after, rfl, hu⟩

theorem not_lasts_nil : ¬ Lasts [] := by
  intro h
  obtain ⟨before, after, h, -⟩ := h
  simp at h

theorem lasts_add {d : Directive} (hd : d.isAdd) (ds : List Directive) : Lasts (d :: ds) ↔ Lasts ds := by
  have : d ≠ .clear := by intro h; rw [h] at hd; cases hd
  simp [lasts_cons, this]

theorem exists_remains (ds : List Directive) : ∃ after, Remains ds after := by
  induction ds with
  | nil => exact ⟨[], .all not_lasts_nil⟩
  | cons d ds ih =>
    by_cases hl : Lasts ds
    · obtain ⟨after, hr⟩ := ih
      cases hr with
      | all h => exact absurd hl h
      | @cut before after h hu hl => exact ⟨after, @Remains.cut _ (d :: before) _ (by rw [h]; rfl) hu hl⟩
    · by_cases hd : d = .clear ∧ ¬ Undone ds
      · exact ⟨ds, @Remains.cut _ [] _ (by rw [hd.1]; rfl) hd.2 hl⟩
      · exact ⟨d :: ds, .all (by rw [lasts_cons, not_or]; exact ⟨hd, hl⟩)⟩

theorem Remains.eq_of_cut {ds before before' after after' : List Directive} (h : ds = before ++ .clear :: after)
    (h' : ds = before' ++ .clear :: after') (hu : ¬ Undone after) (hu' : ¬ Undone after')
    (hl : ¬ Lasts after) (hl' : ¬ Lasts after') : after = after' := by
  rw [h] at h'
  rcases List.append_eq_append_iff.1 h' with ⟨c, _, hc⟩ | ⟨c, _, hc⟩
  · cases c with
    | nil => exact (List.cons.inj hc).2
    | cons d c => exact absurd ⟨c, after', (List.cons.inj hc).2, hu'⟩ hl
  · cases c with
    | nil => exact (List.cons.inj hc).2.symm
    | cons d c => exact absurd ⟨c, after, (List.cons.inj hc).2, hu⟩ hl'

theorem Remains.unique {ds after after' : List Directive} (h : Remains ds after) (h' : Remains ds after') :
    after = after' := by
  cases h with
  | all hl =>
    cases h' with
    | all _ => rfl
    | cut h' hu' _ => exact absurd ⟨_, _, h', hu'⟩ hl
  | cut h hu hl =>
    cases h' with
    | all hl' => exact absurd ⟨_, _, h, hu⟩ hl'
    | cut h' hu' hl' => exact eq_of_cut h h' hu hu' hl hl'

/-! ## Directives by kind -/

theorem Directive.eq_of_not_isAdd {d : Directive} (h : ¬ d.isAdd) : d = .clear ∨ d = .reEnable := by
  cases d with
  | addInline _ => exact absurd rfl h
  | addFile _ => exact absurd rfl h
  | clear => exact .inl rfl
  | reEnable => exact .inr rfl

theorem Directive.isAdd_of_isBlank {d : Directive} (h : d.isBlank) : d.isAdd := by
  cases d with
  | addInline _ => rfl
  | addFile _ => rfl
  | clear => cases h
  | reEnable => cases h

theorem Directive.entries_blank (fs : FileSystem) {d : Directive} (h : d.isBlank) : d.entries fs = .ok [] := by
  unfold entries
  rw [if_pos h]

/-! ## The replay of directives that can be read -/

/-- The entries of the adding directives, in their order. -/
def added (es : Directive → List Entry) (ds : List Directive) : List Entry :=
  (ds.filter Directive.isAdd).flatMap es

theorem added_cons_add (es : Directive → List Entry) {d : Directive} (hd : d.isAdd) (ds : List Directive) :
    added es (d :: ds) = es d ++ added es ds := by
  simp [added, hd]

theorem added_cons_not_add (es : Directive → List Entry) {d : Directive} (hd : d.isAdd = false)
    (ds : List Directive) : added es (d :: ds) = added es ds := by
  simp [added, hd]

namespace Replay

/-- One directive whose entries are known. -/
def next (es : Directive → List Entry) (r : Replay) : Directive → Replay
  | .clear => ⟨[], some r.active⟩
  | .reEnable => ⟨r.cleared.getD [] ++ r.active, none⟩
  | add => ⟨r.active ++ es add, r.cleared⟩

theorem next_add (es : Directive → List Entry) (r : Replay) {d : Directive} (hd : d.isAdd) :
    r.next es d = ⟨r.active ++ es d, r.cleared⟩ := by
  cases d with
  | addInline _ => rfl
  | addFile _ => rfl
  | clear => cases hd
  | reEnable => cases hd

theorem apply_add (fs : FileSystem) (r : Replay) {d : Directive} (hd : d.isAdd) :
    r.apply fs d = (d.entries fs).map fun es => ⟨r.active ++ es, r.cleared⟩ := by
  cases d with
  | addInline _ => rfl
  | addFile _ => rfl
  | clear => cases hd
  | reEnable => cases hd

theorem apply_eq_next {fs : FileSystem} {es : Directive → List Entry} {d : Directive}
    (h : d.isAdd → d.entries fs = .ok (es d)) (r : Replay) : r.apply fs d = .ok (r.next es d) := by
  by_cases hd : d.isAdd
  · rw [apply_add fs r hd, next_add es r hd, h hd]; rfl
  · rcases Directive.eq_of_not_isAdd hd with rfl | rfl
    · rfl
    · obtain ⟨active, cleared⟩ := r
      cases cleared with
      | none => rfl
      | some put => rfl

theorem foldlM_apply {fs : FileSystem} {es : Directive → List Entry} {ds : List Directive}
    (h : ∀ d ∈ ds, d.isAdd → d.entries fs = .ok (es d)) (r : Replay) :
    ds.foldlM (apply fs) r = .ok (ds.foldl (next es) r) := by
  induction ds generalizing r with
  | nil => rfl
  | cons d ds ih =>
    rw [List.foldlM_cons, apply_eq_next (h d (by simp)) r]
    exact ih (fun x hx => h x (by simp [hx])) _

theorem foldl_adds (es : Directive → List Entry) {adds : List Directive} (ha : ∀ d ∈ adds, d.isAdd)
    (r : Replay) : adds.foldl (next es) r = ⟨r.active ++ added es adds, r.cleared⟩ := by
  induction adds generalizing r with
  | nil => simp [added]
  | cons d adds ih =>
    have hd := ha d (by simp)
    rw [List.foldl_cons, next_add es r hd, ih (fun x hx => ha x (by simp [hx])), added_cons_add es hd]
    simp

theorem foldl_clear_reEnable (es : Directive → List Entry) {adds : List Directive} (ha : ∀ d ∈ adds, d.isAdd)
    (after : List Directive) (r : Replay) : (Directive.clear :: adds ++ .reEnable :: after).foldl (next es) r =
      after.foldl (next es) ⟨r.active ++ added es adds, none⟩ := by
  simp only [List.cons_append, List.foldl_cons, List.foldl_append, foldl_adds es ha]
  simp [next]

/-- Without a clear that lasts nothing is lost; a re-enable that comes first also brings back what
an earlier clear put aside. -/
theorem active_of_not_lasts (es : Directive → List Entry) {ds : List Directive} (hl : ¬ Lasts ds) (r : Replay) :
    (Undone ds → (ds.foldl (next es) r).active = r.cleared.getD [] ++ r.active ++ added es ds) ∧
      (¬ Undone ds → (ds.foldl (next es) r).active = r.active ++ added es ds) := by
  induction ds generalizing r with
  | nil => exact ⟨fun hu => absurd hu not_undone_nil, fun _ => by simp [added]⟩
  | cons d ds ih =>
    rw [List.foldl_cons]
    by_cases hd : d.isAdd
    · rw [lasts_add hd] at hl
      rw [undone_add hd, next_add es r hd, added_cons_add es hd]
      have := ih hl ⟨r.active ++ es d, r.cleared⟩
      simpa using this
    rw [lasts_cons, not_or] at hl
    rcases Directive.eq_of_not_isAdd hd with rfl | rfl
    · -- a clear that does not last is undone, and all that it puts aside comes back
      have hu : Undone ds := Classical.not_not.1 fun hu => hl.1 ⟨rfl, hu⟩
      have := (ih hl.2 (r.next es .clear)).1 hu
      rw [added_cons_not_add es rfl]
      exact ⟨fun h => absurd h (not_undone_clear ds), fun _ => by simpa [next] using this⟩
    · -- what follows starts with nothing put aside, so a further re-enable brings back nothing
      have := ih hl.2 (r.next es .reEnable)
      rw [added_cons_not_add es rfl]
      refine ⟨fun _ => ?_, fun hu => absurd (undone_reEnable ds) hu⟩
      by_cases hu : Undone ds
      · simpa [next] using this.1 hu
      · simpa [next] using this.2 hu

/-- Nothing from before a clear that lasts counts. -/
theorem active_of_cut (es : Directive → List Entry) (before : List Directive) {after : List Directive}
    (hu : ¬ Undone after) (hl : ¬ Lasts after) (r : Replay) :
    ((before ++ .clear :: after).foldl (next es) r).active = added es after := by
  rw [List.foldl_append, List.foldl_cons]
  have := (active_of_not_lasts es hl ((before.foldl (next es) r).next es .clear)).2 hu
  simpa [next] using this

theorem active_of_remains (es : Directive → List Entry) {ds after : List Directive} (h : Remains ds after) :
    (ds.foldl (next es) start).active = added es after := by
  cases h with
  | all hl =>
    have := active_of_not_lasts es hl start
    by_cases hu : Undone ds
    · simpa [start] using this.1 hu
    · simpa [start] using this.2 hu
  | cut h hu hl => rw [h]; exact active_of_cut es _ hu hl start

/-- What was put aside only matters if a re-enable comes next, and if no clear after it lasts. -/
theorem active_congr (es : Directive → List Entry) {ds : List Directive} (h : ¬ Undone ds ∨ Lasts ds)
    (active : List Entry) (cleared cleared' : Option (List Entry)) :
    (ds.foldl (next es) ⟨active, cleared⟩).active = (ds.foldl (next es) ⟨active, cleared'⟩).active := by
  obtain ⟨after, hr⟩ := exists_remains ds
  cases hr with
  | all hl =>
    have hu := h.resolve_right hl
    rw [(active_of_not_lasts es hl _).2 hu, (active_of_not_lasts es hl _).2 hu]
  | cut h hu hl => rw [h, active_of_cut es _ hu hl, active_of_cut es _ hu hl]

theorem active_none (es : Directive → List Entry) {ds : List Directive} (r : Replay)
    (h : r.cleared = none ∨ ¬ Undone ds ∨ Lasts ds) :
    (ds.foldl (next es) ⟨r.active, none⟩).active = (ds.foldl (next es) r).active := by
  obtain ⟨active, cleared⟩ := r
  rcases h with h | h
  · rw [show cleared = none from h]
  · exact active_congr es h active none cleared

/-- Nothing is put aside where no clear waits for its re-enable. -/
theorem cleared_of_not_pending (es : Directive → List Entry) {ds : List Directive} (hp : ¬ Pending ds) :
    (ds.foldl (next es) start).cleared = none := by
  induction ds using List.reverseRecOn with
  | nil => rfl
  | append_singleton ds d ih =>
    rw [List.foldl_append, List.foldl_cons, List.foldl_nil]
    by_cases hd : d.isAdd
    · rw [next_add es _ hd]
      refine ih ?_
      intro h
      obtain ⟨before, adds, rfl, ha⟩ := h
      refine hp ⟨before, adds ++ [d], by simp, ?_⟩
      intro x hx
      rcases List.mem_append.1 hx with hx | hx
      · exact ha x hx
      · rw [List.mem_singleton.1 hx]; exact hd
    rcases Directive.eq_of_not_isAdd hd with rfl | rfl
    · exact absurd ⟨ds, [], rfl, by simp⟩ hp
    · rfl

end Replay

/-! ## The surviving entries -/

theorem resolve_eq_map (fs : FileSystem) (ds : List Directive) :
    resolve fs ds = (ds.foldlM (Replay.apply fs) Replay.start).map Replay.active := by
  unfold resolve
  cases ds.foldlM (Replay.apply fs) Replay.start <;> rfl

theorem resolve_eq_active {fs : FileSystem} {es : Directive → List Entry} {ds : List Directive}
    (h : ∀ d ∈ ds, d.isAdd → d.entries fs = .ok (es d)) :
    resolve fs ds = .ok (ds.foldl (Replay.next es) Replay.start).active := by
  rw [resolve_eq_map, Replay.foldlM_apply h]; rfl

theorem Replay.apply_blank (fs : FileSystem) (r : Replay) {d : Directive} (hb : d.isBlank) :
    r.apply fs d = .ok r := by
  rw [apply_add fs r (Directive.isAdd_of_isBlank hb), Directive.entries_blank fs hb]
  simp [Except.map]

theorem resolve_blank (fs : FileSystem) (a b : List Directive) {d : Directive} (hb : d.isBlank) :
    resolve fs (a ++ d :: b) = resolve fs (a ++ b) := by
  rw [resolve_eq_map, resolve_eq_map, List.foldlM_append, List.foldlM_append]
  congr 2
  funext r
  rw [List.foldlM_cons, Replay.apply_blank fs r hb]; rfl

section
variable {fs : FileSystem} {es : Directive → List Entry} {a adds b : List Directive}

theorem resolve_reEnable (h : ∀ d ∈ a ++ .reEnable :: b, d.isAdd → d.entries fs = .ok (es d))
    (hp : ¬ Pending a) : resolve fs (a ++ .reEnable :: b) = resolve fs (a ++ b) := by
  have h' : ∀ d ∈ a ++ b, d.isAdd → d.entries fs = .ok (es d) := fun d hd =>
    h d (by rw [List.mem_append] at hd ⊢; simp; tauto)
  rw [resolve_eq_active h, resolve_eq_active h', List.foldl_append, List.foldl_append, List.foldl_cons]
  have hc := Replay.cleared_of_not_pending es hp
  generalize a.foldl (Replay.next es) Replay.start = r at hc
  obtain ⟨active, cleared⟩ := r
  cases hc
  rfl

/-- A clear that is undone does nothing, unless it stands between an earlier clear and a re-enable
that would undo that one. -/
theorem resolve_undone (h : ∀ d ∈ a ++ .clear :: adds ++ .reEnable :: b, d.isAdd → d.entries fs = .ok (es d))
    (ha : ∀ d ∈ adds, d.isAdd) (hp : ¬ Pending a ∨ ¬ Undone b) :
    resolve fs (a ++ .clear :: adds ++ .reEnable :: b) = resolve fs (a ++ adds ++ b) := by
  have h' : ∀ d ∈ a ++ adds ++ b, d.isAdd → d.entries fs = .ok (es d) := fun d hd =>
    h d (by simp only [List.mem_append, List.mem_cons] at hd ⊢; tauto)
  have hc : (a.foldl (Replay.next es) Replay.start).cleared = none ∨ ¬ Undone b ∨ Lasts b :=
    hp.imp (Replay.cleared_of_not_pending es) .inl
  rw [resolve_eq_active h, resolve_eq_active h', List.append_assoc, List.foldl_append,
    Replay.foldl_clear_reEnable es ha, List.foldl_append, List.foldl_append, Replay.foldl_adds es ha]
  exact congrArg Except.ok (Replay.active_none es ⟨_, _⟩ hc)

end

/-- The surviving entries are those of the adding directives after the last clear that is not undone,
in their order. Blank values and re-enables with nothing to undo change nothing, and neither does a
clear that is undone, unless an earlier clear waits for a later re-enable. -/
theorem resolve_eq_added (fs : FileSystem) (es : Directive → List Entry) (ds : List Directive)
    (h : ∀ d ∈ ds, d.isAdd → d.entries fs = .ok (es d)) :
    (∃! after, Remains ds after) ∧
      (∀ after, Remains ds after → resolve fs ds = .ok ((after.filter Directive.isAdd).flatMap es)) ∧
      (∀ a d b, ds = a ++ d :: b → d.isBlank → resolve fs ds = resolve fs (a ++ b)) ∧
      (∀ a b, ds = a ++ .reEnable :: b → ¬ Pending a → resolve fs ds = resolve fs (a ++ b)) ∧
      (∀ a adds b, ds = a ++ .clear :: adds ++ .reEnable :: b → (∀ d ∈ adds, d.isAdd) →
        ¬ Pending a ∨ ¬ Undone b → resolve fs ds = resolve fs (a ++ adds ++ b)) := by
  obtain ⟨after, hr⟩ := exists_remains ds
  refine ⟨⟨after, hr, fun _ h' => h'.unique hr⟩, ?_, ?_, ?_, ?_⟩
  · intro after hr
    rw [resolve_eq_active h, Replay.active_of_remains es hr]
    rfl
  · intro a d b hs hb
    rw [hs]
    exact resolve_blank fs a b hb
  · intro a b hs hp
    rw [hs] at h ⊢
    exact resolve_reEnable h hp
  · intro a adds b hs ha hp
    rw [hs] at h ⊢
    exact resolve_undone h ha hp

/-- An entry to show statements on: salt `s`, and a hash of zeros. -/
def Entry.sample (user : Char) : Entry := ⟨[user], ['s'], Vector.replicate 32 0⟩

theorem resolve_nested_clears :
    let add (user : Char) := Directive.addInline (Entry.sample user).encode
    let ds := [add 'a', .clear, add 'b', .clear, .addInline [], add 'c', .reEnable, .reEnable, add 'a']
    (∀ d ∈ ds, d.isAdd → d.entries (FileSystem.empty 0) = .ok ((d.entries (FileSystem.empty 0)).toOption.getD [])) ∧
      resolve (FileSystem.empty 0) ds = .ok [Entry.sample 'b', Entry.sample 'c', Entry.sample 'a'] := by
  intro add ds
  have h : ∀ d ∈ ds, d.isAdd →
      d.entries (FileSystem.empty 0) = .ok ((d.entries (FileSystem.empty 0)).toOption.getD []) := by
    decide +kernel
  have hu : ¬ Undone (ds.drop 2) := by
    simp only [ds, List.drop]
    rw [undone_add (by rfl)]
    exact not_undone_clear _
  have hl : ¬ Lasts (ds.drop 2) := by
    have : Undone (ds.drop 4) := ⟨[.addInline [], add 'c'], [.reEnable, add 'a'], rfl, by decide⟩
    simp only [ds, List.drop] at this ⊢
    simp [lasts_cons, this, add, not_lasts_nil]
  exact ⟨h, (resolve_eq_added _ _ ds h).2.1 _ (@Remains.cut _ [add 'a'] _ rfl hu hl)⟩

end RpcGate
