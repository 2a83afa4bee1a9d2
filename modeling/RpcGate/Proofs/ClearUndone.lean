import RpcGate.Proofs.Presentable

/-!
# Taking a clear back

A re-enable takes the latest clear back, and keeps what was added since. There
is room for the entries of one clear only: one that is taken back has driven
out an earlier one. So it goes without a trace unless that earlier clear was to
be taken back as well, and then the survivors lack what it had put aside
(`resolve_clear_reEnable`).
-/

namespace RpcGate

/-! ## The two lists -/

namespace Replay

section
variable (es : Directive → List Entry) {adds since after : List Directive}

theorem foldl_pending (first : List Directive) (hs : ∀ d ∈ since, d.isAdd) (r : Replay) :
    (first ++ .clear :: since).foldl (next es) r = ⟨added es since, some (first.foldl (next es) r).active⟩ := by
  rw [List.foldl_append, List.foldl_cons, foldl_adds es hs]
  simp [next]

theorem active_some (hu : Undone after) (hl : ¬ Lasts after) (active put : List Entry) :
    (after.foldl (next es) ⟨active, some put⟩).active =
      put ++ (after.foldl (next es) ⟨active, none⟩).active := by
  rw [(active_of_not_lasts es hl _).1 hu, (active_of_not_lasts es hl _).1 hu]
  simp

end

end Replay

/-! ## The survivors -/

section
variable {fs : FileSystem} {ds before adds after : List Directive} {all : List Entry}

/-- Clears and re-enables have no say in whether directives can be read. -/
theorem resolve_eq_error_iff_adds (e : AuthError) :
    resolve fs ds = .error e ↔ FailsFirst (Directive.entries fs) (ds.filter Directive.isAdd) e := by
  rw [resolve_eq_error_iff, failsFirst_filter]
  intro d hd
  rcases Directive.eq_of_not_isAdd (by simp [hd] : ¬ d.isAdd) with rfl | rfl
  · exact ⟨[], rfl⟩
  · exact ⟨[], rfl⟩

/-- With and without the clear and its re-enable, a run comes to what follows with the same list. -/
theorem exists_runs (ha : ∀ d ∈ adds, d.isAdd) (h : resolve fs (before ++ (adds ++ after)) = .ok all) :
    ∃ es : Directive → List Entry, (∀ d ∈ before, d.entries fs = .ok (es d)) ∧
      resolve fs (before ++ (.clear :: adds ++ .reEnable :: after)) = .ok (after.foldl (Replay.next es)
        ⟨(before.foldl (Replay.next es) Replay.start).active ++ added es adds, none⟩).active ∧
      resolve fs (before ++ (adds ++ after)) = .ok (after.foldl (Replay.next es)
        ⟨(before.foldl (Replay.next es) Replay.start).active ++ added es adds,
          (before.foldl (Replay.next es) Replay.start).cleared⟩).active := by
  obtain ⟨es, hes⟩ := exists_entries_of_resolve h
  have hread : ∀ d ∈ before ++ (.clear :: adds ++ .reEnable :: after), d.isAdd → d.entries fs = .ok (es d) := by
    intro d hd hadd
    refine hes d ?_
    simp only [List.mem_append, List.mem_cons] at hd ⊢
    rcases hd with hd | (rfl | hd) | rfl | hd
    · exact .inl hd
    · cases hadd
    · exact .inr (.inl hd)
    · cases hadd
    · exact .inr (.inr hd)
  refine ⟨es, fun d hd => hes d (by simp [hd]), ?_, ?_⟩
  · rw [resolve_eq_active hread, List.foldl_append, Replay.foldl_clear_reEnable es ha]
  · rw [resolve_eq_active fun d hd _ => hes d hd, List.foldl_append, List.foldl_append, Replay.foldl_adds es ha]

end

/-- A clear that a re-enable takes back, with additions alone between them, does not change what can
be read. It changes the survivors only between an earlier clear and the re-enable that would take
that one back, and if none of it is dropped again: then they lack what the earlier clear put aside. -/
theorem resolve_clear_reEnable (fs : FileSystem) (before adds after : List Directive) (ha : ∀ d ∈ adds, d.isAdd) :
    let undone := before ++ .clear :: adds ++ .reEnable :: after
    let plain := before ++ adds ++ after
    (∀ e, resolve fs undone = .error e ↔ resolve fs plain = .error e) ∧
      (¬ Pending before ∨ ¬ Undone after ∨ Lasts after → resolve fs undone = resolve fs plain) ∧
      (∀ first since all, before = first ++ .clear :: since → (∀ d ∈ since, d.isAdd) → Undone after →
        ¬ Lasts after → resolve fs plain = .ok all →
          ∃ put rest, resolve fs first = .ok put ∧ all = put ++ rest ∧ resolve fs undone = .ok rest) := by
  intro undone plain
  have hundone : undone = before ++ (.clear :: adds ++ .reEnable :: after) := List.append_assoc _ _ _
  have hplain : plain = before ++ (adds ++ after) := List.append_assoc _ _ _
  rw [hundone, hplain]
  have herror : ∀ e, resolve fs (before ++ (.clear :: adds ++ .reEnable :: after)) = .error e ↔
      resolve fs (before ++ (adds ++ after)) = .error e := by
    intro e
    rw [resolve_eq_error_iff_adds, resolve_eq_error_iff_adds]
    simp [Directive.isAdd]
  refine ⟨herror, fun hcase => ?_, fun first since all hbefore hs hu hl hall => ?_⟩
  · cases hall : resolve fs (before ++ (adds ++ after)) with
    | error e => exact (herror e).2 hall
    | ok all =>
      obtain ⟨es, -, hundone, hplain⟩ := exists_runs ha hall
      have hcleared : (before.foldl (Replay.next es) Replay.start).cleared = none ∨ ¬ Undone after ∨ Lasts after :=
        hcase.imp_left (Replay.cleared_of_not_pending es)
      rw [hundone, ← hall, hplain]
      exact congrArg Except.ok (Replay.active_none es ⟨_, _⟩ hcleared)
  · obtain ⟨es, hes, hundone, hplain⟩ := exists_runs ha hall
    have hfirst : resolve fs first = .ok (first.foldl (Replay.next es) Replay.start).active :=
      resolve_eq_active fun d hd _ => hes d (by simp [hbefore, hd])
    rw [hplain, hbefore, Replay.foldl_pending es first hs, Replay.active_some es hu hl] at hall
    rw [hbefore, Replay.foldl_pending es first hs] at hundone
    refine ⟨_, _, hfirst, (Except.ok.inj hall).symm, ?_⟩
    rw [hbefore, hundone]

theorem resolve_clear_reEnable_nested :
    let add (user : Char) := Directive.addInline (Entry.sample user).encode
    let before := [add 'a', .clear, add 'b']
    let adds := [add 'c']
    let after := [.clear, .reEnable]
    (∀ d ∈ adds, d.isAdd) ∧ ¬ Undone after ∧
      resolve (FileSystem.empty 0) (before ++ .clear :: adds ++ .reEnable :: after) =
        .ok [Entry.sample 'b', Entry.sample 'c'] := by
  intro add before adds after
  have ha : ∀ d ∈ adds, d.isAdd := by simp [adds, add, Directive.isAdd]
  have hu : ¬ Undone after := not_undone_clear _
  have hplain : resolve (FileSystem.empty 0) (before ++ adds ++ after) = .ok [Entry.sample 'b', Entry.sample 'c'] := by
    decide +kernel
  exact ⟨ha, hu, ((resolve_clear_reEnable _ before adds after ha).2.1 (.inr (.inl hu))).trans hplain⟩

/-- What the outer clear put aside cannot come back once the inner one was taken back. -/
theorem resolve_forgets_outer_clear :
    let add (user : Char) := Directive.addInline (Entry.sample user).encode
    let before := [add 'a', .clear]
    let adds := [add 'b']
    let after := [.reEnable]
    (∀ d ∈ adds, d.isAdd) ∧
      resolve (FileSystem.empty 0) (before ++ .clear :: adds ++ .reEnable :: after) = .ok [Entry.sample 'b'] ∧
      resolve (FileSystem.empty 0) (before ++ adds ++ after) = .ok [Entry.sample 'a', Entry.sample 'b'] := by
  intro add before adds after
  refine ⟨by simp [adds, add, Directive.isAdd], ?_, ?_⟩
  · decide +kernel
  · decide +kernel

end RpcGate
