import Mathlib.Data.List.Basic
import Mathlib.Data.List.Forall2

/-!
# Loops that stop at the first failure

A list is read item by item, and the first item that cannot be read decides
over the error (`mapM_eq_error_iff`). Without one, what is read are the items
in their order (`mapM_eq_ok_iff`).
-/

namespace RpcGate

section
variable {α β ε : Type} {f : α → Except ε β}

/-- Reading `xs` by `f` first fails with `e`. -/
def FailsFirst (f : α → Except ε β) (xs : List α) (e : ε) : Prop :=
  ∃ before x after, xs = before ++ x :: after ∧ (∀ y ∈ before, ∃ b, f y = .ok b) ∧ f x = .error e

theorem not_failsFirst_nil (e : ε) : ¬ FailsFirst f [] e := by
  intro h
  obtain ⟨before, x, after, h, -⟩ := h
  simp at h

theorem failsFirst_cons_error {x : α} {e : ε} (hx : f x = .error e) (xs : List α) (e' : ε) :
    FailsFirst f (x :: xs) e' ↔ e = e' := by
  constructor
  · intro h
    obtain ⟨before, y, after, h, hb, hy⟩ := h
    cases before with
    | nil =>
      rw [← (List.cons.inj h).1, hx] at hy
      exact Except.error.inj hy
    | cons z before =>
      obtain ⟨b, hz⟩ := hb z (by simp)
      rw [← (List.cons.inj h).1, hx] at hz
      cases hz
  · intro h
    exact ⟨[], x, xs, rfl, by simp, h ▸ hx⟩

theorem failsFirst_cons_ok {x : α} {b : β} (hx : f x = .ok b) (xs : List α) (e : ε) :
    FailsFirst f (x :: xs) e ↔ FailsFirst f xs e := by
  constructor
  · intro h
    obtain ⟨before, y, after, h, hb, hy⟩ := h
    cases before with
    | nil =>
      rw [← (List.cons.inj h).1, hx] at hy
      cases hy
    | cons z before => exact ⟨before, y, after, (List.cons.inj h).2, fun w hw => hb w (by simp [hw]), hy⟩
  · intro h
    obtain ⟨before, y, after, rfl, hb, hy⟩ := h
    refine ⟨x :: before, y, after, rfl, ?_, hy⟩
    intro w hw
    rcases List.mem_cons.1 hw with rfl | hw
    · exact ⟨b, hx⟩
    · exact hb w hw

theorem exists_failsFirst_iff (xs : List α) :
    (∃ e, FailsFirst f xs e) ↔ ∃ x ∈ xs, ∃ e, f x = .error e := by
  induction xs with
  | nil => simp [not_failsFirst_nil]
  | cons x xs ih =>
    cases hx : f x with
    | error e => simp [failsFirst_cons_error hx, hx]
    | ok b => simp [failsFirst_cons_ok hx, hx, ih]

/-- Items that can be read for certain have no say in it. -/
theorem failsFirst_filter {p : α → Bool} (hp : ∀ x, p x = false → ∃ b, f x = .ok b) (xs : List α) (e : ε) :
    FailsFirst f (xs.filter p) e ↔ FailsFirst f xs e := by
  induction xs with
  | nil => rfl
  | cons x xs ih =>
    by_cases hx : p x = true
    · rw [List.filter_cons_of_pos hx]
      cases hf : f x with
      | error e' => rw [failsFirst_cons_error hf, failsFirst_cons_error hf]
      | ok b => rw [failsFirst_cons_ok hf, failsFirst_cons_ok hf, ih]
    · obtain ⟨b, hf⟩ := hp x (by simpa using hx)
      rw [List.filter_cons_of_neg hx, failsFirst_cons_ok hf, ih]

theorem mapM_eq_error_iff (xs : List α) (e : ε) : xs.mapM f = .error e ↔ FailsFirst f xs e := by
  induction xs with
  | nil => simp [not_failsFirst_nil, pure, Except.pure]
  | cons x xs ih =>
    rw [List.mapM_cons]
    cases hx : f x with
    | error e' => simp [failsFirst_cons_error hx, bind, Except.bind]
    | ok b =>
      rw [failsFirst_cons_ok hx, ← ih]
      cases xs.mapM f with
      | error e' => simp [bind, Except.bind]
      | ok bs => simp [bind, Except.bind, pure, Except.pure]

theorem mapM_eq_ok_iff (xs : List α) (ys : List β) :
    xs.mapM f = .ok ys ↔ List.Forall₂ (fun x y => f x = .ok y) xs ys := by
  induction xs generalizing ys with
  | nil => cases ys <;> simp [pure, Except.pure]
  | cons x xs ih =>
    rw [List.mapM_cons]
    cases hx : f x with
    | error e => cases ys <;> simp [bind, Except.bind, hx]
    | ok b =>
      cases hrest : xs.mapM f with
      | error e => cases ys <;> simp [bind, Except.bind, ← ih, hx, hrest]
      | ok bs => cases ys <;> simp [bind, Except.bind, pure, Except.pure, ← ih, hx, hrest]

theorem exists_of_mem_mapM {xs : List α} {ys : List β} {y : β} (h : xs.mapM f = .ok ys) (hy : y ∈ ys) :
    ∃ x ∈ xs, f x = .ok y := by
  have hread := (mapM_eq_ok_iff xs ys).1 h
  clear h
  induction hread with
  | nil => cases hy
  | cons hx _ ih =>
    rcases List.mem_cons.1 hy with rfl | hy
    · exact ⟨_, List.mem_cons_self, hx⟩
    · obtain ⟨x', hx', hfx⟩ := ih hy
      exact ⟨x', List.mem_cons_of_mem _ hx', hfx⟩

end

end RpcGate
