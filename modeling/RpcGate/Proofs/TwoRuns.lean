import Mathlib.Data.List.Forall2

/-!
# Two runs that end alike

Two computations that may fail are compared step by step. Where the steps of
the two agree so does the whole (`EndAlike.bind`, `EndAlike.mapM`), up to the
errors that one of them may end with alone. Errors of that kind are named by a
predicate, and nothing is said of what the other run does then.
-/

namespace RpcGate

/-- Both runs give related values, or both fail with one error, or one of them fails with an error
of the kind `Alone`. -/
inductive EndAlike {ε α β : Type} (Alone : ε → Prop) (R : α → β → Prop) : Except ε α → Except ε β → Prop
  | ok {a : α} {b : β} (h : R a b) : EndAlike Alone R (.ok a) (.ok b)
  | error (e : ε) : EndAlike Alone R (.error e) (.error e)
  | left {e : ε} (h : Alone e) (y : Except ε β) : EndAlike Alone R (.error e) y
  | right {e : ε} (h : Alone e) (x : Except ε α) : EndAlike Alone R x (.error e)

namespace EndAlike

section
variable {ε ε' α α' β β' : Type} {Alone Alone' : ε → Prop} {R : α → β → Prop} {R' : α' → β' → Prop}
  {x : Except ε α} {y : Except ε β}

theorem mono (h : EndAlike Alone R x y) {Also : α → β → Prop} (ha : ∀ e, Alone e → Alone' e) (hr : ∀ a b, R a b → Also a b) :
    EndAlike Alone' Also x y := by
  cases h with
  | ok h => exact .ok (hr _ _ h)
  | error e => exact .error e
  | left h y => exact .left (ha _ h) y
  | right h x => exact .right (ha _ h) x

theorem refl {R : α → α → Prop} (hr : ∀ a, R a a) (x : Except ε α) : EndAlike Alone R x x := by
  cases x with
  | ok a => exact .ok (hr a)
  | error e => exact .error e

theorem of_alone (hx : ∀ e, x = .error e → Alone e) (hy : ∀ e, y = .error e → Alone e) (hr : ∀ a b, R a b) :
    EndAlike Alone R x y := by
  cases x with
  | error e => exact .left (hx e rfl) y
  | ok a => cases y with
    | error e => exact .right (hy e rfl) _
    | ok b => exact .ok (hr a b)

theorem map (h : EndAlike Alone R x y) {f : α → α'} {g : β → β'} (hf : ∀ a b, R a b → R' (f a) (g b)) :
    EndAlike Alone R' (x.map f) (y.map g) := by
  cases h with
  | ok h => exact .ok (hf _ _ h)
  | error e => exact .error e
  | left h y => exact .left h _
  | right h x => exact .right h _

theorem bind (h : EndAlike Alone R x y) {f : α → Except ε α'} {g : β → Except ε β'}
    (hf : ∀ a b, R a b → EndAlike Alone R' (f a) (g b)) : EndAlike Alone R' (x >>= f) (y >>= g) := by
  cases h with
  | ok h => exact hf _ _ h
  | error e => exact .error e
  | left h y => exact .left h _
  | right h x => exact .right h _

theorem mapError (h : EndAlike Alone R x y) (f : ε → ε') {Alone' : ε' → Prop} (ha : ∀ e, Alone e → Alone' (f e)) :
    EndAlike Alone' R (x.mapError f) (y.mapError f) := by
  cases h with
  | ok h => exact .ok h
  | error e => exact .error (f e)
  | left h y => exact .left (ha _ h) _
  | right h x => exact .right (ha _ h) _

theorem mapM {xs : List α} {ys : List β} {f : α → Except ε α'} {g : β → Except ε β'} (h : List.Forall₂ R xs ys)
    (hf : ∀ a b, R a b → EndAlike Alone R' (f a) (g b)) :
    EndAlike Alone (List.Forall₂ R') (xs.mapM f) (ys.mapM g) := by
  induction h with
  | nil => exact .ok .nil
  | cons hab _ ih =>
    rw [List.mapM_cons, List.mapM_cons]
    refine (hf _ _ hab).bind fun a b hr => ih.bind fun as bs hrs => ?_
    exact .ok (.cons hr hrs)

/-- Only the errors of the runs count when nothing is asked of the values. -/
theorem congr_errors {x' : Except ε α'} {y' : Except ε β'} (h : EndAlike Alone R x y)
    (hx : ∀ e, x' = .error e ↔ x = .error e) (hy : ∀ e, y' = .error e ↔ y = .error e) :
    EndAlike Alone (fun _ _ => True) x' y' := by
  cases h with
  | error e => rw [(hx e).2 rfl, (hy e).2 rfl]; exact .error e
  | left h y => rw [(hx _).2 rfl]; exact .left h _
  | right h x => rw [(hy _).2 rfl]; exact .right h _
  | ok h =>
    cases x' with
    | error e => cases (hx e).1 rfl
    | ok a => cases y' with
      | error e => cases (hy e).1 rfl
      | ok b => exact .ok trivial

theorem error_cases {e e' : ε} (h : EndAlike Alone R x y) (hx : x = .error e) (hy : y = .error e') :
    e = e' ∨ Alone e ∨ Alone e' := by
  cases h with
  | ok h => cases hx
  | error e => cases hx; cases hy; exact .inl rfl
  | left h y => cases hx; exact .inr (.inl h)
  | right h x => cases hy; exact .inr (.inr h)

end

end EndAlike

end RpcGate
