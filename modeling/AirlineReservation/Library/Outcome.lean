import Mathlib.Init

/-!
What a computation that may fail ends with. `Post E Q` says that an exception
satisfies E and a value Q, so that one statement carries both which exceptions
can leave and what is returned. The rules follow the ways computations are put
together.
-/

namespace Outcome

universe u v

variable {ε : Type u} {α β σ : Type v}

/-- An exception satisfies E, a value Q. -/
def Post (E : ε → Prop) (Q : α → Prop) : Except ε α → Prop
  | .error e => E e
  | .ok a => Q a

variable {E : ε → Prop} {P Q : α → Prop} {R : β → Prop}

theorem Post.mono {x : Except ε α} (h : Post E P x) (himp : ∀ a, P a → Q a) : Post E Q x := by
  cases x with
  | error e => exact h
  | ok a => exact himp a h

theorem Post.of_ok {x : Except ε α} (h : Post E Q x) {a : α} (heq : x = .ok a) : Q a := by
  subst heq
  exact h

theorem Post.of_error {x : Except ε α} (h : Post E Q x) {e : ε} (heq : x = .error e) : E e := by
  subst heq
  exact h

/-- The first part gives what the second needs. -/
theorem Post.bind {x : Except ε α} {f : α → Except ε β} (h : Post E P x)
    (hf : ∀ a, P a → Post E R (f a)) : Post E R (x >>= f) := by
  cases x with
  | error e => exact h
  | ok a => exact hf a h

theorem Post.map {x : Except ε α} {f : α → β} (h : Post E (fun a => R (f a)) x) :
    Post E R (x.map f) := by
  cases x with
  | error e => exact h
  | ok a => exact h

/-- What every round keeps, the whole loop keeps. -/
theorem Post.foldlM {f : σ → α → Except ε σ} {I : σ → Prop} {l : List α}
    (hstep : ∀ a ∈ l, ∀ s, I s → Post E I (f s a)) {s : σ} (hs : I s) :
    Post E I (l.foldlM f s) := by
  induction l generalizing s with
  | nil => exact hs
  | cons a rest ih =>
    rw [List.foldlM_cons]
    refine (hstep a List.mem_cons_self s hs).bind ?_
    intro s' hs'
    exact ih (fun b hb => hstep b (List.mem_cons_of_mem a hb)) hs'

end Outcome
