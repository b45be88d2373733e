import Mathlib.Init

/-!
Programs with a state that an exception does not undo. `Ends` says where a run
ends: a returned value satisfies Q, an exception E, each together with the state
it leaves. The rules follow the ways programs are put together; no rule looks
inside a part.
-/

namespace Program

universe u

variable {ε σ α β : Type u}

/-- A run from s returns with Q, or stops with E. -/
def Ends (prog : EStateM ε σ α) (s : σ) (Q : α → σ → Prop) (E : ε → σ → Prop) : Prop :=
  match prog s with
  | .ok a s' => Q a s'
  | .error e s' => E e s'

/-- Run a program that cannot stop half way: its parts are looked up one by one. -/
theorem bind_apply (prog : EStateM ε σ α) (f : α → EStateM ε σ β) (s : σ) :
    (prog >>= f) s =
      match prog s with
      | .ok a s' => f a s'
      | .error e s' => .error e s' := by
  change EStateM.bind prog f s = _
  unfold EStateM.bind
  cases prog s <;> rfl

/-- The handler runs in the state in which the exception was raised. -/
def handle (prog : EStateM ε σ α) (handler : ε → EStateM ε σ α) : EStateM ε σ α := fun s =>
  match prog s with
  | .ok a s' => .ok a s'
  | .error e s' => handler e s'

variable {s : σ} {P Q : α → σ → Prop} {R : β → σ → Prop} {E F : ε → σ → Prop}
  {prog : EStateM ε σ α}

theorem Ends.pure {a : α} (h : Q a s) : Ends (Pure.pure a : EStateM ε σ α) s Q E := h

theorem Ends.throw {e : ε} (h : E e s) : Ends (throw e : EStateM ε σ α) s Q E := h

theorem Ends.bind {f : α → EStateM ε σ β} (h : Ends prog s P E)
    (hf : ∀ a s', P a s' → Ends (f a) s' R E) : Ends (prog >>= f) s R E := by
  unfold Ends at h ⊢
  rw [bind_apply]
  cases hrun : prog s with
  | ok a s' =>
    rw [hrun] at h
    exact hf a s' h
  | error e s' =>
    rw [hrun] at h
    exact h

theorem Ends.mono (h : Ends prog s P F) (hP : ∀ a s', P a s' → Q a s')
    (hF : ∀ e s', F e s' → E e s') : Ends prog s Q E := by
  unfold Ends at h ⊢
  cases hrun : prog s with
  | ok a s' =>
    rw [hrun] at h
    exact hP a s' h
  | error e s' =>
    rw [hrun] at h
    exact hF e s' h

/-- What a handler makes of an exception is what the whole ends with. -/
theorem Ends.handle {handler : ε → EStateM ε σ α} (h : Ends prog s Q F)
    (hhandler : ∀ e s', F e s' → Ends (handler e) s' Q E) :
    Ends (handle prog handler) s Q E := by
  unfold Ends at h ⊢
  unfold Program.handle
  cases hrun : prog s with
  | ok a s' =>
    rw [hrun] at h
    exact h
  | error e s' =>
    rw [hrun] at h
    exact hhandler e s' h

theorem Ends.of_ok (h : Ends prog s Q E) {a : α} {s' : σ} (hrun : prog s = .ok a s') :
    Q a s' := by
  unfold Ends at h
  rw [hrun] at h
  exact h

end Program
