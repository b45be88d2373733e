import AirlineReservation.Library.Run
import Mathlib.Data.List.Forall2
import Mathlib.Logic.Function.Basic

/-!
Simulation of a total specification by a system whose steps can fail. Each step
gives an answer; the specification always has one, the concrete system only
when it returns. A second rule is for a specification that is free in its events:
each is chosen when the concrete one is known. A third compares a run of several
parties with that of one. The end of the file is the specification of a reservation
book: a partial map from places to holders.
-/

namespace Simulation

variable {σ τ α β ε : Type*}

/-- The answers of the concrete steps in order, and the state they end in. -/
def answers (step : σ → α → Except ε (β × σ)) : σ → List α → Except ε (List β × σ)
  | s, [] => .ok ([], s)
  | s, a :: calls =>
    match step s a with
    | .error e => .error e
    | .ok (answer, s') =>
      match answers step s' calls with
      | .error e => .error e
      | .ok (rest, s'') => .ok (answer :: rest, s'')

/-- The same for the specification. -/
def specAnswers (spec : τ → α → β × τ) : τ → List α → List β × τ
  | m, [] => ([], m)
  | m, a :: calls =>
    let (answer, m') := spec m a
    let (rest, m'') := specAnswers spec m' calls
    (answer :: rest, m'')

/-- A concrete step from a related state returns the answer of the
specification and a related state. -/
def Simulates (step : σ → α → Except ε (β × σ)) (spec : τ → α → β × τ)
    (R : σ → τ → Prop) : Prop :=
  ∀ s m a, R s m → ∃ s', step s a = .ok ((spec m a).1, s') ∧ R s' (spec m a).2

theorem Simulates.run {step : σ → α → Except ε (β × σ)} {spec : τ → α → β × τ}
    {R : σ → τ → Prop} (h : Simulates step spec R) (s : σ) (m : τ) (calls : List α)
    (hR : R s m) :
    ∃ s', answers step s calls = .ok ((specAnswers spec m calls).1, s') ∧
      R s' (specAnswers spec m calls).2 := by
  induction calls generalizing s m with
  | nil => exact ⟨s, rfl, hR⟩
  | cons a calls ih =>
    obtain ⟨s', hstep, hR'⟩ := h s m a hR
    obtain ⟨s'', hrest, hR''⟩ := ih s' (spec m a).2 hR'
    refine ⟨s'', ?_, hR''⟩
    simp only [answers, hstep, hrest, specAnswers]

variable (step : σ → α → σ) (spec : τ → β → τ)

/-- From related states each event has an allowed one of the specification that leads to
related states again. -/
def Follows (allowed : α → β → Prop) (R : σ → τ → Prop) : Prop :=
  ∀ s t a, R s t → ∃ b, allowed a b ∧ R (step s a) (spec t b)

/-- Every run has one of the specification beside it that is related to it all along. -/
theorem Follows.run {allowed : α → β → Prop} {R : σ → τ → Prop}
    (h : Follows step spec allowed R) {s : σ} {t : τ} (hR : R s t) (acts : List α) :
    ∃ events, List.Forall₂ allowed acts events ∧
      ∀ n, R (Run.run step s (acts.take n)) (Run.run spec t (events.take n)) := by
  induction acts generalizing s t with
  | nil => exact ⟨[], .nil, fun n => by simpa [Run.run_nil] using hR⟩
  | cons a acts ih =>
    obtain ⟨b, hallowed, hnext⟩ := h s t a hR
    obtain ⟨events, hevents, hrun⟩ := ih hnext
    refine ⟨b :: events, .cons hallowed hevents, ?_⟩
    intro n
    cases n with
    | zero => exact hR
    | succ n => exact hrun n

section Parties

variable {ι : Type*} [DecidableEq ι] (step : σ → α → σ) (who : α → ι)

/-- What a state looks like to each party, on the states of an invariant and for allowed
events: an event of another party changes nothing for it, and its own event does the same in
states that look the same. -/
structure Unwinding (inv : σ → Prop) (allowed : α → Prop) (same : ι → σ → σ → Prop) : Prop where
  equivalence : ∀ i, Equivalence (same i)
  inv_step : ∀ s a, inv s → allowed a → inv (step s a)
  other : ∀ i s a, inv s → allowed a → who a ≠ i → same i s (step s a)
  own : ∀ i s s' a, inv s → inv s' → allowed a → who a = i → same i s s' →
    same i (step s a) (step s' a)

/-- A run looks to a party like the run of its own events. -/
theorem Unwinding.run {inv : σ → Prop} {allowed : α → Prop} {same : ι → σ → σ → Prop}
    (h : Unwinding step who inv allowed same) (i : ι) {s : σ} (hs : inv s) (acts : List α)
    (hallowed : ∀ a ∈ acts, allowed a) :
    same i (Run.run step s acts) (Run.run step s (acts.filter fun a => who a = i)) := by
  suffices hboth : ∀ s s', inv s → inv s' → same i s s' →
      same i (Run.run step s acts) (Run.run step s' (acts.filter fun a => who a = i)) from
    hboth s s hs hs ((h.equivalence i).refl s)
  clear hs s
  induction acts with
  | nil => exact fun s s' _ _ hsame => hsame
  | cons a acts ih =>
    intro s s' hs hs' hsame
    have ha : allowed a := hallowed a List.mem_cons_self
    have hrest := ih fun b hb => hallowed b (List.mem_cons_of_mem a hb)
    rw [Run.run_cons, List.filter_cons]
    by_cases hwho : who a = i
    · rw [if_pos (by simpa using hwho), Run.run_cons]
      exact hrest _ _ (h.inv_step s a hs ha) (h.inv_step s' a hs' ha)
        (h.own i s s' a hs hs' ha hwho hsame)
    · rw [if_neg (by simpa using hwho)]
      exact hrest _ _ (h.inv_step s a hs ha) hs'
        ((h.equivalence i).trans ((h.equivalence i).symm (h.other i s a hs ha hwho)) hsame)

end Parties

end Simulation

/-- Who holds which place. Nobody holds a thing that is not a place. -/
structure Reservations (κ ν : Type*) (places : κ → Prop) where
  holder : κ → Option ν
  holder_eq_none : ∀ k, ¬ places k → holder k = none

namespace Reservations

variable {κ ν : Type*} {places : κ → Prop}

def empty : Reservations κ ν places := ⟨fun _ => none, fun _ _ => rfl⟩

variable [DecidableEq κ] [DecidablePred places]

/-- Only a place that nobody holds can be reserved. -/
def reserve (m : Reservations κ ν places) (k : κ) (v : ν) : Bool × Reservations κ ν places :=
  if h : places k ∧ m.holder k = none then
    (true, ⟨Function.update m.holder k (some v), fun k' hk' => by
      have hne : k' ≠ k := fun heq => hk' (heq ▸ h.1)
      rw [Function.update_of_ne hne]
      exact m.holder_eq_none k' hk'⟩)
  else (false, m)

/-- A place is given back; nothing happens at what is not a place. -/
def release (m : Reservations κ ν places) (k : κ) : Reservations κ ν places :=
  if places k then
    ⟨Function.update m.holder k none, fun k' hk' => by
      by_cases heq : k' = k
      · rw [heq, Function.update_self]
      · rw [Function.update_of_ne heq]
        exact m.holder_eq_none k' hk'⟩
  else m

variable (m : Reservations κ ν places) (k : κ)

theorem reserve_free (v : ν) (hk : places k) (hfree : m.holder k = none) :
    (m.reserve k v).1 = true ∧ (m.reserve k v).2.holder = Function.update m.holder k (some v) := by
  simp [reserve, hk, hfree]

theorem reserve_refused (v : ν) (h : ¬ (places k ∧ m.holder k = none)) :
    m.reserve k v = (false, m) := by
  rw [reserve, dif_neg h]

theorem release_place (hk : places k) :
    (m.release k).holder = Function.update m.holder k none := by
  simp [release, hk]

theorem release_outside (hk : ¬ places k) : m.release k = m := by
  rw [release, if_neg hk]

end Reservations
