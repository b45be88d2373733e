import Mathlib.Data.List.Infix

/-!
Runs of a deterministic system: a step function applied along a list of
actions. `Throughout` speaks about every state a run passes, `EveryStep` about
every action together with the state it is taken in; the rules at the end
derive the former from what a single step does.
-/

namespace Run

variable {σ α : Type*} (step : σ → α → σ)

def run (s : σ) (acts : List α) : σ := acts.foldl step s

/-- P holds in the first state and after every action. -/
def Throughout (P : σ → Prop) (s : σ) (acts : List α) : Prop :=
  ∀ pre, pre <+: acts → P (run step s pre)

/-- Every action is taken in a state where C allows it. -/
def EveryStep (C : σ → α → Prop) (s : σ) (acts : List α) : Prop :=
  ∀ pre a, pre ++ [a] <+: acts → C (run step s pre) a

theorem run_nil (s : σ) : run step s [] = s := rfl

theorem run_cons (s : σ) (a : α) (acts : List α) :
    run step s (a :: acts) = run step (step s a) acts := rfl

theorem run_append (s : σ) (acts acts' : List α) :
    run step s (acts ++ acts') = run step (run step s acts) acts' :=
  List.foldl_append

theorem throughout_nil (P : σ → Prop) (s : σ) : Throughout step P s [] ↔ P s := by
  simp [Throughout, run_nil]

theorem throughout_cons (P : σ → Prop) (s : σ) (a : α) (acts : List α) :
    Throughout step P s (a :: acts) ↔ P s ∧ Throughout step P (step s a) acts := by
  constructor
  · intro h
    refine ⟨h [] List.nil_prefix, ?_⟩
    intro pre hpre
    exact h (a :: pre) (by simpa using hpre)
  · intro hboth pre hpre
    obtain ⟨hs, hrest⟩ := hboth
    cases pre with
    | nil => exact hs
    | cons b pre =>
      obtain ⟨rfl, htail⟩ := List.cons_prefix_cons.mp hpre
      exact hrest pre htail

theorem everyStep_nil (C : σ → α → Prop) (s : σ) : EveryStep step C s [] := by
  intro pre a hpre
  simp at hpre

theorem everyStep_cons (C : σ → α → Prop) (s : σ) (a : α) (acts : List α) :
    EveryStep step C s (a :: acts) ↔ C s a ∧ EveryStep step C (step s a) acts := by
  constructor
  · intro h
    refine ⟨h [] a (by simp), ?_⟩
    intro pre b hpre
    exact h (a :: pre) b (by simpa using hpre)
  · intro hboth pre b hpre
    obtain ⟨ha, hrest⟩ := hboth
    cases pre with
    | nil =>
      simp only [List.nil_append, List.cons_prefix_cons, List.nil_prefix, and_true] at hpre
      subst hpre
      exact ha
    | cons c pre =>
      obtain ⟨rfl, htail⟩ := List.cons_prefix_cons.mp hpre
      exact hrest pre b htail

theorem Throughout.final {P : σ → Prop} {s : σ} {acts : List α}
    (h : Throughout step P s acts) : P (run step s acts) :=
  h acts List.prefix_rfl

/-- What every allowed step preserves holds throughout a run of allowed steps. -/
theorem throughout_of_everyStep (P : σ → Prop) (C : σ → α → Prop)
    (hstep : ∀ s a, P s → C s a → P (step s a)) (s : σ) (acts : List α)
    (hs : P s) (hC : EveryStep step C s acts) : Throughout step P s acts := by
  induction acts generalizing s with
  | nil => exact (throughout_nil step P s).mpr hs
  | cons a acts ih =>
    obtain ⟨ha, hrest⟩ := (everyStep_cons step C s a acts).mp hC
    exact (throughout_cons step P s a acts).mpr ⟨hs, ih (step s a) (hstep s a hs ha) hrest⟩

/-- A condition on the actions alone. -/
theorem everyStep_of_forall (A : α → Prop) (s : σ) (acts : List α) (h : ∀ a ∈ acts, A a) :
    EveryStep step (fun _ a => A a) s acts := by
  intro pre a hpre
  exact h a (hpre.subset (List.mem_append_right _ (List.mem_singleton_self a)))

/-- An invariant of all admissible actions holds throughout every run of them. -/
theorem throughout_of_forall (P : σ → Prop) (A : α → Prop)
    (hstep : ∀ s a, P s → A a → P (step s a)) (s : σ) (acts : List α)
    (hs : P s) (hA : ∀ a ∈ acts, A a) : Throughout step P s acts :=
  throughout_of_everyStep step P (fun _ a => A a) hstep s acts hs
    (everyStep_of_forall step A s acts hA)

/-- If an allowed step is exactly one that keeps P, on the states of an
invariant I, then P holds throughout a run exactly when every step is allowed. -/
theorem throughout_iff_everyStep (I P : σ → Prop) (A : α → Prop) (C : σ → α → Prop)
    (hI : ∀ s a, I s → A a → I (step s a))
    (hstep : ∀ s a, I s → A a → P s → (P (step s a) ↔ C s a)) (s : σ) (acts : List α)
    (hs : I s) (hP : P s) (hA : ∀ a ∈ acts, A a) :
    Throughout step P s acts ↔ EveryStep step C s acts := by
  induction acts generalizing s with
  | nil =>
    rw [throughout_nil]
    exact ⟨fun _ => everyStep_nil step C s, fun _ => hP⟩
  | cons a acts ih =>
    have ha : A a := hA a List.mem_cons_self
    have hrest : ∀ b ∈ acts, A b := fun b hb => hA b (List.mem_cons_of_mem a hb)
    rw [throughout_cons, everyStep_cons]
    constructor
    · intro hboth
      obtain ⟨_, hthrough⟩ := hboth
      have hPa : P (step s a) := hthrough [] List.nil_prefix
      exact ⟨(hstep s a hs ha hP).mp hPa, (ih (step s a) (hI s a hs ha) hPa hrest).mp hthrough⟩
    · intro hboth
      obtain ⟨hC, hevery⟩ := hboth
      have hPa : P (step s a) := (hstep s a hs ha hP).mpr hC
      exact ⟨hP, (ih (step s a) (hI s a hs ha) hPa hrest).mpr hevery⟩

section Updates

variable {ε : Type*}

/-- Apply the updates in order until there is an exception in the place of one. -/
def applyInOrder : List (Except ε (σ → σ)) → σ → Except ε Unit × σ
  | [], s => (.ok (), s)
  | .error e :: _, s => (.error e, s)
  | .ok update :: rest, s => applyInOrder rest (update s)

/-- An exception is that of the first failing update; those before it are done. -/
theorem applyInOrder_error_iff (updates : List (Except ε (σ → σ))) (s s' : σ) (e : ε) :
    applyInOrder updates s = (.error e, s') ↔
      ∃ (done : List (σ → σ)) (rest : List (Except ε (σ → σ))),
        updates = done.map .ok ++ .error e :: rest ∧
        s' = done.foldl (fun s update => update s) s := by
  induction updates generalizing s with
  | nil =>
    constructor
    · intro h
      exact absurd (Prod.mk.inj h).1 (by simp)
    · intro h
      obtain ⟨done, rest, heq, _⟩ := h
      simp at heq
  | cons update updates ih =>
    cases update with
    | error e' =>
      constructor
      · intro h
        obtain ⟨he, hs⟩ := Prod.mk.inj h
        cases Except.error.inj he
        exact ⟨[], updates, rfl, hs.symm⟩
      · intro h
        obtain ⟨done, rest, heq, hs⟩ := h
        cases done with
        | nil =>
          cases List.cons.inj heq with
          | intro he _ =>
            cases Except.error.inj he
            rw [hs]
            rfl
        | cons first done => exact absurd (List.cons.inj heq).1 (by simp)
    | ok f =>
      rw [applyInOrder, ih]
      constructor
      · intro h
        obtain ⟨done, rest, rfl, hs⟩ := h
        exact ⟨f :: done, rest, rfl, hs⟩
      · intro h
        obtain ⟨done, rest, heq, hs⟩ := h
        cases done with
        | nil => exact absurd (List.cons.inj heq).1 (by simp)
        | cons first done =>
          obtain ⟨hfirst, hrest⟩ := List.cons.inj heq
          cases Except.ok.inj hfirst
          exact ⟨done, rest, hrest, hs⟩

end Updates

section Origins

variable {κ β : Type*} (old : κ → β → Prop) (makes : σ → α → κ → β → Prop) (alter : β → β)

/-- How the thing b can be at the place k in a run from s: there from the start, made in
some event, or altered from such. -/
inductive Origin (s : σ) (acts : List α) (k : κ) : β → Prop
  | old {b : β} (h : old k b) : Origin s acts k b
  | made {pre : List α} {a : α} {b : β} (hpre : pre ++ [a] <+: acts)
      (h : makes (run step s pre) a k b) : Origin s acts k b
  | altered {b : β} (h : Origin s acts k b) : Origin s acts k (alter b)

theorem Origin.append {s : σ} {pre acts : List α} {k : κ} {b : β}
    (h : Origin step old makes alter s pre k b) :
    Origin step old makes alter s (pre ++ acts) k b := by
  induction h with
  | old h => exact .old h
  | made hpre h => exact .made (hpre.trans (List.prefix_append _ _)) h
  | altered _ ih => exact ih.altered

/-- A property of states that speaks of the things in them, and that a step keeps with any kind
of things to which alteration and the step itself add nothing, holds after every run with the
things that have an origin. -/
theorem originates (Holds : (κ → β → Prop) → σ → Prop)
    (hmono : ∀ P Q s, Holds P s → (∀ k b, P k b → Q k b) → Holds Q s)
    (hstep : ∀ P s a, Holds P s → (∀ k b, P k b → P k (alter b)) →
      (∀ k b, makes s a k b → P k b) → Holds P (step s a))
    {s : σ} (hs : Holds old s) (acts : List α) :
    Holds (Origin step old makes alter s acts) (run step s acts) := by
  induction acts using List.reverseRecOn with
  | nil => exact hmono _ _ s hs fun _ _ h => .old h
  | append_singleton pre a ih =>
    rw [run_append]
    have hpre : Holds (Origin step old makes alter s (pre ++ [a])) (run step s pre) :=
      hmono _ _ _ ih fun _ _ h => h.append
    exact hstep _ _ a hpre (fun _ _ h => h.altered) fun _ _ h => .made List.prefix_rfl h

end Origins

section Local

variable {κ ν : Type*} (view : σ → κ → ν)

/-- A state is looked at place by place. From s to s' the view changes by g at the place k
and nowhere else. -/
def LocalAt (k : κ) (g : ν → ν) (s s' : σ) : Prop :=
  view s' k = g (view s k) ∧ ∀ k', k' ≠ k → view s' k' = view s k'

theorem LocalAt.refl (k : κ) (s : σ) : LocalAt view k id s s := ⟨rfl, fun _ _ => rfl⟩

theorem LocalAt.congr {view : σ → κ → ν} {k : κ} {g g' : ν → ν} {s s' : σ}
    (h : LocalAt view k g s s') (heq : g' (view s k) = g (view s k)) :
    LocalAt view k g' s s' :=
  ⟨h.1.trans heq.symm, h.2⟩

theorem LocalAt.commute {view : σ → κ → ν} {k k' : κ} {g g' : ν → ν} {s s₁ s₂ s₁₂ s₂₁ : σ}
    (hne : k ≠ k') (h₁ : LocalAt view k g s s₁) (h₁₂ : LocalAt view k' g' s₁ s₁₂)
    (h₂ : LocalAt view k' g' s s₂) (h₂₁ : LocalAt view k g s₂ s₂₁) (place : κ) :
    view s₁₂ place = view s₂₁ place := by
  by_cases hk : place = k
  · subst hk
    rw [h₁₂.2 place hne, h₁.1, h₂₁.1, h₂.2 place hne]
  · by_cases hk' : place = k'
    · subst hk'
      rw [h₁₂.1, h₁.2 place hk, h₂₁.2 place hk, h₂.1]
    · rw [h₁₂.2 place hk', h₁.2 place hk, h₂₁.2 place hk, h₂.2 place hk']

end Local

end Run
