import AirlineReservation.Library.Program

/-!
A store with at most one open transaction, reached through calls that may fail.
What becomes of the calls to come is a script: each succeeds, fails and leaves
the transaction open, fails and rolls it back, or takes the process with it.
Statements about a program are for every script, so they cover every place at
which it can fail or be killed.

The end of the file is the rule for one transaction around a body: whatever the
script, the contents stored afterwards are the old ones or those of a finished
body, and no transaction is left open unless an exception leaves the program.
-/

namespace Transactions

open Program

/-- How a call fails. -/
inductive Failure
  | statement
  | transaction
  | kill
  deriving DecidableEq, Repr

/-- The committed contents, and those seen within the open transaction. -/
structure Store (σ : Type) where
  stored : σ
  working : Option σ

namespace Store

variable {σ : Type}

/-- What a statement reads. -/
def contents (store : Store σ) : σ := store.working.getD store.stored

/-- A statement that makes x of the contents. Outside a transaction it commits by itself. -/
def write (store : Store σ) (x : σ) : Store σ :=
  match store.working with
  | none => ⟨x, none⟩
  | some _ => ⟨store.stored, some x⟩

def rolledBack (store : Store σ) : Store σ := ⟨store.stored, none⟩

end Store

/-- The store, and what becomes of the calls to come. Calls beyond the script succeed. -/
structure Engine (σ : Type) where
  store : Store σ
  script : List (Option Failure)

/-- Why a program stops: an exception, which handlers catch, a fault, which nothing
catches, or the end of the process. -/
inductive Stop (ε : Type)
  | exception
  | fault (e : ε)
  | killed
  deriving DecidableEq, Repr

abbrev Prog (ε σ α : Type) := EStateM (Stop ε) (Engine σ) α

section Calls

variable {ε σ α : Type}

/-- A call whose success does what body does. -/
def attempt (body : Prog ε σ α) : Prog ε σ α := fun engine =>
  match engine.script with
  | [] => body engine
  | none :: script => body { engine with script := script }
  | some .statement :: script => .error .exception { engine with script := script }
  | some .transaction :: script =>
    .error .exception { engine with store := engine.store.rolledBack, script := script }
  | some .kill :: script => .error .killed { engine with script := script }

/-- A call that has no effect on the store whether it succeeds or not. -/
def call : Prog ε σ Unit := fun engine =>
  match engine.script with
  | [] => .ok () engine
  | none :: script => .ok () { engine with script := script }
  | some .kill :: script => .error .killed { engine with script := script }
  | some _ :: script => .error .exception { engine with script := script }

def begin : Prog ε σ Unit :=
  attempt fun engine =>
    match engine.store.working with
    | some _ => .error .exception engine
    | none => .ok () { engine with store := ⟨engine.store.stored, some engine.store.stored⟩ }

def commit : Prog ε σ Unit :=
  attempt fun engine =>
    match engine.store.working with
    | some x => .ok () { engine with store := ⟨x, none⟩ }
    | none => .error .exception engine

def rollback : Prog ε σ Unit :=
  attempt fun engine =>
    match engine.store.working with
    | some _ => .ok () { engine with store := engine.store.rolledBack }
    | none => .error .exception engine

/-- Catch an exception; a fault or the end of the process passes. -/
def catching (prog : Prog ε σ α) (handler : Prog ε σ α) : Prog ε σ α :=
  handle prog fun
    | .exception => handler
    | stop => throw stop

/-- Run a destructor when prog returns and when an exception leaves it. -/
def leaving (prog : Prog ε σ α) (destructor : Option α → Prog ε σ Unit) : Prog ε σ α := do
  let a ← handle prog fun
    | .exception => do destructor none; throw .exception
    | stop => throw stop
  destructor (some a)
  return a

/-- An object that begins a transaction when it is made, and rolls it back when it is
destroyed unless the transaction was committed. -/
structure Guard where
  committed : Bool
  deriving DecidableEq, Repr

namespace Guard

def start : Prog ε σ Guard := do
  begin
  return ⟨false⟩

def commit (guard : Guard) : Prog ε σ Guard :=
  if guard.committed = false then do
    Transactions.commit
    return ⟨true⟩
  else throw .exception

def rollback (guard : Guard) : Prog ε σ Unit :=
  if guard.committed = false then Transactions.rollback else throw .exception

/-- A destructor lets no exception out. -/
def destruct (guard : Guard) : Prog ε σ Unit :=
  if guard.committed = false then catching Transactions.rollback (return ()) else return ()

end Guard

/-- A transaction around a body: commit after it, roll back when something raises, and
destroy the guard in the end. -/
def transact (body : Prog ε σ Unit) : Prog ε σ Unit := do
  let guard ← Guard.start
  let _ ← leaving (catching (do body; guard.commit) (do guard.rollback; return guard))
    fun left => (left.getD guard).destruct

end Calls

section Rules

variable {ε σ α : Type} {engine : Engine σ} {Q : α → Engine σ → Prop}
  {E : Stop ε → Engine σ → Prop}

/-- A failed call leaves the store alone or rolls it back. -/
theorem ends_attempt {body : Prog ε σ α}
    (hbody : ∀ script, Ends body ⟨engine.store, script⟩ Q E)
    (hexception : ∀ script, E .exception ⟨engine.store, script⟩)
    (hrolledBack : ∀ script, E .exception ⟨engine.store.rolledBack, script⟩)
    (hkilled : ∀ script, E .killed ⟨engine.store, script⟩) :
    Ends (attempt body) engine Q E := by
  obtain ⟨store, script⟩ := engine
  match script with
  | [] => exact hbody []
  | none :: script => exact hbody script
  | some .statement :: script => exact hexception script
  | some .transaction :: script => exact hrolledBack script
  | some .kill :: script => exact hkilled script

theorem ends_call {Q : Unit → Engine σ → Prop} (hok : ∀ script, Q () ⟨engine.store, script⟩)
    (hexception : ∀ script, E .exception ⟨engine.store, script⟩)
    (hkilled : ∀ script, E .killed ⟨engine.store, script⟩) : Ends call engine Q E := by
  obtain ⟨store, script⟩ := engine
  match script with
  | [] => exact hok []
  | none :: script => exact hok script
  | some .statement :: script => exact hexception script
  | some .transaction :: script => exact hexception script
  | some .kill :: script => exact hkilled script

theorem ends_catching {prog handler : Prog ε σ α} {F : Stop ε → Engine σ → Prop}
    (h : Ends prog engine Q F)
    (hhandler : ∀ engine', F .exception engine' → Ends handler engine' Q E)
    (hpass : ∀ stop engine', stop ≠ .exception → F stop engine' → E stop engine') :
    Ends (catching prog handler) engine Q E := by
  refine Ends.handle h ?_
  intro stop engine' hF
  cases stop with
  | exception => exact hhandler engine' hF
  | fault e => exact hpass _ _ (by simp) hF
  | killed => exact hpass _ _ (by simp) hF

theorem ends_leaving {prog : Prog ε σ α} {destructor : Option α → Prog ε σ Unit}
    {P : α → Engine σ → Prop} {F : Stop ε → Engine σ → Prop} (h : Ends prog engine P F)
    (hreturn : ∀ a engine', P a engine' → Ends (destructor (some a)) engine' (fun _ => Q a) E)
    (hraise : ∀ engine', F .exception engine' →
      Ends (destructor none) engine' (fun _ => E .exception) E)
    (hpass : ∀ stop engine', stop ≠ .exception → F stop engine' → E stop engine') :
    Ends (leaving prog destructor) engine Q E := by
  have hhandle : Ends (handle prog fun
      | .exception => do destructor none; throw .exception
      | stop => throw stop) engine P E := by
    refine Ends.handle h ?_
    intro stop engine' hF
    cases stop with
    | exception => exact (hraise engine' hF).bind fun _ _ hE => Ends.throw hE
    | fault e => exact hpass _ _ (by simp) hF
    | killed => exact hpass _ _ (by simp) hF
  refine hhandle.bind ?_
  intro a engine' hP
  exact (hreturn a engine' hP).bind fun _ _ hQ => Ends.pure hQ

variable {x y : σ}

/-- Nothing is lost: the committed contents are x, and a fault is one of F. -/
def Keeps (x : σ) (F : ε → Prop) (stop : Stop ε) (engine : Engine σ) : Prop :=
  engine.store.stored = x ∧ ∀ e, stop = .fault e → F e

theorem Keeps.of_store {F : ε → Prop} {stop : Stop ε} (h : engine.store.stored = x)
    (hstop : ∀ e, stop ≠ .fault e) : Keeps x F stop engine :=
  ⟨h, fun e he => absurd he (hstop e)⟩

variable (F : ε → Prop)

/-- A rollback that returns has closed the transaction. -/
theorem ends_rollback (h : engine.store.stored = x) :
    Ends (rollback (ε := ε)) engine (fun _ engine' => engine'.store = ⟨x, none⟩) (Keeps x F) := by
  refine ends_attempt ?_ ?_ ?_ ?_
  · intro script
    have hkeeps : Keeps x F .exception ⟨engine.store, script⟩ := Keeps.of_store h (by simp)
    unfold Ends
    cases hworking : engine.store.working with
    | none => simpa [hworking] using hkeeps
    | some y => simp [hworking, Store.rolledBack, h]
  · exact fun _ => Keeps.of_store h (by simp)
  · exact fun _ => Keeps.of_store h (by simp)
  · exact fun _ => Keeps.of_store h (by simp)

/-- Without an open transaction a rollback raises and changes nothing. -/
theorem ends_rollback_closed (h : engine.store = ⟨x, none⟩) :
    Ends (rollback (ε := ε)) engine (fun _ engine' => engine'.store = ⟨x, none⟩)
      (fun stop engine' => engine'.store = ⟨x, none⟩ ∧ Keeps x F stop engine') := by
  have hstored : engine.store.stored = x := by rw [h]
  have hrolled : engine.store.rolledBack = ⟨x, none⟩ := by rw [Store.rolledBack, hstored]
  refine ends_attempt ?_ ?_ ?_ ?_
  · intro script
    have hkeeps : Keeps x F .exception ⟨engine.store, script⟩ :=
      Keeps.of_store hstored (by simp)
    simpa [Ends, h] using hkeeps
  · exact fun _ => ⟨h, Keeps.of_store hstored (by simp)⟩
  · exact fun _ => ⟨hrolled, Keeps.of_store hstored (by simp)⟩
  · exact fun _ => ⟨h, Keeps.of_store hstored (by simp)⟩

theorem ends_begin (h : engine.store = ⟨x, none⟩) :
    Ends (begin (ε := ε)) engine (fun _ engine' => engine'.store = ⟨x, some x⟩) (Keeps x F) := by
  have hstored : engine.store.stored = x := by rw [h]
  refine ends_attempt ?_ ?_ ?_ ?_
  · intro script
    simp [Ends, h]
  · exact fun _ => Keeps.of_store hstored (by simp)
  · exact fun _ => Keeps.of_store hstored (by simp)
  · exact fun _ => Keeps.of_store hstored (by simp)

theorem ends_commit (h : engine.store = ⟨x, some y⟩) :
    Ends (commit (ε := ε)) engine (fun _ engine' => engine'.store = ⟨y, none⟩) (Keeps x F) := by
  have hstored : engine.store.stored = x := by rw [h]
  refine ends_attempt ?_ ?_ ?_ ?_
  · intro script
    simp [Ends, h]
  · exact fun _ => Keeps.of_store hstored (by simp)
  · exact fun _ => Keeps.of_store hstored (by simp)
  · exact fun _ => Keeps.of_store hstored (by simp)

/-- The destructor of a guard that an exception leaves: nothing that it does matters. -/
theorem ends_destruct_raised (h : engine.store.stored = x) :
    Ends ((⟨false⟩ : Guard).destruct (ε := ε)) engine (fun _ => Keeps x F .exception)
      (Keeps x F) := by
  refine ends_catching ((ends_rollback F h).mono ?_ fun _ _ hkeeps => hkeeps) ?_ ?_
  · intro _ engine' hstore
    exact Keeps.of_store (by rw [hstore]) (by simp)
  · intro engine' hkeeps
    exact Ends.pure hkeeps
  · exact fun _ _ _ hkeeps => hkeeps

/-- The destructor after a rollback tries another one, which raises. -/
theorem ends_destruct_closed (h : engine.store = ⟨x, none⟩) :
    Ends ((⟨false⟩ : Guard).destruct (ε := ε)) engine (fun _ e => e.store = ⟨x, none⟩)
      (Keeps x F) := by
  refine ends_catching (ends_rollback_closed F h) ?_ ?_
  · intro engine' hboth
    exact Ends.pure hboth.1
  · exact fun _ _ _ hboth => hboth.2

/-- Where a guard stands: the commit has stored a y of C, or x is stored as before. -/
def Settled (x : σ) (C : σ → Prop) (guard : Guard) (engine : Engine σ) : Prop :=
  (guard = ⟨true⟩ ∧ ∃ y, C y ∧ engine.store = ⟨y, none⟩) ∨
    (guard = ⟨false⟩ ∧ engine.store = ⟨x, none⟩)

/-- One transaction. The body starts on the stored contents x and finishes on some y of C;
afterwards x or such a y is stored and no transaction is open. Whatever stops the
program, x is still stored. -/
theorem ends_transact {F : ε → Prop} {body : Prog ε σ Unit} {C : σ → Prop}
    (hbody : ∀ engine' : Engine σ, engine'.store = ⟨x, some x⟩ →
      Ends body engine' (fun _ e => ∃ y, C y ∧ e.store = ⟨x, some y⟩) (Keeps x F))
    (h : engine.store = ⟨x, none⟩) :
    Ends (transact body) engine
      (fun _ e => e.store = ⟨x, none⟩ ∨ ∃ y, C y ∧ e.store = ⟨y, none⟩) (Keeps x F) := by
  have hstart : Ends (Guard.start (ε := ε)) engine
      (fun guard e => guard = ⟨false⟩ ∧ e.store = ⟨x, some x⟩) (Keeps x F) :=
    (ends_begin F h).bind fun _ _ hstore => Ends.pure ⟨rfl, hstore⟩
  refine hstart.bind ?_
  intro guard engine₁ hboth
  obtain ⟨rfl, h₁⟩ := hboth
  have htry : Ends (catching (do body; (⟨false⟩ : Guard).commit)
      (do (⟨false⟩ : Guard).rollback; return ⟨false⟩)) engine₁ (Settled x C) (Keeps x F) := by
    refine ends_catching (F := Keeps x F) ?_ ?_ (fun _ _ _ hkeeps => hkeeps)
    · refine (hbody engine₁ h₁).bind ?_
      intro _ engine₂ h₂
      obtain ⟨y, hy, hstore⟩ := h₂
      refine (ends_commit F hstore).bind ?_
      intro _ engine₃ h₃
      exact Ends.pure (Or.inl ⟨rfl, y, hy, h₃⟩)
    · intro engine₂ h₂
      refine (ends_rollback F h₂.1).bind ?_
      intro _ engine₃ h₃
      exact Ends.pure (Or.inr ⟨rfl, h₃⟩)
  have hscope : Ends (leaving (catching (do body; (⟨false⟩ : Guard).commit)
      (do (⟨false⟩ : Guard).rollback; return ⟨false⟩)) fun left => (left.getD ⟨false⟩).destruct)
      engine₁ (Settled x C) (Keeps x F) := by
    refine ends_leaving htry ?_ ?_ (fun _ _ _ hkeeps => hkeeps)
    · intro guard engine₂ hsettled
      rcases hsettled with ⟨rfl, hstored⟩ | ⟨rfl, hclosed⟩
      · exact Ends.pure (Or.inl ⟨rfl, hstored⟩)
      · exact (ends_destruct_closed F hclosed).mono (fun _ _ hstore => Or.inr ⟨rfl, hstore⟩)
          fun _ _ hkeeps => hkeeps
    · intro engine₂ hkeeps
      exact ends_destruct_raised F hkeeps.1
  refine hscope.bind ?_
  intro guard engine₂ hsettled
  rcases hsettled with ⟨_, hstored⟩ | ⟨_, hclosed⟩
  · exact Ends.pure (Or.inr hstored)
  · exact Ends.pure (Or.inl hclosed)

end Rules

section Atomic

variable {ε σ α β Ω Ω' : Type}

/-- From the contents x the program does what the function does for some outcome, and
leaves no transaction open if it returns. Where the process is killed the function may
go on, but it finds the same contents. -/
def Refines (prog : Prog ε σ α) (x : σ) (atomic : Ω → σ × Except ε α) : Prop :=
  ∀ engine : Engine σ, engine.store = ⟨x, none⟩ →
    Ends prog engine
      (fun a e => e.store.working = none ∧ ∃ o, atomic o = (e.store.stored, .ok a))
      (fun stop e => ∃ o, (atomic o).1 = e.store.stored ∧
        (stop ≠ .killed → ∃ f, (atomic o).2 = .error f))

/-- One computation on the contents after another. -/
def andThen (first : σ × Except ε α) (next : α → σ → σ × Except ε β) : σ × Except ε β :=
  match first with
  | (x, .ok a) => next a x
  | (x, .error e) => (x, .error e)

variable {x : σ} {prog : Prog ε σ α} {atomic : Ω → σ × Except ε α}

theorem Refines.pure {a : α} (o : Ω) (h : atomic o = (x, .ok a)) :
    Refines (Pure.pure a) x atomic := by
  intro engine hstore
  exact Ends.pure ⟨by rw [hstore], o, by rw [hstore, h]⟩

/-- Outcomes that give the same may be renamed. -/
theorem Refines.rename (h : Refines prog x atomic) {atomic' : Ω' → σ × Except ε α}
    (g : Ω → Ω') (hg : ∀ o, atomic' (g o) = atomic o) : Refines prog x atomic' := by
  intro engine hstore
  refine (h engine hstore).mono ?_ ?_
  · intro a e hreturn
    obtain ⟨hclosed, o, ho⟩ := hreturn
    exact ⟨hclosed, g o, (hg o).trans ho⟩
  · intro stop e hstop
    obtain ⟨o, hstored, hraised⟩ := hstop
    exact ⟨g o, by rw [hg, hstored], by rw [hg]; exact hraised⟩

/-- What comes after a killed part has an outcome that leaves the contents alone. -/
theorem Refines.bind (h : Refines prog x atomic) {f : α → Prog ε σ β}
    {g : α → σ → Ω' → σ × Except ε β}
    (hskip : ∀ a x', ∃ o', (g a x' o').1 = x') [Nonempty Ω']
    (hf : ∀ o a x', atomic o = (x', .ok a) → Refines (f a) x' (g a x')) :
    Refines (prog >>= f) x
      (fun o : Ω × Ω' => andThen (atomic o.1) fun a x' => g a x' o.2) := by
  intro engine hstore
  refine ((h engine hstore).mono (fun _ _ hreturn => hreturn) ?_).bind ?_
  · intro stop e hstop
    obtain ⟨o, hstored, hraised⟩ := hstop
    cases hatomic : atomic o with
    | mk x' result =>
      rw [hatomic] at hstored hraised
      cases result with
      | ok a =>
        obtain ⟨o', ho'⟩ := hskip a x'
        refine ⟨(o, o'), by simpa only [hatomic, andThen, ho'] using hstored, ?_⟩
        intro hne
        obtain ⟨fault, hfault⟩ := hraised hne
        contradiction
      | error fault =>
        obtain ⟨o'⟩ := ‹Nonempty Ω'›
        exact ⟨(o, o'), by simpa only [hatomic, andThen] using hstored, fun _ =>
          ⟨fault, by simp only [hatomic, andThen]⟩⟩
  · intro a e hreturn
    obtain ⟨hclosed, o, ho⟩ := hreturn
    have hstore' : e.store = ⟨e.store.stored, none⟩ := by rw [← hclosed]
    refine (hf o a _ ho e hstore').mono ?_ ?_
    · intro b e' hreturn'
      obtain ⟨hclosed', o', ho'⟩ := hreturn'
      exact ⟨hclosed', (o, o'), by simp only [ho, andThen, ho']⟩
    · intro stop e' hstop
      obtain ⟨o', hstored, hraised⟩ := hstop
      exact ⟨(o, o'), by simp only [ho, andThen, hstored], by simpa only [ho, andThen]⟩

end Atomic

end Transactions
