import AirlineReservation.Loading
import AirlineReservation.Statements

/-!
What the calls of SQLite come to. Wherever they fail, a persistence function does
to the stored database what its atomic version does for some outcome, and leaves
no transaction open. So what holds of the atomic versions for every outcome holds
of the calls.
-/

namespace AirlineReservation.Statements

open Transactions Program

variable {engine : Engine Database} {S : Store Database} {x y : Database}

/-- The store is as before, and it is not a fault that stops the program. -/
def Quiet (S : Store Database) (stop : Stop Fault) (engine : Engine Database) : Prop :=
  engine.store = S ∧ ∀ f, stop ≠ .fault f

/-- The store is as before or rolled back. -/
def Failed (S : Store Database) (stop : Stop Fault) (engine : Engine Database) : Prop :=
  (engine.store = S ∨ engine.store = S.rolledBack) ∧ ∀ f, stop ≠ .fault f

theorem Quiet.failed {stop : Stop Fault} (h : Quiet S stop engine) : Failed S stop engine :=
  ⟨Or.inl h.1, h.2⟩

theorem Failed.keeps {F : Fault → Prop} {stop : Stop Fault} (h : Failed S stop engine) :
    Keeps S.stored F stop engine := by
  refine Keeps.of_store ?_ h.2
  rcases h.1 with hsame | hrolled
  · rw [hsame]
  · rw [hrolled, Store.rolledBack]

/-- Outside a transaction there is nothing to roll back. -/
theorem Failed.quiet {stop : Stop Fault} (h : Failed ⟨x, none⟩ stop engine) :
    Quiet ⟨x, none⟩ stop engine := by
  refine ⟨?_, h.2⟩
  rcases h.1 with hsame | hrolled
  · exact hsame
  · exact hrolled

theorem ends_prepare (query : Query) (h : engine.store = S) :
    Ends (Statement.prepare query) engine
      (fun stmt e => e.store = S ∧ stmt = .start query ∧
        ∃ rows, openTable S.contents query.table = .ok rows) (Quiet S) := by
  refine Ends.bind (P := fun _ e => e.store = S)
    (ends_call (fun _ => h) (fun _ => ⟨h, by simp⟩) (fun _ => ⟨h, by simp⟩)) ?_
  intro _ engine₁ h₁
  refine Ends.bind (P := fun now e => now.store = S ∧ e.store = S) ⟨h₁, h₁⟩ ?_
  intro now engine₂ h₂
  rw [h₂.1]
  split
  · next rows hrows => exact Ends.pure ⟨h₂.2, rfl, rows, hrows⟩
  · exact Ends.throw ⟨h₂.2, by simp⟩

variable {α : Type} {Q : α → Engine Database → Prop} {E : Stop Fault → Engine Database → Prop}

/-- A value is bound, and the rest goes on with the statement. -/
theorem ends_bind_then {stmt : Statement} {aIndex : ℕ} {aValue : Value} {f : Statement → Sqlite α}
    (h : engine.store = S) (hE : ∀ stop e, Quiet S stop e → E stop e)
    (hf : ∀ e, e.store = S →
      Ends (f (stmt.setBound aIndex aValue)) e Q E) :
    Ends (stmt.bind aIndex aValue >>= f) engine Q E := by
  have hbind : Ends (stmt.bind aIndex aValue) engine
      (fun stmt' e => e.store = S ∧ stmt' = stmt.setBound aIndex aValue) (Quiet S) := by
    refine Ends.bind (P := fun _ e => e.store = S)
      (ends_call (fun _ => h) (fun _ => ⟨h, by simp⟩) (fun _ => ⟨h, by simp⟩)) ?_
    intro _ engine₁ h₁
    split
    · exact Ends.pure ⟨h₁, rfl⟩
    · exact Ends.throw ⟨h₁, by simp⟩
  refine (hbind.mono (fun _ _ hboth => hboth) hE).bind ?_
  intro stmt' engine₁ hboth
  obtain ⟨h₁, rfl⟩ := hboth
  exact hf engine₁ h₁

theorem ends_lift_then {result : Except Fault α} {β : Type} {R : β → Engine Database → Prop}
    {f : α → Sqlite β} (hok : ∀ a, result = .ok a → Ends (f a) engine R E)
    (herror : ∀ e, result = .error e → E (.fault e) engine) :
    Ends (lift result >>= f) engine R E := by
  cases result with
  | ok a => exact hok a rfl
  | error e => exact herror e rfl

/-- Where every exception is caught, only a kill stops the program. -/
theorem ends_caught {prog : Sqlite α} {a : α} (h : Ends prog engine Q (Quiet S))
    (hcaught : ∀ e, e.store = S → Q a e) :
    Ends (catching prog (return a)) engine Q (fun stop e => e.store = S ∧ stop = .killed) := by
  refine ends_catching h ?_ ?_
  · intro e hquiet
    exact Ends.pure (hcaught e hquiet.1)
  · intro stop e hne hquiet
    refine ⟨hquiet.1, ?_⟩
    cases stop with
    | exception => exact absurd rfl hne
    | fault f => exact absurd rfl (hquiet.2 f)
    | killed => rfl

/-- The rows that a step finds: those to come, or those of the query when it is run. -/
def Gives (stmt : Statement) (S : Store Database) (rows : List (List Value))
    (engine : Engine Database) : Prop :=
  (stmt.pending = some rows ∧ engine.store = S) ∨
    (stmt.pending = none ∧ ∃ db, stmt.query.run S.contents stmt.bound = .ok (rows, db) ∧
      engine.store = S.write db)

theorem ends_sqlite3Step (stmt : Statement) (h : engine.store = S) :
    Ends stmt.sqlite3Step engine
      (fun result e => ∃ rows, Gives stmt S rows e ∧ result = (rows.head?, rows.tail))
      (Failed S) := by
  subst h
  refine ends_attempt ?_ (fun _ => ⟨Or.inl rfl, by simp⟩) (fun _ => ⟨Or.inr rfl, by simp⟩)
    (fun _ => ⟨Or.inl rfl, by simp⟩)
  intro script
  unfold Ends
  cases hpending : stmt.pending with
  | some rows => cases rows <;> exact ⟨_, Or.inl ⟨hpending, rfl⟩, rfl⟩
  | none =>
    simp only
    cases hrun : stmt.query.run engine.store.contents stmt.bound with
    | error e => exact ⟨Or.inl rfl, by simp⟩
    | ok result =>
      obtain ⟨rows, db⟩ := result
      cases rows <;> exact ⟨_, Or.inr ⟨hpending, db, hrun, rfl⟩, rfl⟩

/-- After a step a statement is done, or it stands on the first of the rows. -/
def Stepped (stmt : Statement) (rows : List (List Value)) (ret : ResultCode)
    (stmt' : Statement) : Prop :=
  (rows = [] ∧ ret = .done ∧ stmt'.mbHasRow = false) ∨
    ∃ row rest, rows = row :: rest ∧ ret = .row ∧
      stmt' = { stmt with pending := some rest, row := row, mbHasRow := true }

theorem ends_tryExecuteStep {stmt : Statement} (hdone : stmt.mbDone = false)
    (h : engine.store = S) :
    Ends stmt.tryExecuteStep engine
      (fun result e => (∃ rows, Gives stmt S rows e ∧ Stepped stmt rows result.1 result.2) ∨
        (result.1 = .failed ∧ Failed S .exception e)) (Failed S) := by
  have hnot : ¬ stmt.mbDone = true := by simp [hdone]
  rw [Statement.tryExecuteStep, if_neg hnot]
  refine ends_catching (F := Failed S) ?_ ?_ (fun _ _ _ hfailed => hfailed)
  · refine (ends_sqlite3Step stmt h).bind ?_
    intro result engine₁ hresult
    obtain ⟨rows, hgives, rfl⟩ := hresult
    cases rows with
    | nil => exact Ends.pure (Or.inl ⟨[], hgives, Or.inl ⟨rfl, rfl, rfl⟩⟩)
    | cons row rest =>
      exact Ends.pure (Or.inl ⟨row :: rest, hgives, Or.inr ⟨row, rest, rfl, rfl, rfl⟩⟩)
  · intro engine₁ hfailed
    exact Ends.pure (Or.inr ⟨rfl, hfailed⟩)

theorem ends_executeStep {stmt : Statement} (hdone : stmt.mbDone = false)
    (h : engine.store = S) :
    Ends stmt.executeStep engine
      (fun result e => ∃ rows, Gives stmt S rows e ∧ result.1 = !rows.isEmpty ∧
        ∀ row rest, rows = row :: rest →
          result.2 = { stmt with pending := some rest, row := row, mbHasRow := true })
      (Failed S) := by
  refine (ends_tryExecuteStep hdone h).bind ?_
  intro result engine₁ hresult
  obtain ⟨ret, stmt'⟩ := result
  rcases hresult with ⟨rows, hgives, ⟨rfl, rfl, hrow⟩ | ⟨row, rest, rfl, rfl, rfl⟩⟩ |
    ⟨rfl, hfailed⟩
  · exact Ends.pure ⟨[], hgives, hrow, by simp⟩
  · refine Ends.pure ⟨row :: rest, hgives, rfl, ?_⟩
    intro row' rest' heq
    cases heq
    rfl
  · exact Ends.throw hfailed

/-- A statement that has not been stepped. -/
structure Fresh (stmt : Statement) : Prop where
  pending : stmt.pending = none
  mbDone : stmt.mbDone = false

/-- The first step of a statement has run its query. -/
theorem Fresh.run {stmt : Statement} (hfresh : Fresh stmt) {rows : List (List Value)}
    (h : Gives stmt S rows engine) :
    ∃ db, stmt.query.run S.contents stmt.bound = .ok (rows, db) ∧ engine.store = S.write db := by
  rcases h with ⟨hpending, _⟩ | ⟨_, hrun⟩
  · rw [hfresh.pending] at hpending
    contradiction
  · exact hrun

/-- A statement without rows is executed for what it writes. -/
theorem ends_exec {stmt : Statement} (hfresh : Fresh stmt) (h : engine.store = S)
    (hwrite : ∀ row rest db, stmt.query.run S.contents stmt.bound ≠ .ok (row :: rest, db)) :
    Ends stmt.exec engine
      (fun _ e => ∃ db, stmt.query.run S.contents stmt.bound = .ok ([], db) ∧
        e.store = S.write db) (Failed S) := by
  refine (ends_tryExecuteStep hfresh.mbDone h).bind ?_
  intro result engine₁ hresult
  obtain ⟨ret, stmt'⟩ := result
  rcases hresult with ⟨rows, hgives, ⟨rfl, rfl, _⟩ | ⟨row, rest, rfl, rfl, rfl⟩⟩ |
    ⟨rfl, hfailed⟩
  · exact Ends.pure (hfresh.run hgives)
  · obtain ⟨db, hrun, _⟩ := hfresh.run hgives
    exact absurd hrun (hwrite row rest db)
  · exact Ends.throw hfailed

theorem write_contents (S : Store Database) : S.write S.contents = S := by
  obtain ⟨stored, working⟩ := S
  cases working <;> rfl

theorem Quiet.keeps {F : Fault → Prop} {stop : Stop Fault} (h : Quiet S stop engine) :
    Keeps S.stored F stop engine := h.failed.keeps

section Seat

variable (seatMap : SeatMap) (tableName : String) (row col : ℤ) (name : String)

/-- The getters are asked before their values are bound. -/
theorem ends_writeSeat (statement : Query) (effect : String → String → Except Fault Database)
    (hrun : ∀ email maxLoad, statement.run y [some (.text name), some (.text email),
      some (.text maxLoad), some (.integer row), some (.integer col)] =
        (effect email maxLoad).bind fun db => .ok ([], db))
    (hparameters : statement.parameters = 5) (h : engine.store = ⟨x, some y⟩) :
    Ends (writeSeat seatMap statement row col name) engine
      (fun _ e => ∃ email maxLoad y', seatMap.getEmail row col = .ok email ∧
        seatMap.getMaxLoad row col = .ok maxLoad ∧ effect email maxLoad = .ok y' ∧
        e.store = ⟨x, some y'⟩)
      (Keeps x fun f => seatMap.getEmail row col = .error f ∨
        seatMap.getMaxLoad row col = .error f) := by
  have hquiet : ∀ stop e, Quiet ⟨x, some y⟩ stop e → Keeps x (fun f =>
      seatMap.getEmail row col = .error f ∨ seatMap.getMaxLoad row col = .error f) stop e :=
    fun _ _ hquiet => hquiet.keeps
  have hfault : ∀ f e, e.store = ⟨x, some y⟩ → (seatMap.getEmail row col = .error f ∨
      seatMap.getMaxLoad row col = .error f) → Keeps x (fun f =>
      seatMap.getEmail row col = .error f ∨ seatMap.getMaxLoad row col = .error f)
      (.fault f) e := by
    intro f e hstore hf
    refine ⟨by rw [hstore], ?_⟩
    intro f' heq
    cases heq
    exact hf
  unfold writeSeat
  refine ((ends_prepare _ h).mono (fun _ _ hpre => hpre) hquiet).bind ?_
  intro query engine₁ hpre
  obtain ⟨h₁, rfl, _⟩ := hpre
  refine ends_bind_then h₁ hquiet ?_
  intro engine₂ h₂
  refine ends_lift_then ?_ fun f hf => hfault f _ h₂ (Or.inl hf)
  intro email hemail
  refine ends_bind_then h₂ hquiet ?_
  intro engine₃ h₃
  refine ends_lift_then ?_ fun f hf => hfault f _ h₃ (Or.inr hf)
  intro maxLoad hload
  refine ends_bind_then h₃ hquiet ?_
  intro engine₄ h₄
  refine ends_bind_then h₄ hquiet ?_
  intro engine₅ h₅
  refine ends_bind_then h₅ hquiet ?_
  intro engine₆ h₆
  have hbound : (((((Statement.start statement).setBound 1 (.text name)).setBound 2
      (.text email)).setBound 3 (.text maxLoad)).setBound 4 (.integer row)).setBound 5
      (.integer col) = { Statement.start statement with bound := [some (.text name),
        some (.text email), some (.text maxLoad), some (.integer row), some (.integer col)] } := by
    simp [Statement.start, Statement.setBound, hparameters, List.replicate]
  rw [hbound]
  refine ((ends_exec ⟨rfl, rfl⟩ h₆ ?_).mono (fun _ _ hfound => hfound)
    fun _ _ hfailed => hfailed.keeps).bind ?_
  · intro first rest db hrows
    obtain ⟨y', _, hreturn⟩ := exists_of_bind_ok ((hrun email maxLoad).symm.trans hrows)
    exact absurd (Prod.mk.inj (Except.ok.inj hreturn)).1 (by simp)
  · intro _ engine₇ hfound
    obtain ⟨db, hwritten, hstore⟩ := hfound
    obtain ⟨y', heffect, hreturn⟩ := exists_of_bind_ok ((hrun email maxLoad).symm.trans hwritten)
    obtain ⟨_, rfl⟩ := Prod.mk.inj (Except.ok.inj hreturn)
    exact Ends.pure ⟨email, maxLoad, y', hemail, hload, heffect, hstore⟩

theorem textAt_error {s : SeatMap} {grid : List (List String)} {f : Fault}
    (h : s.textAt grid row col = .error f) : f = .outOfRange := by
  unfold SeatMap.textAt element at h
  split at h
  · split at h
    · contradiction
    · exact (Except.error.inj h).symm
  · contradiction

/-- What the atomic body comes to when the SELECT returns. -/
theorem storeSeat_of_select {found : List BookingInformation}
    (h : y.selectSeat tableName row col = .ok found) {email maxLoad : String}
    (hemail : seatMap.getEmail row col = .ok email)
    (hload : seatMap.getMaxLoad row col = .ok maxLoad) :
    AirlineReservation.storeSeat seatMap tableName row col name y =
      if found.isEmpty then y.insertSeat tableName name email maxLoad row col
      else y.updateSeat tableName name email maxLoad row col := by
  simp only [AirlineReservation.storeSeat, h, hemail, hload, bind, Except.bind]
  cases found <;> rfl

theorem storeSeat_getter_error {found : List BookingInformation}
    (h : y.selectSeat tableName row col = .ok found) {f : Fault}
    (hf : seatMap.getEmail row col = .error f ∨ seatMap.getMaxLoad row col = .error f) :
    AirlineReservation.storeSeat seatMap tableName row col name y = .error .outOfRange := by
  cases hemail : seatMap.getEmail row col with
  | error f' =>
    cases textAt_error row col hemail
    simp only [AirlineReservation.storeSeat, h, hemail, bind, Except.bind]
  | ok email =>
    rcases hf with hf | hf
    · rw [hemail] at hf
      contradiction
    · cases textAt_error row col hf
      simp only [AirlineReservation.storeSeat, h, hemail, hf, bind, Except.bind]

/-- Where the body for a seat ends: it has done to the contents what the atomic body
does, or a getter has indexed outside. -/
theorem ends_storeSeat (h : engine.store = ⟨x, some y⟩) :
    Ends (storeSeat seatMap tableName row col name) engine
      (fun _ e => ∃ y', AirlineReservation.storeSeat seatMap tableName row col name y = .ok y' ∧
        e.store = ⟨x, some y'⟩)
      (Keeps x fun f => f = .outOfRange ∧
        AirlineReservation.storeSeat seatMap tableName row col name y = .error f) := by
  have hquiet : ∀ stop e, Quiet ⟨x, some y⟩ stop e → Keeps x (fun f => f = .outOfRange ∧
      AirlineReservation.storeSeat seatMap tableName row col name y = .error f) stop e :=
    fun _ _ hquiet => hquiet.keeps
  unfold storeSeat
  refine ((ends_prepare _ h).mono (fun _ _ hpre => hpre) hquiet).bind ?_
  intro checkQuery engine₁ hpre
  obtain ⟨h₁, rfl, _⟩ := hpre
  refine ends_bind_then h₁ hquiet ?_
  intro engine₂ h₂
  refine ends_bind_then h₂ hquiet ?_
  intro engine₃ h₃
  refine ((ends_executeStep rfl h₃).mono (fun _ _ hstep => hstep)
    fun _ _ hfailed => hfailed.keeps).bind ?_
  intro result engine₄ hresult
  obtain ⟨found, checkQuery⟩ := result
  obtain ⟨rows, hgives, hfound, _⟩ := hresult
  obtain ⟨db, hrun, h₄⟩ := Fresh.run ⟨rfl, rfl⟩ hgives
  obtain ⟨selected, hselect, hreturn⟩ := exists_of_bind_ok
    (x := y.selectSeat tableName row col) hrun
  obtain ⟨rfl, rfl⟩ := Prod.mk.inj (Except.ok.inj hreturn)
  rw [write_contents] at h₄
  have hgetter : ∀ stop e, Keeps x (fun f => seatMap.getEmail row col = .error f ∨
      seatMap.getMaxLoad row col = .error f) stop e → Keeps x (fun f => f = .outOfRange ∧
        AirlineReservation.storeSeat seatMap tableName row col name y = .error f) stop e := by
    intro stop e hkeeps
    refine ⟨hkeeps.1, ?_⟩
    intro f hstop
    have herror := storeSeat_getter_error seatMap tableName row col name hselect
      (hkeeps.2 f hstop)
    have hf : f = .outOfRange := by
      rcases hkeeps.2 f hstop with hf | hf <;> exact textAt_error row col hf
    subst hf
    exact ⟨rfl, herror⟩
  cases selected with
  | nil =>
    have hinsert : found = false := hfound
    subst hinsert
    refine (ends_writeSeat seatMap row col name (.insertSeat tableName)
      (fun email maxLoad => y.insertSeat tableName name email maxLoad row col)
      (fun _ _ => rfl) rfl h₄).mono ?_ hgetter
    intro _ e hwritten
    obtain ⟨email, maxLoad, y', hemail, hload, hinsert, hstore⟩ := hwritten
    exact ⟨y', (storeSeat_of_select seatMap tableName row col name hselect hemail hload).trans
      hinsert, hstore⟩
  | cons b rest =>
    have hupdate : found = true := hfound
    subst hupdate
    refine (ends_writeSeat seatMap row col name (.updateSeat tableName)
      (fun email maxLoad => y.updateSeat tableName name email maxLoad row col)
      (fun _ _ => rfl) rfl h₄).mono ?_ hgetter
    intro _ e hwritten
    obtain ⟨email, maxLoad, y', hemail, hload, hupdate, hstore⟩ := hwritten
    exact ⟨y', (storeSeat_of_select seatMap tableName row col name hselect hemail hload).trans
      hupdate, hstore⟩

end Seat

/-- A transaction around calls is an atomic transaction around their body. -/
theorem refines_transact {body : Sqlite Unit} {atomic : Database → Except Fault Database}
    (hbody : ∀ engine : Engine Database, engine.store = ⟨x, some x⟩ →
      Ends body engine (fun _ e => ∃ y, atomic x = .ok y ∧ e.store = ⟨x, some y⟩)
        (Keeps x fun f => f = .outOfRange ∧ atomic x = .error f)) :
    Refines (transact body) x fun outcome => transaction outcome atomic x := by
  intro engine hstore
  refine (ends_transact (C := fun y => atomic x = .ok y) hbody hstore).mono ?_ ?_
  · intro _ e hsettled
    rcases hsettled with hsame | ⟨y, hy, hstored⟩
    · exact ⟨by rw [hsame], .rolledBack, by rw [hsame]; rfl⟩
    · exact ⟨by rw [hstored], .committed, by rw [hstored]; simp only [transaction, hy]⟩
  · intro stop e hkeeps
    obtain ⟨hstored, hfault⟩ := hkeeps
    rw [hstored]
    cases stop with
    | exception => exact ⟨.beginRaised, rfl, fun _ => ⟨.sqlException, rfl⟩⟩
    | killed => exact ⟨.beginRaised, rfl, fun _ => ⟨.sqlException, rfl⟩⟩
    | fault f =>
      obtain ⟨rfl, herror⟩ := hfault f rfl
      have hfault : transaction .committed atomic x = (x, .error .outOfRange) := by
        simp only [transaction, herror]
      exact ⟨.committed, congrArg Prod.fst hfault, fun _ => ⟨.outOfRange, congrArg Prod.snd hfault⟩⟩

section Save

variable (seatMap : SeatMap) (tableName : String)

theorem refines_insertBookingSeat (seat : ℤ × ℤ) :
    Refines (insertBookingSeat seatMap tableName seat) x fun outcome =>
      AirlineReservation.insertBookingSeat seatMap tableName outcome seat x := by
  intro engine hstore
  unfold insertBookingSeat
  cases hname : element seatMap.passengerMap seat.1 seat.2 with
  | error f =>
    have hfault : AirlineReservation.insertBookingSeat seatMap tableName .committed seat x =
        (x, .error f) := by
      simp only [AirlineReservation.insertBookingSeat, hname]
    refine ⟨.committed, ?_, fun _ => ⟨f, congrArg Prod.snd hfault⟩⟩
    rw [hstore]
    exact congrArg Prod.fst hfault
  | ok name =>
    by_cases hempty : name = ""
    · refine Ends.bind (P := fun a e => a = name ∧ e.store = ⟨x, none⟩) ⟨rfl, hstore⟩ ?_
      intro a e hboth
      obtain ⟨rfl, hstore'⟩ := hboth
      rw [if_neg (not_not_intro hempty)]
      refine Ends.pure ⟨by rw [hstore'], .committed, ?_⟩
      simp only [AirlineReservation.insertBookingSeat, hname, hempty, hstore', ne_eq,
        not_true_eq_false, if_false]
    · refine Ends.bind (P := fun a e => a = name ∧ e.store = ⟨x, none⟩) ⟨rfl, hstore⟩ ?_
      intro a e hboth
      obtain ⟨rfl, hstore'⟩ := hboth
      rw [if_pos hempty]
      have htransact := refines_transact (x := x)
        (fun _ h => ends_storeSeat seatMap tableName seat.1 seat.2 a h)
      have hseat : (fun outcome => AirlineReservation.insertBookingSeat seatMap tableName outcome
          seat x) = fun outcome => transaction outcome
            (AirlineReservation.storeSeat seatMap tableName seat.1 seat.2 a) x := by
        funext outcome
        simp only [AirlineReservation.insertBookingSeat, hname, ne_eq, hempty,
          not_false_eq_true, if_true]
      rw [hseat]
      exact htransact e hstore'

/-- The outcome of a position that is not visited plays no part. -/
theorem insertBookingLoop_congr {outcome outcome' : ℤ × ℤ → TransactionOutcome}
    {seats : List (ℤ × ℤ)} (h : ∀ k ∈ seats, outcome k = outcome' k) (db : Database) :
    AirlineReservation.insertBookingLoop seatMap tableName outcome seats db =
      AirlineReservation.insertBookingLoop seatMap tableName outcome' seats db := by
  induction seats generalizing db with
  | nil => rfl
  | cons k rest ih =>
    have hrest : ∀ k' ∈ rest, outcome k' = outcome' k' :=
      fun k' hk' => h k' (List.mem_cons_of_mem k hk')
    unfold AirlineReservation.insertBookingLoop
    rw [h k List.mem_cons_self]
    split
    · exact ih hrest _
    · rfl

instance : Inhabited TransactionOutcome := ⟨.committed⟩

/-- A save of which every transaction is rolled back. -/
theorem insertBookingLoop_rolledBack (seats : List (ℤ × ℤ)) (db : Database) :
    (AirlineReservation.insertBookingLoop seatMap tableName (fun _ => .rolledBack) seats db).1 =
      db := by
  induction seats with
  | nil => rfl
  | cons k rest ih =>
    have hseat : (AirlineReservation.insertBookingSeat seatMap tableName .rolledBack k db).1 =
        db := by
      unfold AirlineReservation.insertBookingSeat
      split
      · rfl
      · split <;> rfl
    unfold AirlineReservation.insertBookingLoop
    split
    · next db' heq =>
      rw [heq] at hseat
      have hsame : db' = db := hseat
      rw [hsame]
      exact ih
    · next db' e heq =>
      rw [heq] at hseat
      exact hseat

/-- The save loop: a seat, then the seats after it. Every position is visited once, so
that one function gives the outcomes of all of them. -/
theorem refines_insertBookingLoop (seats : List (ℤ × ℤ)) (hnodup : seats.Nodup) :
    Refines (insertBookingLoop seatMap tableName seats) x fun outcome =>
      AirlineReservation.insertBookingLoop seatMap tableName outcome seats x := by
  induction seats generalizing x with
  | nil => exact Refines.pure (fun _ => .committed) rfl
  | cons k rest ih =>
    obtain ⟨hfresh, hrest⟩ := List.nodup_cons.mp hnodup
    have hboth := (refines_insertBookingSeat (x := x) seatMap tableName k).bind
      (f := fun _ => insertBookingLoop seatMap tableName rest)
      (g := fun _ x' outcome =>
        AirlineReservation.insertBookingLoop seatMap tableName outcome rest x')
      (fun _ x' => ⟨_, insertBookingLoop_rolledBack seatMap tableName rest x'⟩)
      fun _ _ x' _ => ih hrest
    refine hboth.rename (fun o => Function.update o.2 k o.1) ?_
    intro o
    obtain ⟨first, later⟩ := o
    have hlater : ∀ k' ∈ rest, Function.update later k first k' = later k' := by
      intro k' hk'
      have hne : k' ≠ k := fun heq => hfresh (heq ▸ hk')
      rw [Function.update_of_ne hne]
    rw [AirlineReservation.insertBookingLoop, Function.update_self]
    cases AirlineReservation.insertBookingSeat seatMap tableName first k x with
    | mk x' result =>
      cases result with
      | ok _ => exact insertBookingLoop_congr seatMap tableName hlater x'
      | error e => rfl

theorem refines_insertBookingData :
    Refines (insertBookingData seatMap tableName) x fun outcome =>
      AirlineReservation.insertBookingData seatMap x tableName outcome :=
  refines_insertBookingLoop seatMap tableName seatMap.seats (nodup_seats seatMap)

end Save

/-- Every exception of a delete is caught, so that only a kill stops it. -/
theorem ends_deleteBookingData (tableName : String) (row col : ℤ)
    (h : engine.store = ⟨x, none⟩) :
    Ends (deleteBookingData tableName row col) engine
      (fun _ e => ∃ raises, e.store =
        ⟨AirlineReservation.deleteBookingData x tableName row col raises, none⟩)
      (fun stop e => e.store = ⟨x, none⟩ ∧ stop = .killed) := by
  have hquiet : ∀ stop e, Quiet ⟨x, none⟩ stop e → Quiet ⟨x, none⟩ stop e :=
    fun _ _ hquiet => hquiet
  refine ends_caught ?_ fun e he => ⟨true, he⟩
  refine (ends_prepare _ h).bind ?_
  intro query engine₁ hpre
  obtain ⟨h₁, rfl, _⟩ := hpre
  refine ends_bind_then h₁ hquiet ?_
  intro engine₂ h₂
  refine ends_bind_then h₂ hquiet ?_
  intro engine₃ h₃
  refine ((ends_exec ⟨rfl, rfl⟩ h₃ ?_).mono (fun _ _ hfound => hfound)
    fun _ _ hfailed => hfailed.quiet).bind ?_
  · intro first rest db hrun
    obtain ⟨_, _, hreturn⟩ := exists_of_bind_ok (x := x.deleteSeat tableName row col) hrun
    exact absurd (Prod.mk.inj (Except.ok.inj hreturn)).1 (by simp)
  · intro _ engine₄ hfound
    obtain ⟨db, hrun, h₄⟩ := hfound
    obtain ⟨y, hdelete, hreturn⟩ := exists_of_bind_ok (x := x.deleteSeat tableName row col) hrun
    obtain ⟨_, rfl⟩ := Prod.mk.inj (Except.ok.inj hreturn)
    refine Ends.pure ⟨false, ?_⟩
    rw [h₄]
    simp [Store.write, AirlineReservation.deleteBookingData, hdelete]

theorem refines_deleteBookingData (tableName : String) (row col : ℤ) :
    Refines (deleteBookingData tableName row col) x fun raises =>
      (AirlineReservation.deleteBookingData x tableName row col raises, .ok ()) := by
  intro engine hstore
  refine (ends_deleteBookingData tableName row col hstore).mono ?_ ?_
  · intro _ e hdeleted
    obtain ⟨raises, hstored⟩ := hdeleted
    exact ⟨by rw [hstored], raises, by rw [hstored]⟩
  · intro stop e hkilled
    obtain ⟨hstored, rfl⟩ := hkilled
    refine ⟨true, ?_, fun hne => absurd rfl hne⟩
    rw [hstored]
    rfl

end AirlineReservation.Statements
