import AirlineReservation.JsonLoading
import AirlineReservation.Library.Run

/-!
A load from JSON that throws. The six conversions are written straight into the
members, so those before the first that fails hold what the document says, and
the failing one and all after it hold what they held.
-/

namespace AirlineReservation.SeatMap

open Run

section Members

variable {J : Type} (lib : JsonLibrary J) (data : J)

/-- The assignments of `LoadFromJSON` in order: the member is replaced by the
converted value, unless the conversion throws. -/
def conversions : List (Except Fault (SeatMap → SeatMap)) :=
  [(lib.field data "rows" >>= lib.toInt).map fun v s => { s with rows := v },
    (lib.field data "cols" >>= lib.toInt).map fun v s => { s with cols := v },
    (lib.field data "seatMap" >>= lib.toGrid lib.toBool).map fun v s => { s with seatMap := v },
    (lib.field data "passengerMap" >>= lib.toGrid lib.toText).map
      fun v s => { s with passengerMap := v },
    (lib.field data "emailMap" >>= lib.toGrid lib.toText).map
      fun v s => { s with emailMap := v },
    (lib.field data "maxLoadMap" >>= lib.toGrid lib.toText).map
      fun v s => { s with maxLoadMap := v }]

theorem assignMember_cons {α : Type} (value : Except Fault α) (member : SeatMap → α → SeatMap)
    (next : ExceptT Fault (StateM SeatMap) Unit) (rest : List (Except Fault (SeatMap → SeatMap)))
    (h : ∀ s, next.run.run s = applyInOrder rest s) (s : SeatMap) :
    (assignMember value member >>= fun _ => next).run.run s =
      applyInOrder ((value.map fun v s => member s v) :: rest) s := by
  cases value with
  | error e => rfl
  | ok v => exact h (member s v)

theorem assignMember_last {α : Type} (value : Except Fault α) (member : SeatMap → α → SeatMap)
    (s : SeatMap) :
    (assignMember value member).run.run s =
      applyInOrder [value.map fun v s => member s v] s := by
  cases value with
  | error e => rfl
  | ok v => rfl

theorem assignMembers_eq (s : SeatMap) :
    (assignMembers lib data).run.run s = applyInOrder (conversions lib data) s := by
  unfold assignMembers conversions
  apply assignMember_cons
  intro s
  apply assignMember_cons
  intro s
  apply assignMember_cons
  intro s
  apply assignMember_cons
  intro s
  apply assignMember_cons
  intro s
  apply assignMember_last

end Members

/-- What is left in the seat map when `LoadFromJSON` throws: nothing has changed
if the text does not parse, else the members before the first failing conversion
have been replaced, each by its own assignment, and no other. -/
theorem loadFromJSON_error_iff {J : Type} (lib : JsonLibrary J) (s s' : SeatMap)
    (file : Option (Except Fault J)) (e : Fault) :
    s.loadFromJSON lib file = (.error e, s') ↔
      (file = some (.error e) ∧ s' = s) ∨
      ∃ (data : J) (assigned : List (SeatMap → SeatMap))
          (rest : List (Except Fault (SeatMap → SeatMap))), file = some (.ok data) ∧
        conversions lib data = assigned.map .ok ++ .error e :: rest ∧
        s' = assigned.foldl (fun s update => update s) s := by
  match file with
  | none => simp [loadFromJSON]
  | some (.error e') =>
    simp only [loadFromJSON, Prod.mk.injEq, Except.error.injEq, Option.some.injEq, reduceCtorEq,
      false_and, exists_false, or_false]
    exact and_congr Iff.rfl eq_comm
  | some (.ok data) =>
    rw [loadFromJSON, assignMembers_eq, applyInOrder_error_iff]
    simp

/-- A document without the number of columns has set the number of rows when the
conversion of the missing member throws. -/
theorem rows_set_before_exception :
    (vacant 1 1).loadFromJSON wholeJson (some (.ok (.object [("rows", .number 5)]))) =
      (.error .jsonException, { vacant 1 1 with rows := 5 }) ∧
    { vacant 1 1 with rows := 5 } ≠ vacant 1 1 :=
  ⟨rfl, by decide⟩

end AirlineReservation.SeatMap
