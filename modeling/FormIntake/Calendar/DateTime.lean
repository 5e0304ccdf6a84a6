import FormIntake.Calendar.Zone

/-! # Date-times

A date-time is what a wall clock shows, together with the place where it does.  The wall clock is counted
in microseconds since the start of year one, its distance from universal time in microseconds east;
`DateTime.instant` is the moment that both denote.

In a zone the distance changes with what the wall clock shows.  Adding a duration adds it to the wall
clock, so that the instant moves by the duration only where the distance stays (`instant_advance`), and
may even go back where the clock is put forward.  A time that is read from a text is at a fixed distance;
one of a zone is what a clock may be started with or set to.
-/

namespace FormIntake.Calendar

/-- What a wall clock is set by: a distance from universal time, in microseconds east, or the clocks of a
zone. -/
inductive Place where
  | fixed (offset : Int)
  | within (zone : Zone)
  deriving DecidableEq, Repr

namespace Place

/-- Microseconds that a wall clock is ahead of universal time when it shows a time, which it may do for
the second time. -/
def offset (place : Place) (wall : Nat) (again : Bool) : Int :=
  match place with
  | .fixed offset => offset
  | .within zone => (zone.clockOn again wall).offset * second

/-- The distance from universal time is always the same. -/
def IsSteady (place : Place) : Prop :=
  ∀ wall again wall' again', place.offset wall again = place.offset wall' again'

theorem isSteady_fixed (offset : Int) : (fixed offset).IsSteady := fun _ _ _ _ => rfl

end Place

structure DateTime where
  /-- Microseconds on the wall clock since the start of year one. -/
  wall : Nat
  place : Place
  /-- Whether the wall clock shows this for the second time, having been put back. -/
  again : Bool := false
  deriving DecidableEq, Repr

namespace DateTime

/-- Microseconds that the wall clock is ahead of universal time. -/
def offset (t : DateTime) : Int := t.place.offset t.wall t.again

/-- The moment in microseconds of universal time since the start of year one. -/
def instant (t : DateTime) : Int := t.wall - t.offset

theorem offset_eq_of_isSteady {t u : DateTime} (h : t.place.IsSteady) (hplace : u.place = t.place) :
    u.offset = t.offset := by
  rw [offset, offset, hplace]
  exact h _ _ _ _

/-- A time at a fixed distance from universal time. -/
def ahead (offset : Int) (wall : Nat) : DateTime := { wall, place := .fixed offset }

/-- A time of universal time. -/
def utc (wall : Nat) : DateTime := .ahead 0 wall

/-- The time of a wall clock that shows valid fields. -/
def ofWallTime? (w : WallTime) (offset : Int) : Option DateTime :=
  if w.isValid then some (.ahead offset w.toMicros) else none

/-- What the wall clock shows. -/
def wallTime (t : DateTime) : WallTime := WallTime.ofMicros t.wall

/-- The time at the same place when its wall clock shows a duration more; none after the end of the
calendar. -/
def advance? (t : DateTime) (micros : Nat) : Option DateTime :=
  if t.wall + micros < endOfTime then some { wall := t.wall + micros, place := t.place } else none

theorem advance?_eq_some_iff {t u : DateTime} {micros : Nat} :
    t.advance? micros = some u ↔
      t.wall + micros < endOfTime ∧ { wall := t.wall + micros, place := t.place } = u := by
  unfold advance?
  split
  · next h => rw [and_iff_right h, Option.some.injEq]
  · next h => exact iff_of_false (by rintro ⟨⟩) fun hu => h hu.1

/-- The same moment on a clock at another distance; none outside the calendar. -/
def atOffset? (t : DateTime) (offset : Int) : Option DateTime :=
  let wall := t.instant + offset
  if 0 ≤ wall && wall < endOfTime then some (.ahead offset wall.toNat) else none

/-- Microseconds since the start of 1970. -/
def sinceEpoch (t : DateTime) : Int := t.instant - epoch

/-- Earlier as a moment. -/
def before (t u : DateTime) : Bool := t.instant < u.instant

/-- A date-time on the clock of a zone, with the clock's name; none outside the calendar.  One that is in
the zone already stays as it is, also where it is left out there. -/
def inZone? (t : DateTime) (zone : Zone) : Option (DateTime × String) :=
  if t.place = .within zone then some (t, (zone.clockOn t.again t.wall).name)
  else
    let kind := zone.clockAt t.sinceEpoch
    (t.atOffset? (kind.offset * second)).map fun u => (u, kind.name)

end DateTime

/-- The start of 2024 in universal time, where a clock starts that is given no other time. -/
def startOf2024 : DateTime := .utc (Date.toDay ⟨2024, 1, 1⟩ * microsPerDay)

end FormIntake.Calendar
