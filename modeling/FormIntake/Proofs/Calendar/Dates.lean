import FormIntake.Calendar.DateTime

/-! # Dates and times from their counts

The fields of a time of the calendar are found again from the number of its day (`Date.ofDay_toDay`) and
of its microsecond (`WallTime.ofMicros_toMicros`). -/

namespace FormIntake.Calendar

namespace Date

/-! ### Years -/

/-- The length of a year. -/
def daysInYear (year : Nat) : Nat := if isLeap year then 366 else 365

/-- A year is found from each of its days.  Four hundred years have 146097 days, a hundred have 36524 and
four have 1461, but the last of four hundreds and the last of four years are a day longer. -/
theorem yearOfDay_daysBeforeYear {year r : Nat} (hy : 1 ≤ year) (hr : r < daysInYear year) :
    yearOfDay (daysBeforeYear year + r) = (year, r) := by
  obtain ⟨y, rfl⟩ : ∃ y, year = y + 1 := ⟨year - 1, by omega⟩
  obtain ⟨a, b, c, d, hb, hc, hd, rfl⟩ : ∃ a b c d : Nat, b < 4 ∧ c < 25 ∧ d < 4 ∧
      y = 400 * a + 100 * b + 4 * c + d :=
    ⟨y / 400, y % 400 / 100, y % 100 / 4, y % 4, by omega, by omega, by omega, by omega⟩
  have hleap : r < 365 ∨ r = 365 ∧ d = 3 ∧ (c ≠ 24 ∨ b = 3) := by
    simp only [daysInYear, isLeap, Bool.and_eq_true, Bool.or_eq_true, decide_eq_true_eq, bne_iff_ne] at hr
    split at hr <;> omega
  have hbefore : daysBeforeYear (400 * a + 100 * b + 4 * c + d + 1) =
      146097 * a + 36524 * b + 1461 * c + 365 * d := by
    simp only [daysBeforeYear]
    omega
  rw [hbefore, yearOfDay]
  have h400 : (146097 * a + 36524 * b + 1461 * c + 365 * d + r) / 146097 = a := by omega
  have hr400 : (146097 * a + 36524 * b + 1461 * c + 365 * d + r) % 146097 =
      36524 * b + 1461 * c + 365 * d + r := by omega
  rw [h400, hr400]
  have h100 : min ((36524 * b + 1461 * c + 365 * d + r) / 36524) 3 = b := by omega
  have hr100 : 36524 * b + 1461 * c + 365 * d + r - b * 36524 = 1461 * c + 365 * d + r := by omega
  rw [h100, hr100]
  have h4 : (1461 * c + 365 * d + r) / 1461 = c := by omega
  have hr4 : (1461 * c + 365 * d + r) % 1461 = 365 * d + r := by omega
  rw [h4, hr4]
  have h1 : min ((365 * d + r) / 365) 3 = d := by omega
  rw [h1]
  exact Prod.ext (by dsimp only; omega) (by dsimp only; omega)

/-! ### Months -/

theorem foldl_add_eq (start : Nat) (lengths : List Nat) :
    lengths.foldl (· + ·) start = start + lengths.foldl (· + ·) 0 := by
  induction lengths generalizing start with
  | nil => rfl
  | cons length rest ih =>
      rw [List.foldl_cons, ih, List.foldl_cons, ih (0 + length), Nat.zero_add, Nat.add_assoc]

theorem foldl_add_cons (length : Nat) (lengths : List Nat) :
    (length :: lengths).foldl (· + ·) 0 = length + lengths.foldl (· + ·) 0 := by
  rw [List.foldl_cons, foldl_add_eq, Nat.zero_add]

/-- A month is found from each of its days. -/
theorem splitMonths_take {lengths : List Nat} {month k : Nat} (hk : k < lengths.getD month 0) :
    splitMonths lengths ((lengths.take month).foldl (· + ·) 0 + k) = (month, k) := by
  induction lengths generalizing month with
  | nil => simp at hk
  | cons length rest ih =>
      cases month with
      | zero =>
          have hfirst : k < length := hk
          rw [List.take_zero, List.foldl_nil, Nat.zero_add, splitMonths, if_pos hfirst]
      | succ month =>
          rw [List.take_succ_cons, foldl_add_cons, Nat.add_assoc, splitMonths,
            if_neg (Nat.not_lt.mpr (Nat.le_add_right _ _)), Nat.add_sub_cancel_left, ih hk]

theorem foldl_take_add_getD_le (lengths : List Nat) (month : Nat) :
    (lengths.take month).foldl (· + ·) 0 + lengths.getD month 0 ≤ lengths.foldl (· + ·) 0 := by
  induction lengths generalizing month with
  | nil => simp
  | cons length rest ih =>
      rw [foldl_add_cons]
      cases month with
      | zero => simp
      | succ month =>
          rw [List.take_succ_cons, foldl_add_cons, List.getD_cons_succ, Nat.add_assoc]
          exact Nat.add_le_add_left (ih month) length

theorem foldl_monthLengths (year : Nat) : (monthLengths year).foldl (· + ·) 0 = daysInYear year := by
  rw [monthLengths, daysInYear]
  cases isLeap year <;> rfl

/-! ### Dates -/

theorem isValid_iff {d : Date} : d.isValid = true ↔ 1 ≤ d.year ∧ d.year ≤ maxYear ∧ 1 ≤ d.month ∧
    d.month ≤ 12 ∧ 1 ≤ d.day ∧ d.day ≤ daysInMonth d.year d.month := by
  simp [isValid, and_assoc]

/-- A date is found from the number of its day. -/
theorem ofDay_toDay {d : Date} (h : d.isValid = true) : ofDay d.toDay = d := by
  obtain ⟨hyear, -, hmonth, -, hday, hlast⟩ := isValid_iff.mp h
  have hk : d.day - 1 < (monthLengths d.year).getD (d.month - 1) 0 := by
    rw [daysInMonth] at hlast
    omega
  have hr : daysBeforeMonth d.year d.month + (d.day - 1) < daysInYear d.year := by
    have hle := foldl_take_add_getD_le (monthLengths d.year) (d.month - 1)
    rw [foldl_monthLengths] at hle
    rw [daysBeforeMonth]
    omega
  rw [toDay, Nat.add_assoc, ofDay, yearOfDay_daysBeforeYear hyear hr]
  dsimp only
  rw [daysBeforeMonth, splitMonths_take hk]
  dsimp only
  rw [Nat.sub_add_cancel hmonth, Nat.sub_add_cancel hday]

end Date

namespace WallTime

theorem isValid_iff {w : WallTime} : w.isValid = true ↔ w.date.isValid = true ∧ w.hour < 24 ∧
    w.minute < 60 ∧ w.second < 60 ∧ w.micro < 1000000 := by
  simp [isValid, and_assoc]

/-- The fields of a time are found from the number of its microsecond. -/
theorem ofMicros_toMicros {w : WallTime} (h : w.isValid = true) : ofMicros w.toMicros = w := by
  obtain ⟨hdate, hhour, hminute, hsecond, hmicro⟩ := isValid_iff.mp h
  have hday := Date.ofDay_toDay hdate
  obtain ⟨date, hour, minute, sec, micro⟩ := w
  dsimp only at hday hhour hminute hsecond hmicro
  simp only [ofMicros, toMicros, microsPerDay, Calendar.second, mk.injEq]
  refine ⟨?_, by omega, by omega, by omega, by omega⟩
  have hcount : ((((date.toDay * 24 + hour) * 60 + minute) * 60 + sec) * 1000000 + micro) /
      (86400 * 1000000) = date.toDay := by omega
  rw [hcount, hday]

end WallTime

end FormIntake.Calendar
