import FormIntake.Calendar.Bound
import FormIntake.Proofs.Calendar.Dates
import FormIntake.Proofs.Number.Digits

/-! # The texts of schedule bounds

A time to the second, written with four digits for the year and two for each other part, is read as that
time (`parseBound_text`): each reader of a part comes to the two digits on its first way (`Bound.head?_day`
and its like).

Whatever else is read as a time is six runs of digits, with `-`, `-`, blanks, `:` and `:` between them,
that stand for the parts of this time (`of_parseBound`): every way of every reader reads such a run
(`Bound.Reads`).  Only a day of one digit may have a space in front of it. -/

namespace FormIntake

open Number

namespace Text

/-! ### Runs of digits -/

/-- A run of decimal digits, of any script, stands for a number. -/
def Spells (run : List Char) (n : Nat) : Prop :=
  ∃ values, run.map digitValue? = values.map some ∧ ofDigits 10 values = n

theorem spells_singleton {c : Char} {d : Nat} (h : digitValue? c = some d) : Spells [c] d :=
  ⟨[d], by simp [h], by simp [ofDigits]⟩

theorem Spells.append {run more : List Char} {n m : Nat} (h : Spells run n) (hm : Spells more m) :
    Spells (run ++ more) (10 ^ more.length * n + m) := by
  obtain ⟨values, hv, rfl⟩ := h
  obtain ⟨others, ho, rfl⟩ := hm
  have hl : more.length = others.length := by simpa using congrArg List.length ho
  refine ⟨values ++ others, ?_, ?_⟩
  · rw [List.map_append, List.map_append, hv, ho]
  · rw [ofDigits_append, hl, Nat.mul_comm]

theorem digitValue?_of_ascii {c : Char} (hlow : '0' ≤ c) (hhigh : c ≤ '9') :
    digitValue? c = some (c.toNat - 48) := by
  have hl : 48 ≤ c.toNat := hlow
  have hh : c.toNat ≤ 57 := hhigh
  have hzero : decimalZeros.find? (fun z => decide (z ≤ c.toNat) && decide (c.toNat < z + 10)) =
      some 48 := by
    refine List.find?_cons_of_pos ?_
    simp only [Bool.and_eq_true, decide_eq_true_eq]
    omega
  rw [digitValue?, hzero, Option.map_some]

end Text

namespace Calendar

namespace Bound

open Text

/-! ### What readers read -/

/-- Whatever way a reader goes, it reads a run of digits, of one of some lengths, for its number. -/
def Reads (lengths : List Nat) (reader : Ways Nat) : Prop :=
  ∀ ⦃text : List Char⦄ ⦃n : Nat⦄ ⦃rest : List Char⦄, (n, rest) ∈ reader text →
    ∃ run, text = run ++ rest ∧ run.length ∈ lengths ∧ Spells run n

theorem reads_digitFrom {low high : Char} (hl : '0' ≤ low) (hh : high ≤ '9') :
    Reads [1] (digitFrom low high) := by
  intro text n rest h
  cases text with
  | nil => cases h
  | cons c text =>
      rw [digitFrom] at h
      split at h
      · next hc =>
        rw [Bool.and_eq_true, decide_eq_true_eq, decide_eq_true_eq] at hc
        cases List.mem_singleton.mp h
        exact ⟨[c], rfl, List.mem_singleton_self 1,
          spells_singleton (digitValue?_of_ascii (Char.le_trans hl hc.1) (Char.le_trans hc.2 hh))⟩
      · cases h

theorem reads_anyDigit : Reads [1] anyDigit := by
  intro text n rest h
  cases text with
  | nil => cases h
  | cons c text =>
      rw [anyDigit] at h
      split at h
      · next d hd =>
        cases List.mem_singleton.mp h
        exact ⟨[c], rfl, List.mem_singleton_self 1, spells_singleton hd⟩
      · cases h

/-- Two readers in a row read the two runs in a row. -/
theorem Reads.append {first next : Ways Nat} {k m shift : Nat} (hf : Reads [k] first)
    (hn : Reads [m] next) (hshift : shift = 10 ^ m) :
    Reads [k + m] fun text => (first text).flatMap fun (a, rest) =>
      (next rest).map fun (b, rest) => (shift * a + b, rest) := by
  intro text n rest h
  obtain ⟨⟨a, middle⟩, ha, h⟩ := List.mem_flatMap.mp h
  obtain ⟨⟨b, after⟩, hb, he⟩ := List.mem_map.mp h
  cases he
  obtain ⟨run, rfl, hr, hs⟩ := hf ha
  obtain ⟨more, rfl, hm, ht⟩ := hn hb
  have hrun : run.length = k := List.mem_singleton.mp hr
  have hmore : more.length = m := List.mem_singleton.mp hm
  refine ⟨run ++ more, (List.append_assoc run more _).symm, ?_, ?_⟩
  · simp [hrun, hmore]
  · rw [hshift, ← hmore]
    exact hs.append ht

theorem Reads.two {first next : Ways Nat} (hf : Reads [1] first) (hn : Reads [1] next) :
    Reads [2] (two first next) := hf.append hn rfl

theorem reads_year : Reads [4] year :=
  (reads_anyDigit.two reads_anyDigit).append (reads_anyDigit.two reads_anyDigit) rfl

theorem Reads.mono {lengths more : List Nat} {reader : Ways Nat} (h : Reads lengths reader)
    (hl : lengths ⊆ more) : Reads more reader := by
  intro text n rest hw
  obtain ⟨run, ht, hr, hs⟩ := h hw
  exact ⟨run, ht, hl hr, hs⟩

theorem reads_oneOf {lengths : List Nat} {readers : List (Ways Nat)}
    (h : ∀ reader ∈ readers, Reads lengths reader) : Reads lengths (oneOf readers) := by
  intro text n rest hw
  obtain ⟨reader, hr, hw⟩ := List.mem_flatMap.mp hw
  exact h reader hr hw

/-- A part of two digits, as one way of reading one digit or two. -/
theorem reads_pair {first next : Ways Nat} (hf : Reads [1] first) (hn : Reads [1] next) :
    Reads [1, 2] (two first next) := (hf.two hn).mono (by simp)

theorem reads_single {reader : Ways Nat} (h : Reads [1] reader) : Reads [1, 2] reader :=
  h.mono (by simp)

theorem reads_month : Reads [1, 2] month := by
  refine reads_oneOf (List.forall_mem_cons.mpr ⟨reads_pair ?_ ?_,
    List.forall_mem_cons.mpr ⟨reads_pair ?_ ?_, List.forall_mem_singleton.mpr (reads_single ?_)⟩⟩)
  all_goals exact reads_digitFrom (by decide) (by decide)

theorem reads_hour : Reads [1, 2] hour := by
  refine reads_oneOf (List.forall_mem_cons.mpr ⟨reads_pair ?_ ?_,
    List.forall_mem_cons.mpr ⟨reads_pair ?_ reads_anyDigit,
      List.forall_mem_singleton.mpr (reads_single reads_anyDigit)⟩⟩)
  all_goals exact reads_digitFrom (by decide) (by decide)

theorem reads_minute : Reads [1, 2] minute := by
  refine reads_oneOf (List.forall_mem_cons.mpr ⟨reads_pair ?_ reads_anyDigit,
    List.forall_mem_singleton.mpr (reads_single reads_anyDigit)⟩)
  exact reads_digitFrom (by decide) (by decide)

theorem reads_sec : Reads [1, 2] sec := by
  refine reads_oneOf (List.forall_mem_cons.mpr ⟨reads_pair ?_ ?_,
    List.forall_mem_cons.mpr ⟨reads_pair ?_ reads_anyDigit,
      List.forall_mem_singleton.mpr (reads_single reads_anyDigit)⟩⟩)
  all_goals exact reads_digitFrom (by decide) (by decide)

/-- One digit or two stand for a number. -/
def IsPart (shown : List Char) (n : Nat) : Prop := shown.length ∈ [1, 2] ∧ Spells shown n

/-- So do they for a day, and for a day of one digit with a space in front of it. -/
def IsDayPart (shown : List Char) (n : Nat) : Prop :=
  IsPart shown n ∨ ∃ digit, shown = [' ', digit] ∧ Spells [digit] n

theorem isDayPart_of_mem {text rest : List Char} {n : Nat} (h : (n, rest) ∈ day text) :
    ∃ shown, text = shown ++ rest ∧ IsDayPart shown n := by
  have hunspaced : Reads [1, 2] (oneOf [two (digitFrom '3' '3') (digitFrom '0' '1'),
      two (digitFrom '1' '2') anyDigit, two (digitFrom '0' '0') (digitFrom '1' '9'),
      digitFrom '1' '9']) := by
    refine reads_oneOf (List.forall_mem_cons.mpr ⟨reads_pair ?_ ?_,
      List.forall_mem_cons.mpr ⟨reads_pair ?_ reads_anyDigit,
        List.forall_mem_cons.mpr ⟨reads_pair ?_ ?_,
          List.forall_mem_singleton.mpr (reads_single ?_)⟩⟩⟩)
    all_goals exact reads_digitFrom (by decide) (by decide)
  obtain ⟨reader, hr, h⟩ := List.mem_flatMap.mp h
  rcases (List.mem_append (s := [_, _, _, _]) (t := [spacedDigit])).mp hr with hr | hr
  · obtain ⟨run, ht, hrun⟩ := hunspaced (List.mem_flatMap.mpr ⟨reader, hr, h⟩)
    exact ⟨run, ht, .inl hrun⟩
  · cases List.mem_singleton.mp hr
    unfold spacedDigit at h
    split at h
    · obtain ⟨run, rfl, hl, hs⟩ := reads_digitFrom (by decide) (by decide) h
      obtain ⟨digit, rfl⟩ := List.length_eq_one_iff.mp (List.mem_singleton.mp hl)
      exact ⟨[' ', digit], rfl, .inr ⟨digit, rfl, hs⟩⟩
    · cases h

theorem of_mem_exactly {c : Char} {u : Unit} {text rest : List Char} (h : (u, rest) ∈ exactly c text) :
    text = c :: rest := by
  cases text with
  | nil => cases h
  | cons d text =>
      rw [exactly] at h
      split at h
      · next hd =>
        cases List.mem_singleton.mp h
        rw [hd]
      · cases h

theorem of_mem_blanks {u : Unit} {text rest : List Char} (h : (u, rest) ∈ blanks text) :
    ∃ gap, text = gap ++ rest ∧ gap ≠ [] ∧ ∀ c ∈ gap, isBlank c = true := by
  induction text with
  | nil => cases h
  | cons c text ih =>
      rw [blanks] at h
      split at h
      · next hc =>
        rcases List.mem_append.mp h with h | h
        · obtain ⟨gap, rfl, -, hgap⟩ := ih h
          exact ⟨c :: gap, rfl, List.cons_ne_nil c gap, List.forall_mem_cons.mpr ⟨hc, hgap⟩⟩
        · cases List.mem_singleton.mp h
          exact ⟨[c], rfl, List.cons_ne_nil c [], List.forall_mem_singleton.mpr hc⟩
      · cases h

/-- A text is written for a time to the second: four digits for the year and one or two for each other
part, with `-`, `-`, blanks, `:` and `:` between them, and for the day what a day may be written as. -/
def IsWritten (isDay : List Char → Nat → Prop) (text : List Char) (w : WallTime) : Prop :=
  ∃ y mo d gap h mi s : List Char,
    text = y ++ '-' :: (mo ++ '-' :: (d ++ (gap ++ (h ++ ':' :: (mi ++ ':' :: s))))) ∧
    (y.length = 4 ∧ Spells y w.date.year) ∧ IsPart mo w.date.month ∧ isDay d w.date.day ∧
    (gap ≠ [] ∧ ∀ c ∈ gap, isBlank c = true) ∧ IsPart h w.hour ∧ IsPart mi w.minute ∧
    IsPart s w.second

theorem isWritten_of_mem {text : List Char} {y mo d h mi s : Nat}
    (hw : ((y, mo, d, h, mi, s), []) ∈ parts text) :
    IsWritten IsDayPart text ⟨⟨y, mo, d⟩, h, mi, s, 0⟩ := by
  obtain ⟨⟨_, _⟩, hy, hw⟩ := List.mem_flatMap.mp hw
  obtain ⟨⟨_, _⟩, hdash, hw⟩ := List.mem_flatMap.mp hw
  obtain ⟨⟨_, _⟩, hmo, hw⟩ := List.mem_flatMap.mp hw
  obtain ⟨⟨_, _⟩, hdash', hw⟩ := List.mem_flatMap.mp hw
  obtain ⟨⟨_, _⟩, hd, hw⟩ := List.mem_flatMap.mp hw
  obtain ⟨⟨_, _⟩, hgap, hw⟩ := List.mem_flatMap.mp hw
  obtain ⟨⟨_, _⟩, hh, hw⟩ := List.mem_flatMap.mp hw
  obtain ⟨⟨_, _⟩, hcolon, hw⟩ := List.mem_flatMap.mp hw
  obtain ⟨⟨_, _⟩, hmi, hw⟩ := List.mem_flatMap.mp hw
  obtain ⟨⟨_, _⟩, hcolon', hw⟩ := List.mem_flatMap.mp hw
  obtain ⟨⟨_, _⟩, hs, he⟩ := List.mem_map.mp hw
  cases he
  obtain ⟨yearRun, rfl, hyl, hys⟩ := reads_year hy
  obtain ⟨monthRun, hm, hmonth⟩ := reads_month hmo
  obtain ⟨dayText, hdt, hday⟩ := isDayPart_of_mem hd
  obtain ⟨gap, hg, hgap⟩ := of_mem_blanks hgap
  obtain ⟨hourRun, hht, hhour⟩ := reads_hour hh
  obtain ⟨minuteRun, hmt, hminute⟩ := reads_minute hmi
  obtain ⟨secRun, hst, hsec⟩ := reads_sec hs
  rw [List.append_nil] at hst
  refine ⟨yearRun, monthRun, dayText, gap, hourRun, minuteRun, secRun, ?_,
    ⟨List.mem_singleton.mp hyl, hys⟩, hmonth, hday, hgap, hhour, hminute, hsec⟩
  rw [of_mem_exactly hdash, hm, of_mem_exactly hdash', hdt, hg, hht, of_mem_exactly hcolon, hmt,
    of_mem_exactly hcolon', hst]

/-! ### The first way of reading -/

variable {α β : Type} {rest : List Char}

theorem head?_flatMap {xs : List α} {f : α → List β} {a : α} {b : β} (hx : xs.head? = some a)
    (hf : (f a).head? = some b) : (xs.flatMap f).head? = some b := by
  obtain ⟨more, rfl⟩ := List.head?_eq_some_iff.mp hx
  rw [List.flatMap_cons, List.head?_append, hf, Option.some_or]

theorem head?_map {xs : List α} {f : α → β} {a : α} (hx : xs.head? = some a) :
    (xs.map f).head? = some (f a) := by
  rw [List.head?_map, hx, Option.map_some]

theorem head?_oneOf {reader : Ways Nat} {readers : List (Ways Nat)} {text : List Char}
    {way : Nat × List Char} (h : (reader text).head? = some way) :
    (oneOf (reader :: readers) text).head? = some way := by
  rw [oneOf, List.flatMap_cons, List.head?_append, h, Option.some_or]

theorem head?_oneOf_of_nil {reader : Ways Nat} {readers : List (Ways Nat)} {text : List Char}
    {way : Nat × List Char} (hnone : reader text = [])
    (h : (oneOf readers text).head? = some way) :
    (oneOf (reader :: readers) text).head? = some way := by
  rw [oneOf, List.flatMap_cons, hnone, List.nil_append]
  exact h

theorem two_of_nil {first next : Ways Nat} {text : List Char} (h : first text = []) :
    two first next text = [] := by
  rw [two, h, List.flatMap_nil]

theorem head?_two {first next : Ways Nat} {text middle : List Char} {a b : Nat}
    (hf : (first text).head? = some (a, middle)) (hn : (next middle).head? = some (b, rest)) :
    (two first next text).head? = some (10 * a + b, rest) :=
  head?_flatMap hf (head?_map hn)

theorem digitValue?_digitChar : ∀ d < 10, digitValue? (Nat.digitChar d) = some d := by decide

theorem head?_anyDigit {d : Nat} (h : d < 10) :
    (anyDigit (Nat.digitChar d :: rest)).head? = some (d, rest) := by
  rw [anyDigit, digitValue?_digitChar d h]
  rfl

theorem head?_digitFrom (low high : Nat) {d : Nat} (hl : low ≤ d) (hd : d ≤ high) (hh : high < 10) :
    (digitFrom (Nat.digitChar low) (Nat.digitChar high) (Nat.digitChar d :: rest)).head? =
      some (d, rest) := by
  have hchars : ∀ high < 10, ∀ d ≤ high, ∀ low ≤ d, Nat.digitChar low ≤ Nat.digitChar d ∧
      Nat.digitChar d ≤ Nat.digitChar high ∧ (Nat.digitChar d).toNat - 48 = d := by decide
  obtain ⟨hlow, hhigh, hvalue⟩ := hchars high hh d hd low hl
  rw [digitFrom, hvalue, if_pos (by simp [hlow, hhigh])]
  rfl

theorem digitFrom_of_lt (low high : Nat) {d : Nat} (hl : low < 10) (hd : d < low) :
    digitFrom (Nat.digitChar low) (Nat.digitChar high) (Nat.digitChar d :: rest) = [] := by
  have hchars : ∀ low < 10, ∀ d < low, ¬ Nat.digitChar low ≤ Nat.digitChar d := by decide
  rw [digitFrom, if_neg (by simp [hchars low hl d hd])]

/-- A number of at most two digits is written as two digits. -/
theorem exists_padded_two {n : Nat} (h : n < 100) : ∃ a b, a < 10 ∧ b < 10 ∧ 10 * a + b = n ∧
    padded 2 n = [Nat.digitChar a, Nat.digitChar b] := by
  obtain ⟨values, hv, hl, hlt, hvalue⟩ := exists_digits_of_lt_pow (by decide) (by decide)
    (show n < 10 ^ 2 from h)
  match values, hl with
  | [a, b], _ =>
    refine ⟨a, b, hlt a (by simp), hlt b (by simp), ?_, hv⟩
    simpa [ofDigits, Nat.mul_comm] using hvalue

/-- A year is read from four digits. -/
theorem head?_year {n : Nat} (h : n < 10000) : (year (padded 4 n ++ rest)).head? = some (n, rest) := by
  obtain ⟨values, hv, hl, hlt, hvalue⟩ := exists_digits_of_lt_pow (by decide) (by decide)
    (show n < 10 ^ 4 from h)
  match values, hl with
  | [a, b, c, d], _ =>
    have hn : n = 100 * (10 * a + b) + (10 * c + d) := by
      simp only [ofDigits, List.foldl_cons, List.foldl_nil] at hvalue
      omega
    rw [padded, decimal, hv, hn]
    exact head?_flatMap (head?_two (head?_anyDigit (hlt a (by simp))) (head?_anyDigit (hlt b (by simp))))
      (head?_map (head?_two (head?_anyDigit (hlt c (by simp))) (head?_anyDigit (hlt d (by simp)))))

theorem head?_month {n : Nat} (hlow : 1 ≤ n) (hhigh : n ≤ 12) :
    (month (padded 2 n ++ rest)).head? = some (n, rest) := by
  obtain ⟨a, b, ha, hb, rfl, hp⟩ := exists_padded_two (show n < 100 by omega)
  rw [hp, month]
  obtain rfl | rfl : a = 1 ∨ a = 0 := by omega
  · exact head?_oneOf (head?_two (head?_digitFrom 1 1 (by omega) (by omega) (by omega))
      (head?_digitFrom 0 2 (by omega) (by omega) (by omega)))
  · refine head?_oneOf_of_nil (two_of_nil (digitFrom_of_lt 1 1 (by omega) (by omega))) ?_
    exact head?_oneOf (head?_two (head?_digitFrom 0 0 (by omega) (by omega) (by omega))
      (head?_digitFrom 1 9 (by omega) (by omega) (by omega)))

theorem head?_day {n : Nat} (hlow : 1 ≤ n) (hhigh : n ≤ 31) :
    (day (padded 2 n ++ rest)).head? = some (n, rest) := by
  obtain ⟨a, b, ha, hb, rfl, hp⟩ := exists_padded_two (show n < 100 by omega)
  rw [hp, day]
  obtain rfl | ⟨hone, htwo⟩ | rfl : a = 3 ∨ (1 ≤ a ∧ a ≤ 2) ∨ a = 0 := by omega
  · exact head?_oneOf (head?_two (head?_digitFrom 3 3 (by omega) (by omega) (by omega))
      (head?_digitFrom 0 1 (by omega) (by omega) (by omega)))
  · refine head?_oneOf_of_nil (two_of_nil (digitFrom_of_lt 3 3 (by omega) (by omega))) ?_
    exact head?_oneOf (head?_two (head?_digitFrom 1 2 hone htwo (by omega)) (head?_anyDigit hb))
  · refine head?_oneOf_of_nil (two_of_nil (digitFrom_of_lt 3 3 (by omega) (by omega))) ?_
    refine head?_oneOf_of_nil (two_of_nil (digitFrom_of_lt 1 2 (by omega) (by omega))) ?_
    exact head?_oneOf (head?_two (head?_digitFrom 0 0 (by omega) (by omega) (by omega))
      (head?_digitFrom 1 9 (by omega) (by omega) (by omega)))

theorem head?_hour {n : Nat} (h : n < 24) : (hour (padded 2 n ++ rest)).head? = some (n, rest) := by
  obtain ⟨a, b, ha, hb, rfl, hp⟩ := exists_padded_two (show n < 100 by omega)
  rw [hp, hour]
  by_cases htwo : a = 2
  · rw [htwo]
    exact head?_oneOf (head?_two (head?_digitFrom 2 2 (by omega) (by omega) (by omega))
      (head?_digitFrom 0 3 (by omega) (by omega) (by omega)))
  · refine head?_oneOf_of_nil (two_of_nil (digitFrom_of_lt 2 2 (by omega) (by omega))) ?_
    exact head?_oneOf (head?_two (head?_digitFrom 0 1 (by omega) (by omega) (by omega))
      (head?_anyDigit hb))

theorem head?_minute {n : Nat} (h : n < 60) : (minute (padded 2 n ++ rest)).head? = some (n, rest) := by
  obtain ⟨a, b, ha, hb, rfl, hp⟩ := exists_padded_two (show n < 100 by omega)
  rw [hp, minute]
  exact head?_oneOf (head?_two (head?_digitFrom 0 5 (by omega) (by omega) (by omega)) (head?_anyDigit hb))

theorem head?_sec {n : Nat} (h : n < 60) : (sec (padded 2 n ++ rest)).head? = some (n, rest) := by
  obtain ⟨a, b, ha, hb, rfl, hp⟩ := exists_padded_two (show n < 100 by omega)
  rw [hp, sec]
  refine head?_oneOf_of_nil (two_of_nil (digitFrom_of_lt 6 6 (by omega) (by omega))) ?_
  exact head?_oneOf (head?_two (head?_digitFrom 0 5 (by omega) (by omega) (by omega)) (head?_anyDigit hb))

theorem head?_exactly (c : Char) : (exactly c (c :: rest)).head? = some ((), rest) := by
  rw [exactly, if_pos rfl]
  rfl

theorem isBlank_digitChar : ∀ d < 10, isBlank (Nat.digitChar d) = false := by decide

/-- One space in front of an hour is all the blanks that there are. -/
theorem head?_blanks {n : Nat} (h : n < 24) :
    (blanks (' ' :: (padded 2 n ++ rest))).head? = some ((), padded 2 n ++ rest) := by
  obtain ⟨a, b, ha, -, -, hp⟩ := exists_padded_two (show n < 100 by omega)
  have hspace : isBlank ' ' = true := by decide
  rw [hp, blanks, if_pos hspace, List.cons_append, blanks, isBlank_digitChar a ha]
  rfl

end Bound

/-! ### Bounds of schedules -/

/-- The text of a time to the second: four digits for the year and two for all else. -/
def WallTime.text (w : WallTime) : List Char :=
  padded 4 w.date.year ++ '-' :: (padded 2 w.date.month ++ '-' :: (padded 2 w.date.day ++
    ' ' :: (padded 2 w.hour ++ ':' :: (padded 2 w.minute ++ ':' :: (padded 2 w.second ++ [])))))

theorem Date.day_le {d : Date} (h : d.isValid = true) : d.day ≤ 31 := by
  obtain ⟨-, -, hmonth, hlast, -, hday⟩ := isValid_iff.mp h
  have hlength : ∀ length ∈ monthLengths d.year, length ≤ 31 := by
    rw [monthLengths]
    cases isLeap d.year <;> decide
  refine hday.trans ?_
  rw [daysInMonth, List.getD_eq_getElem?_getD]
  cases hm : (monthLengths d.year)[d.month - 1]? with
  | none => exact Nat.zero_le 31
  | some length => exact hlength length (List.mem_of_getElem? hm)

/-- What is written for a time to the second is read as that time. -/
theorem head?_parts_text {w : WallTime} (h : w.isValid = true) : (Bound.parts w.text).head? =
    some ((w.date.year, w.date.month, w.date.day, w.hour, w.minute, w.second), []) := by
  obtain ⟨hdate, hhour, hminute, hsecond, -⟩ := WallTime.isValid_iff.mp h
  obtain ⟨-, hyear, hmonth, hlast, hday, -⟩ := Date.isValid_iff.mp hdate
  have hyear' : w.date.year < 10000 := Nat.lt_succ_of_le hyear
  unfold Bound.parts WallTime.text
  refine Bound.head?_flatMap (Bound.head?_year hyear') ?_
  refine Bound.head?_flatMap (Bound.head?_exactly '-') ?_
  refine Bound.head?_flatMap (Bound.head?_month hmonth hlast) ?_
  refine Bound.head?_flatMap (Bound.head?_exactly '-') ?_
  refine Bound.head?_flatMap (Bound.head?_day hday (Date.day_le hdate)) ?_
  refine Bound.head?_flatMap (Bound.head?_blanks hhour) ?_
  refine Bound.head?_flatMap (Bound.head?_hour hhour) ?_
  refine Bound.head?_flatMap (Bound.head?_exactly ':') ?_
  refine Bound.head?_flatMap (Bound.head?_minute hminute) ?_
  refine Bound.head?_flatMap (Bound.head?_exactly ':') ?_
  exact Bound.head?_map (Bound.head?_sec hsecond)

theorem parseBound_text {w : WallTime} (h : w.isValid = true) (hm : w.micro = 0) :
    parseBound (String.ofList w.text) = some (.utc w.toMicros) := by
  obtain ⟨more, hparts⟩ := List.head?_eq_some_iff.mp (head?_parts_text h)
  obtain ⟨⟨year, month, day⟩, hour, minute, sec, micro⟩ := w
  cases hm
  rw [parseBound, String.toList_ofList, hparts]
  exact if_pos h

theorem of_parseBound {text : String} {t : DateTime} (h : parseBound text = some t) :
    ∃ w : WallTime, w.isValid = true ∧ w.micro = 0 ∧ t = .utc w.toMicros ∧
      Bound.IsWritten Bound.IsDayPart text.toList w := by
  unfold parseBound at h
  split at h
  · next year month day hour minute sec more hparts =>
    unfold DateTime.ofWallTime? at h
    split at h
    · next hvalid =>
      cases h
      refine ⟨⟨⟨year, month, day⟩, hour, minute, sec, 0⟩, hvalid, rfl, rfl, ?_⟩
      exact Bound.isWritten_of_mem (hparts ▸ List.mem_cons_self)
    · cases h
  · cases h

end Calendar
end FormIntake
