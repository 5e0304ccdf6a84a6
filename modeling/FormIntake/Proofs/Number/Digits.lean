import Mathlib.Algebra.Order.Ring.Nat
import Mathlib.Tactic.Ring
import FormIntake.Number.Natural

/-! # Digits of a fixed width

A number that is filled up in front with zeros is made of digits that stand for it, of as many as the
width says where it has room (`exists_digits_of_lt_pow`).
Among rows of digits of one length the order of the rows is that of the numbers (`ofDigits_lt_iff`), and
the characters that they are written as are in this order as well (`map_digitChar_lt_iff`). -/

namespace FormIntake.Number

variable {base : Nat}

/-! ### Numbers of digits in a row -/

theorem foldl_eq_ofDigits (base start : Nat) (values : List Nat) :
    values.foldl (fun n d => n * base + d) start =
      start * base ^ values.length + ofDigits base values := by
  induction values generalizing start with
  | nil => simp [ofDigits]
  | cons d rest ih =>
      have hd : ofDigits base (d :: rest) = d * base ^ rest.length + ofDigits base rest := by
        have hfold := ih d
        simpa [ofDigits] using hfold
      rw [List.foldl_cons, ih, hd, List.length_cons, pow_succ]
      ring

theorem ofDigits_append (base : Nat) (values more : List Nat) :
    ofDigits base (values ++ more) = ofDigits base values * base ^ more.length + ofDigits base more := by
  rw [ofDigits, List.foldl_append, foldl_eq_ofDigits, ← ofDigits]

theorem ofDigits_cons (base d : Nat) (values : List Nat) :
    ofDigits base (d :: values) = d * base ^ values.length + ofDigits base values := by
  have hsingle : ofDigits base [d] = d := by simp [ofDigits]
  rw [← List.singleton_append, ofDigits_append, hsingle]

theorem ofDigits_replicate_zero_append (count : Nat) (values : List Nat) :
    ofDigits base (List.replicate count 0 ++ values) = ofDigits base values := by
  induction count with
  | zero => rw [List.replicate_zero, List.nil_append]
  | succ count ih => rw [List.replicate_succ, List.cons_append, ofDigits_cons, Nat.zero_mul, Nat.zero_add, ih]

theorem ofDigits_lt_pow {values : List Nat} (h : ∀ d ∈ values, d < base) :
    ofDigits base values < base ^ values.length := by
  induction values with
  | nil => simp [ofDigits]
  | cons d rest ih =>
      obtain ⟨hd, hrest⟩ := List.forall_mem_cons.mp h
      have hlt := ih hrest
      calc
        ofDigits base (d :: rest) = d * base ^ rest.length + ofDigits base rest := ofDigits_cons base d rest
        _ < (d + 1) * base ^ rest.length := by rw [Nat.succ_mul]; omega
        _ ≤ base * base ^ rest.length := Nat.mul_le_mul_right _ hd
        _ = base ^ (d :: rest).length := by rw [List.length_cons, pow_succ, Nat.mul_comm]

/-- Of two rows of digits of one length the one that comes first stands for the smaller number. -/
theorem ofDigits_lt_iff {values others : List Nat} (hl : values.length = others.length)
    (hv : ∀ d ∈ values, d < base) (ho : ∀ d ∈ others, d < base) :
    ofDigits base values < ofDigits base others ↔ values < others := by
  induction values generalizing others with
  | nil =>
      cases others with
      | nil => simp
      | cons e more => cases hl
  | cons d rest ih =>
      cases others with
      | nil => cases hl
      | cons e more =>
          have hlength : rest.length = more.length := Nat.succ.inj hl
          obtain ⟨hd, hrest⟩ := List.forall_mem_cons.mp hv
          obtain ⟨he, hmore⟩ := List.forall_mem_cons.mp ho
          have hfirst := ofDigits_lt_pow hrest
          have hsecond := ofDigits_lt_pow hmore
          rw [List.cons_lt_cons_iff, ofDigits_cons, ofDigits_cons, ← ih hlength hrest hmore, hlength]
          rw [hlength] at hfirst
          rcases Nat.lt_trichotomy d e with hlt | rfl | hgt
          · have hstep := Nat.mul_le_mul_right (base ^ more.length) (Nat.succ_le_of_lt hlt)
            rw [Nat.succ_mul] at hstep
            omega
          · omega
          · have hstep := Nat.mul_le_mul_right (base ^ more.length) (Nat.succ_le_of_lt hgt)
            rw [Nat.succ_mul] at hstep
            omega

/-! ### Numbers as they are written -/

theorem exists_toDigits (hb : 1 < base) (n : Nat) :
    ∃ values : List Nat, Nat.toDigits base n = values.map Nat.digitChar ∧
      (∀ d ∈ values, d < base) ∧ ofDigits base values = n := by
  induction n using Nat.strongRecOn with
  | ind n ih =>
      by_cases hn : n < base
      · refine ⟨[n], Nat.toDigits_of_lt_base hn, ?_, by simp [ofDigits]⟩
        simpa using hn
      · obtain ⟨values, hd, hlt, hvalue⟩ := ih (n / base) (Nat.div_lt_self (by omega) hb)
        refine ⟨values ++ [n % base], ?_, ?_, ?_⟩
        · rw [Nat.toDigits_of_base_le hb (by omega), hd, List.map_append, List.map_singleton]
        · intro d hm
          rcases List.mem_append.mp hm with hm | hm
          · exact hlt d hm
          · rw [List.mem_singleton.mp hm]
            exact Nat.mod_lt n (by omega)
        · rw [ofDigits_append_one, hvalue]
          exact Nat.div_add_mod' n base

/-- What a number is written as, zeros in front included, are digits that stand for it. -/
theorem exists_padLeft_toDigits (hb : 1 < base) (width n : Nat) :
    ∃ values : List Nat, padLeft '0' width (Nat.toDigits base n) = values.map Nat.digitChar ∧
      (∀ d ∈ values, d < base) ∧ ofDigits base values = n := by
  obtain ⟨values, hd, hlt, hvalue⟩ := exists_toDigits hb n
  refine ⟨List.replicate (width - (Nat.toDigits base n).length) 0 ++ values, ?_, ?_, ?_⟩
  · rw [padLeft, List.map_append, List.map_replicate, ← hd]
    rfl
  · intro d hm
    rcases List.mem_append.mp hm with hm | hm
    · rw [List.eq_of_mem_replicate hm]
      omega
    · exact hlt d hm
  · rw [ofDigits_replicate_zero_append, hvalue]

/-- There are as many digits as the width says, where the number has no more. -/
theorem exists_digits_of_lt_pow {width n : Nat} (hb : 1 < base) (hw : 0 < width) (h : n < base ^ width) :
    ∃ values : List Nat, padLeft '0' width (Nat.toDigits base n) = values.map Nat.digitChar ∧
      values.length = width ∧ (∀ d ∈ values, d < base) ∧ ofDigits base values = n := by
  obtain ⟨values, hd, hlt, hvalue⟩ := exists_padLeft_toDigits hb width n
  have hlength : (padLeft '0' width (Nat.toDigits base n)).length = width := by
    rw [length_padLeft]
    exact Nat.max_eq_left ((Nat.length_toDigits_le_iff hb hw).mpr h)
  rw [hd, List.length_map] at hlength
  exact ⟨values, hd, hlength, hlt, hvalue⟩

/-! ### The order of written digits -/

theorem digitChar_lt_iff : ∀ d < 16, ∀ e < 16, Nat.digitChar d < Nat.digitChar e ↔ d < e := by decide

theorem digitChar_inj : ∀ d < 16, ∀ e < 16, Nat.digitChar d = Nat.digitChar e ↔ d = e := by decide

/-- Digits are ordered as the characters that they are written as. -/
theorem map_digitChar_lt_iff {values others : List Nat} (hv : ∀ d ∈ values, d < 16)
    (ho : ∀ d ∈ others, d < 16) :
    values.map Nat.digitChar < others.map Nat.digitChar ↔ values < others := by
  induction values generalizing others with
  | nil => cases others <;> simp
  | cons d rest ih =>
      cases others with
      | nil => simp
      | cons e more =>
          obtain ⟨hd, hrest⟩ := List.forall_mem_cons.mp hv
          obtain ⟨he, hmore⟩ := List.forall_mem_cons.mp ho
          rw [List.map_cons, List.map_cons, List.cons_lt_cons_iff, List.cons_lt_cons_iff,
            digitChar_lt_iff d hd e he, digitChar_inj d hd e he, ih hrest hmore]

end FormIntake.Number
