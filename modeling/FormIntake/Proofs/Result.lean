import Mathlib.Data.List.Forall2
import FormIntake.Failure

/-! # Results

What a chain of operations that can fail gives, read off from what its parts give.

`FailsWhen condition result` says exactly when an operation fails, and that it then does so for a value
that cannot be read.  Such statements go through from the parts of a chain to the whole
(`FailsWhen.map`, `FailsWhen.bind`, `FailsWhen.mapM`). -/

namespace FormIntake

variable {ε α β : Type}

/-! ### Results of two operations -/

section result

variable {result : Except ε α}

theorem exists_of_bind_eq_ok {next : α → Except ε β} {b : β} (h : result >>= next = .ok b) :
    ∃ a, result = .ok a ∧ next a = .ok b := by
  cases result with
  | error failure => cases h
  | ok a => exact ⟨a, rfl, h⟩

theorem exists_of_map_eq_ok {f : α → β} {b : β} (h : result.map f = .ok b) :
    ∃ a, result = .ok a ∧ f a = b := by
  cases result with
  | error failure => cases h
  | ok a =>
      cases h
      exact ⟨a, rfl, rfl⟩

theorem map_eq_error_iff {f : α → β} {failure : ε} :
    f <$> result = .error failure ↔ result = .error failure := by
  cases result <;> simp [Functor.map, Except.map]

theorem toOption_eq_some_iff {a : α} : result.toOption = some a ↔ result = .ok a := by
  cases result <;> simp [Except.toOption]

/-- Whether an operation gives a certain result can be decided, even if failures cannot be told
apart. -/
instance decidableEqOk [DecidableEq α] (a : α) : Decidable (result = .ok a) :=
  decidable_of_iff (result.toOption = some a) toOption_eq_some_iff

end result

/-! ### Results of many operations -/

/-- Operations on all entries of a list succeed if each of them succeeds. -/
theorem mapM_eq_ok_iff {f : α → Except ε β} {as : List α} {bs : List β} :
    as.mapM f = .ok bs ↔ List.Forall₂ (fun a b => f a = .ok b) as bs := by
  induction as generalizing bs with
  | nil => cases bs <;> simp [pure, Except.pure]
  | cons a as ih =>
      rw [List.mapM_cons, List.forall₂_cons_left_iff]
      cases ha : f a with
      | error failure => simp [bind, Except.bind]
      | ok b =>
          cases has : as.mapM f with
          | error failure => simp [bind, Except.bind, ← ih, has]
          | ok rest =>
              simp [bind, Except.bind, pure, Except.pure, ← ih, has, eq_comm]

theorem exists_mapM_eq_ok {f : α → Except ε β} :
    ∀ {as : List α}, (∀ a ∈ as, ∃ b, f a = .ok b) → ∃ bs, as.mapM f = .ok bs
  | [], _ => ⟨[], rfl⟩
  | a :: as, h => by
    obtain ⟨⟨b, hb⟩, has⟩ := List.forall_mem_cons.mp h
    obtain ⟨bs, hbs⟩ := exists_mapM_eq_ok has
    rw [List.mapM_cons, hb, hbs]
    exact ⟨b :: bs, rfl⟩

/-- Operations on the entries of a list fail as the first of them does that fails. -/
theorem exists_split_of_mapM_eq_error {f : α → Except ε β} {failure : ε} :
    ∀ {as : List α}, as.mapM f = .error failure → ∃ before a after, as = before ++ a :: after ∧
      (∀ other ∈ before, ∃ b, f other = .ok b) ∧ f a = .error failure
  | [], h => by cases h
  | a :: as, h => by
    rw [List.mapM_cons] at h
    cases ha : f a with
    | error first =>
        rw [ha] at h
        cases h
        exact ⟨[], a, as, rfl, List.forall_mem_nil _, ha⟩
    | ok b =>
        cases has : as.mapM f with
        | ok bs =>
            rw [ha, has] at h
            cases h
        | error later =>
            rw [ha, has] at h
            cases h
            obtain ⟨before, other, after, rfl, hbefore, hother⟩ := exists_split_of_mapM_eq_error has
            exact ⟨a :: before, other, after, rfl, List.forall_mem_cons.mpr ⟨⟨b, ha⟩, hbefore⟩, hother⟩

/-- A list has at most one first entry of which something does not hold. -/
theorem eq_of_append_cons_eq {P : α → Prop} {before before' after after' : List α} {a a' : α}
    (h : before ++ a :: after = before' ++ a' :: after') (hbefore : ∀ b ∈ before, P b) (ha : ¬ P a)
    (hbefore' : ∀ b ∈ before', P b) (ha' : ¬ P a') : a = a' := by
  classical
  have hfirst : ∀ {before after : List α} {a : α}, (∀ b ∈ before, P b) → ¬ P a →
      (before ++ a :: after).find? (fun b => ¬ P b) = some a := fun hb hn =>
    List.find?_eq_some_iff_append.mpr ⟨decide_eq_true hn, _, _, rfl, by simpa using hb⟩
  exact Option.some.inj ((hfirst hbefore ha).symm.trans (h ▸ hfirst hbefore' ha'))

/-- Everything in a list has its counterpart in the other. -/
theorem exists_of_forall₂ {R : α → β → Prop} {as : List α} {bs : List β} (h : List.Forall₂ R as bs) :
    ∀ a ∈ as, ∃ b ∈ bs, R a b := by
  induction h with
  | nil => exact List.forall_mem_nil _
  | @cons a b as bs hab _ ih =>
      refine List.forall_mem_cons.mpr ⟨⟨b, List.mem_cons_self, hab⟩, fun other ho => ?_⟩
      obtain ⟨made, hm, hr⟩ := ih other ho
      exact ⟨made, List.mem_cons_of_mem _ hm, hr⟩

/-! ### Operations that fail under a condition -/

/-- The operation fails just when the condition holds, and then for a value that cannot be read. -/
inductive FailsWhen (condition : Prop) : Except Failure α → Prop
  | ok {a : α} (h : ¬ condition) : FailsWhen condition (.ok a)
  | error {failure : Failure} (h : condition) (kind : failure.kindName = "ValueError") :
    FailsWhen condition (.error failure)

namespace FailsWhen

variable {P Q : Prop} {result : Except Failure α}

theorem exists_ok (h : FailsWhen P result) (hn : ¬ P) : ∃ a, result = .ok a := by
  cases h with
  | ok _ => exact ⟨_, rfl⟩
  | error hp _ => exact absurd hp hn

theorem not_of_eq_ok (h : FailsWhen P result) {a : α} (hr : result = .ok a) : ¬ P := by
  rw [hr] at h
  cases h with
  | ok hn => exact hn

theorem congr (h : FailsWhen P result) (hiff : P ↔ Q) : FailsWhen Q result := propext hiff ▸ h

theorem map (h : FailsWhen P result) (f : α → β) : FailsWhen P (result.map f) := by
  cases h with
  | ok hn => exact .ok hn
  | error hp kind => exact .error hp kind

/-- What comes after can fail only after a success. -/
theorem bind (h : FailsWhen P result) {next : α → Except Failure β}
    (hnext : ∀ a, result = .ok a → FailsWhen Q (next a)) (hpq : P → Q) :
    FailsWhen Q (result >>= next) := by
  cases h with
  | ok _ => exact hnext _ rfl
  | error hp kind => exact .error (hpq hp) kind

theorem mapM {condition : α → Prop} {f : α → Except Failure β} :
    ∀ {as : List α}, (∀ a ∈ as, FailsWhen (condition a) (f a)) →
      FailsWhen (∃ a ∈ as, condition a) (as.mapM f)
  | [], _ => .ok (by simp)
  | a :: as, h => by
    obtain ⟨ha, has⟩ := List.forall_mem_cons.mp h
    rw [List.mapM_cons]
    refine ha.bind (fun b hb => ?_) fun hc => ⟨a, List.mem_cons_self, hc⟩
    exact ((mapM has).map (b :: ·)).congr (by simp [ha.not_of_eq_ok hb])

end FailsWhen
end FormIntake
