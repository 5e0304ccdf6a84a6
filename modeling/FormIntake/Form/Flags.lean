/-! # Visibility flags

Which elements are hidden.  `Flags.isHidden` is the view; setting a flag changes it for one id and
leaves it for all others (`isHidden_set`).
-/

namespace FormIntake

/-- The ids of the hidden elements. -/
structure Flags where
  hidden : List Int := []
  deriving DecidableEq, Repr

namespace Flags

/-- Nothing is hidden. -/
def visible : Flags := {}

def isHidden (flags : Flags) (id : Int) : Bool := flags.hidden.contains id

/-- The flags with that of one element set. -/
def set (flags : Flags) (id : Int) (hidden : Bool) : Flags :=
  if hidden then { hidden := if flags.isHidden id then flags.hidden else id :: flags.hidden }
  else { hidden := flags.hidden.filter (· ≠ id) }

theorem isHidden_set (flags : Flags) (id other : Int) (hidden : Bool) :
    (flags.set id hidden).isHidden other = if other = id then hidden else flags.isHidden other := by
  cases hidden <;> grind [set, isHidden]

/-- Setting a flag to what it is changes nothing. -/
@[simp] theorem set_isHidden (flags : Flags) (id : Int) :
    flags.set id (flags.isHidden id) = flags := by
  cases h : flags.isHidden id with
  | true => simp [set, h]
  | false =>
      have hf : flags.hidden.filter (· ≠ id) = flags.hidden := by
        rw [List.filter_eq_self]
        intro other ho
        have hid : id ∉ flags.hidden := by simpa [isHidden] using h
        have hne : other ≠ id := fun he => hid (he ▸ ho)
        simpa using hne
      simp only [set, Bool.false_eq_true, if_false, hf]

end Flags
end FormIntake
