import FormIntake.Form.Standard
import FormIntake.Proofs.Result

/-! # What standard validators refuse

A definition gives any values as options to its validators.  `Check.Refused` lists what can be wrong with
them, with what is reported then; the standard validators cannot be made for these reasons and no others
(`build_standard_eq_error_iff`).  One that was made fails over a value just where it is to write a limit
that is too long (`says_eq_error_iff`). -/

namespace FormIntake

open Definition Number

/-! ### Limits -/

variable {support : Pattern.Support} {check : Check} {failure : Failure}

theorem exists_of_patternValidator {options : Options} {own : Option String} {validator : Validator}
    (h : patternValidator support options own = .ok validator) :
    ∃ message test, validator = .ofTest message test := by
  unfold patternValidator at h
  split at h
  · cases h
  · split at h
    · cases h
    · split at h
      all_goals cases h
      exact ⟨_, _, rfl⟩

/-- Which validator a definition asks for. -/
theorem build_standard (check : Check) : (Registry.standardOn support).build check =
    if check.type = "email" then emailValidator check.options check.message
    else if check.type = "length" then lengthValidator check.options check.message
    else if check.type = "regex" then patternValidator support check.options check.message
    else if check.type = "digits" then digitsValidator check.options check.message
    else .error (.unknownValidator check.type Registry.standard.names) := by
  rw [Registry.build]
  by_cases he : check.type = "email"
  · rw [if_pos he, he]
    rfl
  by_cases hl : check.type = "length"
  · rw [if_neg he, if_pos hl, hl]
    rfl
  by_cases hr : check.type = "regex"
  · rw [if_neg he, if_neg hl, if_pos hr, hr]
    rfl
  by_cases hd : check.type = "digits"
  · rw [if_neg he, if_neg hl, if_neg hr, if_pos hd, hd]
    rfl
  have hnone : List.lookup check.type (Registry.standardOn support) = none := by
    simp [Registry.standardOn, List.lookup_eq_none_iff, he, hl, hr, hd]
  rw [if_neg he, if_neg hl, if_neg hr, if_neg hd, hnone, ← Registry.names_standardOn support]

/-- A value is beyond a limit of its length that is too long to be written, and there is no other
message. -/
inductive Definition.Check.FailsOver (check : Check) (value : FieldValue) : Prop
  | short {least : Int} (htype : check.type = "length") (hown : messageOr check.message "" = "")
    (hmin : readLimit ((check.options.lookup "min").getD (.int 0)) = .ok least)
    (hshort : value.joined.length < least) (h : isWritable least = false) : FailsOver check value
  | long {least limit : Int} {v : Value} (htype : check.type = "length")
    (hown : messageOr check.message "" = "")
    (hmin : readLimit ((check.options.lookup "min").getD (.int 0)) = .ok least)
    (hfits : least ≤ value.joined.length) (hmax : check.options.lookup "max" = some v)
    (hnull : v ≠ .null) (hlimit : readLimit v = .ok limit) (hlong : limit < value.joined.length)
    (h : isWritable limit = false) : FailsOver check value

theorem limitMessage_eq_error_iff {own : Option String} {bound : String} {limit : Int} :
    limitMessage own bound limit = .error failure ↔
      messageOr own "" = "" ∧ isWritable limit = false ∧ .unwritableNumber = failure := by
  unfold limitMessage
  split
  · next h =>
    rw [Bool.and_eq_true, decide_eq_true_eq, Bool.not_eq_true'] at h
    rw [and_iff_right h.1, and_iff_right h.2, Except.error.injEq]
  · next h =>
    refine iff_of_false (by rintro ⟨⟩) ?_
    rintro ⟨hown, hw, -⟩
    exact h (by simp [hown, hw])

theorem withinLimits_eq_error_iff {own : Option String} {least : Int} {most : Option Int}
    {value : FieldValue} : withinLimits own least most value = .error failure ↔
      (value.joined.length < least ∧
        messageOr own "" = "" ∧ isWritable least = false ∧ .unwritableNumber = failure) ∨
      (least ≤ value.joined.length ∧ ∃ limit, most = some limit ∧ limit < value.joined.length ∧
        messageOr own "" = "" ∧ isWritable limit = false ∧ .unwritableNumber = failure) := by
  unfold withinLimits
  dsimp only
  by_cases hshort : (value.joined.length : Int) < least
  · rw [if_pos hshort, map_eq_error_iff, limitMessage_eq_error_iff, and_iff_right hshort,
      or_iff_left fun h => absurd hshort (Int.not_lt.mpr h.1)]
  · rw [if_neg hshort, or_iff_right fun h => hshort h.1, and_iff_right (Int.not_lt.mp hshort)]
    cases most with
    | none => simp
    | some limit =>
        by_cases hlong : limit < value.joined.length
        · simp [hlong, map_eq_error_iff, limitMessage_eq_error_iff]
        · simp [hlong]

/-- The limits that a length validator was made with. -/
theorem exists_of_lengthValidator {options : Options} {own : Option String} {validator : Validator}
    (h : lengthValidator options own = .ok validator) : ∃ least most,
      validator = withinLimits own least most ∧
      readLimit ((options.lookup "min").getD (.int 0)) = .ok least ∧
      ∀ limit, most = some limit ↔
        ∃ v, options.lookup "max" = some v ∧ v ≠ .null ∧ readLimit v = .ok limit := by
  obtain ⟨least, hleast, h⟩ := exists_of_bind_eq_ok h
  dsimp only at h
  split at h
  · next hmax =>
    obtain rfl : withinLimits own least none = validator := Except.ok.inj h
    exact ⟨least, none, rfl, hleast, fun limit => by simp [hmax]⟩
  · next hmax =>
    obtain rfl : withinLimits own least none = validator := Except.ok.inj h
    exact ⟨least, none, rfl, hleast, fun limit => by simp [hmax]⟩
  · next v hnull hmax =>
    have hne : v ≠ .null := hnull
    obtain ⟨most, hmost, h⟩ := exists_of_bind_eq_ok h
    obtain rfl : withinLimits own least most = validator := Except.ok.inj h
    obtain ⟨n, hv, rfl⟩ := exists_of_map_eq_ok hmost
    exact ⟨least, some n, rfl, hleast, fun limit => by simp [hmax, hne, hv]⟩

/-- A standard validator fails over a value where it is to write a limit that is too long, and with
that. -/
theorem says_eq_error_iff {validator : Validator} (hb : (Registry.standardOn support).build check = .ok validator) (value : FieldValue) :
    validator value = .error failure ↔ check.FailsOver value ∧ .unwritableNumber = failure := by
  have htested : ∀ {message : String} {test : FieldValue → Bool}, check.type ≠ "length" →
      (Validator.ofTest message test value = .error failure ↔
        check.FailsOver value ∧ .unwritableNumber = failure) := by
    intro message test hne
    refine iff_of_false (by rintro ⟨⟩) ?_
    rintro ⟨hfails, -⟩
    cases hfails with
    | short htype => exact hne htype
    | long htype => exact hne htype
  rw [build_standard] at hb
  split at hb
  · next htype =>
    cases hb
    exact htested (by rw [htype]; decide)
  split at hb
  · next htype =>
    obtain ⟨least, most, rfl, hleast, hmost⟩ := exists_of_lengthValidator hb
    rw [withinLimits_eq_error_iff]
    constructor
    · rintro (⟨hshort, hown, hw, he⟩ | ⟨hfits, limit, hlimit, hlong, hown, hw, he⟩)
      · exact ⟨.short htype hown hleast hshort hw, he⟩
      · obtain ⟨v, hmax, hnull, hv⟩ := (hmost limit).mp hlimit
        exact ⟨.long htype hown hleast hfits hmax hnull hv hlong hw, he⟩
    · rintro ⟨hfails, he⟩
      cases hfails with
      | short _ hown hmin hshort hw =>
          cases hmin.symm.trans hleast
          exact .inl ⟨hshort, hown, hw, he⟩
      | long _ hown hmin hfits hmax hnull hlimit hlong hw =>
          cases hmin.symm.trans hleast
          exact .inr ⟨hfits, _, (hmost _).mpr ⟨_, hmax, hnull, hlimit⟩, hlong, hown, hw, he⟩
  split at hb
  · next htype =>
    obtain ⟨message, test, rfl⟩ := exists_of_patternValidator hb
    exact htested (by rw [htype]; decide)
  split at hb
  · next htype =>
    cases hb
    exact htested (by rw [htype]; decide)
  · cases hb

end FormIntake
