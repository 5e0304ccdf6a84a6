import Mathlib.Data.String.Basic
import FormIntake.Proofs.Number.Digits
import FormIntake.Proofs.Number.Truncation
import FormIntake.Rendering.Ambient

/-! # Names made of the time

The stamp of a time is 13 digits in base 16 (`DateTime.exists_stamp`), eight for the seconds of universal
time and five for the microseconds that the wall clock shows, which stand for one number
(`DateTime.stampNumber`); stamps are ordered as these numbers are (`DateTime.stamp_lt_iff`).  The seconds
come out of a fraction in double precision, and its rounding never reaches the next whole number
(`Number.Binary64.truncate?_ofRatio`).

So the names that are made of a text and the time are the same for the same instant only, and are ordered
as the instants are, wherever the wall clock is ahead of universal time by whole seconds
(`Renderer.names_of_uniqid`). -/

namespace FormIntake

open Number Calendar Template

/-! ### Stamps -/

namespace Calendar.DateTime

/-- The time is one from the start of 1970 on and less than `2 ^ 32` seconds after it. -/
def IsCounted (t : DateTime) : Prop := 0 ≤ t.sinceEpoch ∧ t.sinceEpoch < (2 ^ 32 * second : Nat)

theorem epoch_eq : epoch = 62135596800 * second := by decide

theorem seconds_of_isCounted {t : DateTime} (h : t.IsCounted) :
    t.seconds = ((t.sinceEpoch.natAbs / second : Nat) : Int) := by
  obtain ⟨hlow, hhigh⟩ := h
  have hnum : t.sinceEpoch.natAbs < 2 ^ 52 := by
    simp only [second] at hhigh
    omega
  have hsign : decide (t.sinceEpoch < 0) = false := by simpa using hlow
  rw [seconds, hsign, Binary64.truncate?_ofRatio hnum (by decide) (by decide), Option.getD_some]

/-- The number that the digits of the stamp stand for. -/
def stampNumber (t : DateTime) : Nat := t.sinceEpoch.natAbs / second * 16 ^ 5 + t.microsecond

/-- A stamp is made of 13 digits. -/
theorem exists_stamp {t : DateTime} (h : t.IsCounted) :
    ∃ values : List Nat, t.stamp = values.map Nat.digitChar ∧ values.length = 13 ∧
      (∀ d ∈ values, d < 16) ∧ ofDigits 16 values = t.stampNumber := by
  have hwhole : t.sinceEpoch.natAbs / second < 16 ^ 8 := by
    obtain ⟨hlow, hhigh⟩ := h
    simp only [second] at hhigh ⊢
    omega
  have hpart : t.microsecond < 16 ^ 5 := (Nat.mod_lt t.wall (by decide)).trans (by decide)
  obtain ⟨front, hf, hfl, hflt, hfvalue⟩ := exists_digits_of_lt_pow (by decide) (by decide) hwhole
  obtain ⟨back, hb, hbl, hblt, hbvalue⟩ := exists_digits_of_lt_pow (by decide) (by decide) hpart
  have hsigned : signedHex 8 t.seconds = front.map Nat.digitChar := by
    rw [seconds_of_isCounted h, signedHex, if_neg (by omega), Int.natAbs_natCast, paddedHex,
      hexadecimal, hf]
  refine ⟨front ++ back, ?_, ?_, ?_, ?_⟩
  · rw [stamp, hsigned, paddedHex, hexadecimal, hb, List.map_append]
  · rw [List.length_append, hfl, hbl]
  · exact fun d hd => (List.mem_append.mp hd).elim (hflt d) (hblt d)
  · rw [ofDigits_append, hfvalue, hbvalue, hbl, stampNumber]

/-- The stamps of two times are ordered as their numbers are. -/
theorem stamp_lt_iff {t u : DateTime} (ht : t.IsCounted) (hu : u.IsCounted) :
    t.stamp < u.stamp ↔ t.stampNumber < u.stampNumber := by
  obtain ⟨values, hv, hvl, hvlt, hvalue⟩ := exists_stamp ht
  obtain ⟨others, ho, hol, holt, hother⟩ := exists_stamp hu
  rw [hv, ho, map_digitChar_lt_iff hvlt holt, ← ofDigits_lt_iff (hvl.trans hol.symm) hvlt holt, hvalue,
    hother]

theorem stamp_eq_iff {t u : DateTime} (ht : t.IsCounted) (hu : u.IsCounted) :
    t.stamp = u.stamp ↔ t.stampNumber = u.stampNumber := by
  have hbelow := stamp_lt_iff ht hu
  have habove := stamp_lt_iff hu ht
  constructor
  · intro h
    rw [h] at hbelow habove
    have hself := List.lt_irrefl u.stamp
    exact le_antisymm (not_lt.mp (mt habove.mpr hself)) (not_lt.mp (mt hbelow.mpr hself))
  · intro h
    rw [h] at hbelow habove
    exact List.le_antisymm (mt habove.mp (Nat.lt_irrefl _)) (mt hbelow.mp (Nat.lt_irrefl _))

/-- Two stamps are the same where universal time is in the same second and the wall clocks show the
same microsecond. -/
theorem stampNumber_eq_iff {t u : DateTime} : t.stampNumber = u.stampNumber ↔
    t.sinceEpoch.natAbs / second = u.sinceEpoch.natAbs / second ∧ t.wall % second = u.wall % second := by
  have ht : t.wall % second < 16 ^ 5 := (Nat.mod_lt t.wall (by decide)).trans (by decide)
  have hu : u.wall % second < 16 ^ 5 := (Nat.mod_lt u.wall (by decide)).trans (by decide)
  simp only [stampNumber, microsecond]
  omega

/-- Between clocks whose offsets differ by whole seconds the wall clocks show the same microsecond where
universal time does. -/
theorem stampNumber_eq_iff_instant_eq {t u : DateTime} (ht : t.IsCounted) (hu : u.IsCounted)
    (hoffsets : (second : Int) ∣ t.offset - u.offset) :
    t.stampNumber = u.stampNumber ↔ t.instant = u.instant := by
  obtain ⟨htlow, -⟩ := ht
  obtain ⟨hulow, -⟩ := hu
  rw [stampNumber_eq_iff]
  simp only [sinceEpoch, instant, second] at htlow hulow hoffsets ⊢
  omega

theorem stampNumber_lt_iff {t u : DateTime} (ht : t.IsCounted) (hu : u.IsCounted)
    (hto : (second : Int) ∣ t.offset) (huo : (second : Int) ∣ u.offset) :
    t.stampNumber < u.stampNumber ↔ t.instant < u.instant := by
  obtain ⟨htlow, -⟩ := ht
  obtain ⟨hulow, -⟩ := hu
  simp only [stampNumber, microsecond, sinceEpoch, instant, second, epoch_eq] at htlow hulow hto huo ⊢
  omega

theorem stampNumber_eq_iff_dvd {t u : DateTime} (hsame : t.instant = u.instant) :
    t.stampNumber = u.stampNumber ↔ (second : Int) ∣ t.offset - u.offset := by
  rw [stampNumber_eq_iff, sinceEpoch, sinceEpoch, hsame, and_iff_right rfl]
  simp only [instant, second] at hsame ⊢
  omega

end Calendar.DateTime

/-! ### Names -/

/-- A name is a text with 13 lower-case hexadecimal digits behind it. -/
def IsStamped (start name : String) : Prop :=
  ∃ digits : List Char, name.toList = start.toList ++ digits ∧ digits.length = 13 ∧
    ∀ c ∈ digits, c ∈ "0123456789abcdef".toList

theorem append_lt_append_iff (start xs ys : List Char) : start ++ xs < start ++ ys ↔ xs < ys := by
  induction start with
  | nil => rfl
  | cons c rest ih => simp [ih]

theorem mem_hexDigits : ∀ d < 16, Nat.digitChar d ∈ "0123456789abcdef".toList := by decide

/-- A text with a stamp behind it. -/
def stamped (start : String) (t : DateTime) : String := String.ofList (start.toList ++ t.stamp)

theorem isStamped_stamped (start : String) {t : DateTime} (h : t.IsCounted) :
    IsStamped start (stamped start t) := by
  obtain ⟨values, hv, hl, hlt, -⟩ := DateTime.exists_stamp h
  refine ⟨values.map Nat.digitChar, ?_, ?_, ?_⟩
  · rw [stamped, hv, String.toList_ofList]
  · rw [List.length_map, hl]
  · intro c hc
    obtain ⟨d, hd, rfl⟩ := List.mem_map.mp hc
    exact mem_hexDigits d (hlt d hd)

theorem stamped_eq_iff (start : String) {t u : DateTime} (ht : t.IsCounted) (hu : u.IsCounted) :
    stamped start t = stamped start u ↔ t.stampNumber = u.stampNumber := by
  rw [stamped, stamped, String.ofList_inj, List.append_right_inj, DateTime.stamp_eq_iff ht hu]

theorem stamped_lt_iff (start : String) {t u : DateTime} (ht : t.IsCounted) (hu : u.IsCounted) :
    stamped start t < stamped start u ↔ t.stampNumber < u.stampNumber := by
  rw [String.lt_iff_toList_lt, stamped, stamped, String.toList_ofList, String.toList_ofList,
    append_lt_append_iff, DateTime.stamp_lt_iff ht hu]

namespace Renderer

variable {token : Token}

/-- The renderer at a time. -/
def showing (renderer : Renderer) (t : DateTime) : Renderer := { renderer with now := t }

theorem ambient?_uniqid (renderer : Renderer) (form : Form) (request : Request)
    (hname : token.name = "uniqid") (hplain : token.isOn "moreEntropy" = false) :
    renderer.ambient? form request token =
      .ok (some (stamped ((token.param? "prefix").getD "") renderer.now)) := by
  simp only [ambient?, hname, uniqueId, hplain, Bool.false_eq_true, if_false, List.append_nil, stamped]

/-- Names that are made of the time, after one text: 13 hexadecimal digits stand behind it.  Where the
clock is a whole number of seconds ahead of universal time, whatever number that is, two times have the
same name exactly if they are the same instant, and the names are ordered as the instants are.  The two
names of one instant are the same exactly if the offsets differ by whole seconds. -/
theorem names_of_uniqid (renderer : Renderer) (form : Form) (request : Request)
    (hname : token.name = "uniqid") (hplain : token.isOn "moreEntropy" = false) {t u : DateTime}
    (ht : t.IsCounted) (hu : u.IsCounted) :
    ∃ name other : String,
      (renderer.showing t).ambient? form request token = .ok (some name) ∧
      (renderer.showing u).ambient? form request token = .ok (some other) ∧
      IsStamped ((token.param? "prefix").getD "") name ∧
      ((second : Int) ∣ t.offset - u.offset → (name = other ↔ t.instant = u.instant)) ∧
      ((second : Int) ∣ t.offset → (second : Int) ∣ u.offset →
        (name < other ↔ t.instant < u.instant)) ∧
      (t.instant = u.instant → (name = other ↔ (second : Int) ∣ t.offset - u.offset)) := by
  refine ⟨stamped _ t, stamped _ u, ambient?_uniqid _ form request hname hplain,
    ambient?_uniqid _ form request hname hplain, isStamped_stamped _ ht, ?_, ?_, ?_⟩
  · intro hoffsets
    rw [stamped_eq_iff _ ht hu, DateTime.stampNumber_eq_iff_instant_eq ht hu hoffsets]
  · intro hto huo
    rw [stamped_lt_iff _ ht hu, DateTime.stampNumber_lt_iff ht hu hto huo]
  · intro hsame
    rw [stamped_eq_iff _ ht hu, DateTime.stampNumber_eq_iff_dvd hsame]

/-- A form that asks for nothing. -/
def greeting : Form where
  definition := { id := 1, pages := [] }
  pages := []
  distinct := by decide

def badgeSource : String := "\x7buniqid|prefix:a\x7d"

def badgeToken : Token := .ofBody "uniqid|prefix:a".toList badgeSource

/-- The time some microseconds into 2024, on a clock that is ahead of universal time. -/
def early (micros ahead : Nat) : DateTime := .ahead ahead (startOf2024.wall + micros + ahead)

theorem ambient?_badge (t : DateTime) :
    (showing {} t).ambient? greeting {} badgeToken = .ok (some (stamped "a" t)) := by
  have hstart : (badgeToken.param? "prefix").getD "" = "a" := by decide
  rw [ambient?_uniqid _ _ _ (by decide) (by decide), hstart]
  rfl

theorem names_of_uniqid_badge :
    parse badgeSource = [.token badgeToken] ∧
    (showing {} (early 999999 0)).ambient? greeting {} badgeToken = .ok (some "a65920080f423f") ∧
    (showing {} (early 1000000 (7200 * second))).ambient? greeting {} badgeToken =
      .ok (some "a6592008100000") ∧
    "a65920080f423f" < "a6592008100000" := by
  have hfirst : stamped "a" (early 999999 0) = "a65920080f423f" := by decide +kernel
  have hsecond : stamped "a" (early 1000000 (7200 * second)) = "a6592008100000" := by decide +kernel
  have ht : (early 999999 0).IsCounted := ⟨by decide, by decide⟩
  have hu : (early 1000000 (7200 * second)).IsCounted := ⟨by decide, by decide⟩
  have hname : badgeToken.name = "uniqid" := by decide
  obtain ⟨name, other, hn, ho, -, -, hlt, -⟩ := names_of_uniqid {} greeting {} hname (by decide) ht hu
  rw [ambient?_badge, hfirst] at hn ⊢
  rw [ambient?_badge, hsecond] at ho ⊢
  cases hn
  cases ho
  exact ⟨by decide +kernel, rfl, rfl, (hlt (by decide) (by decide)).mpr (by decide)⟩

/-- A clock that is ahead by half a second names an instant otherwise than one of universal time. -/
theorem names_early_apart : (early 200000 0).IsCounted ∧ (early 200000 500000).IsCounted ∧
    (early 200000 0).instant = (early 200000 500000).instant ∧
    (showing {} (early 200000 0)).ambient? greeting {} badgeToken = .ok (some "a6592008030d40") ∧
    (showing {} (early 200000 500000)).ambient? greeting {} badgeToken =
      .ok (some "a65920080aae60") := by
  have hfirst : stamped "a" (early 200000 0) = "a6592008030d40" := by decide +kernel
  have hsecond : stamped "a" (early 200000 500000) = "a65920080aae60" := by decide +kernel
  rw [ambient?_badge, ambient?_badge, hfirst, hsecond]
  exact ⟨⟨by decide, by decide⟩, ⟨by decide, by decide⟩, by decide, rfl, rfl⟩

end Renderer
end FormIntake
