import MissionTracking.Time.Instant

/-!
The calendar and the count of days are inverse to each other. A day lies in one year of its four
hundred years and in one month of that year; the date that is found there exists in the calendar and
is counted as that day.
-/
namespace MissionTracking.Date

/-- The day of four hundred years on which a year begins. -/
def firstDay (year : Nat) : Nat := 365 * year + year / 4 - year / 100 + year / 400

def yearOfDay (day : Nat) : Nat := (day - day / 1460 + day / 36524 - day / 146096) / 365

/-- The month of a day of a year that begins in March, which is the third. -/
def civilMonth (ofYear : Nat) : Nat :=
  if (5 * ofYear + 2) / 153 < 10 then (5 * ofYear + 2) / 153 + 3 else (5 * ofYear + 2) / 153 - 9

theorem yearOfDay_mono {a b : Nat} (before : a ≤ b) : yearOfDay a ≤ yearOfDay b := by
  unfold yearOfDay
  apply Nat.div_le_div_right
  omega

theorem yearOfDay_ends : ∀ year < 400,
    yearOfDay (firstDay year) = year ∧ yearOfDay (firstDay (year + 1) - 1) = year ∧
    1 ≤ firstDay (year + 1) := by
  decide +kernel

/-- A day lies between the first days of its year and of the next one. -/
theorem firstDay_yearOfDay {day : Nat} (inside : day < 146097) :
    yearOfDay day < 400 ∧ firstDay (yearOfDay day) ≤ day ∧ day < firstDay (yearOfDay day + 1) := by
  have top : yearOfDay 146096 = 399 := by decide
  have bound : yearOfDay day < 400 := by
    have last := yearOfDay_mono (Nat.le_of_lt_succ inside)
    omega
  refine ⟨bound, ?_, ?_⟩
  · rcases Nat.lt_or_ge day (firstDay (yearOfDay day)) with early | fits
    · cases year : yearOfDay day with
      | zero => simp [year, firstDay] at early
      | succ y =>
        have previous := (yearOfDay_ends y (by omega)).2.1
        rw [year] at early
        have before := yearOfDay_mono (Nat.le_sub_one_of_lt early)
        omega
    · exact fits
  · rcases Nat.lt_or_ge day (firstDay (yearOfDay day + 1)) with fits | late
    · exact fits
    · rcases Nat.lt_or_ge (yearOfDay day + 1) 400 with inner | outer
      · have next := (yearOfDay_ends _ inner).1
        have after := yearOfDay_mono late
        omega
      · have final : yearOfDay day = 399 := by omega
        have all : firstDay (399 + 1) = 146097 := by decide
        rw [final] at late
        omega

theorem firstDay_succ {year : Nat} (inside : year < 400) :
    firstDay (year + 1) = firstDay year +
    (if (year + 1) % 4 = 0 ∧ ((year + 1) % 100 ≠ 0 ∨ year = 399) then 366 else 365) := by
  unfold firstDay
  split <;> omega

theorem daysBefore_le : ∀ ofYear < 366, (5 * ofYear + 2) / 153 ≤ 11 ∧
    daysBefore ((5 * ofYear + 2) / 153) ≤ ofYear ∧
    (civilMonth ofYear + 9) % 12 = (5 * ofYear + 2) / 153 := by
  decide +kernel

theorem day_le : ∀ ofYear < 366,
    (civilMonth ofYear ≠ 2 →
      ofYear - daysBefore ((5 * ofYear + 2) / 153) + 1 ≤ daysInMonth 0 (civilMonth ofYear)) ∧
    (civilMonth ofYear = 2 →
      ofYear - daysBefore ((5 * ofYear + 2) / 153) + 1 ≤ if ofYear = 365 then 29 else 28) := by
  decide +kernel

theorem daysInMonth_eq {year : Int} {month : Nat} (other : month ≠ 2) :
    daysInMonth year month = daysInMonth 0 month := by
  unfold daysInMonth
  split <;> simp_all

def ofParts (era : Int) (inEra ofYear : Nat) : Date :=
  ⟨(inEra : Int) + era * 400 + (if civilMonth ofYear ≤ 2 then 1 else 0), civilMonth ofYear,
    ofYear - daysBefore ((5 * ofYear + 2) / 153) + 1⟩

theorem ofDays_eq (days : Int) : ∃ (era : Int) (inEra ofYear : Nat), inEra < 400 ∧
    firstDay inEra + ofYear < firstDay (inEra + 1) ∧
    days + 719468 = era * 146097 + (firstDay inEra + ofYear : Nat) ∧
    ofDays days = ofParts era inEra ofYear := by
  have inside : ((days + 719468) % 146097).toNat < 146097 := by omega
  obtain ⟨year, first, last⟩ := firstDay_yearOfDay inside
  refine ⟨(days + 719468) / 146097, yearOfDay ((days + 719468) % 146097).toNat,
    ((days + 719468) % 146097).toNat - firstDay (yearOfDay ((days + 719468) % 146097).toNat), year,
    by omega, by omega, ?_⟩
  have small : yearOfDay ((days + 719468) % 146097).toNat / 400 = 0 := by omega
  unfold ofDays ofParts civilMonth firstDay
  rw [small]
  rfl

theorem ofYear_lt {inEra ofYear : Nat} (year : inEra < 400)
    (day : firstDay inEra + ofYear < firstDay (inEra + 1)) : ofYear < 366 := by
  rw [firstDay_succ year] at day
  split at day <;> omega

theorem valid_ofDays (days : Int) : (ofDays days).Valid := by
  obtain ⟨era, inEra, ofYear, year, day, _, parts⟩ := ofDays_eq days
  have place := ofYear_lt year day
  obtain ⟨month, _, _⟩ := daysBefore_le ofYear place
  obtain ⟨others, february⟩ := day_le ofYear place
  rw [parts]
  refine ⟨?_, ?_, Nat.le_add_left _ _, ?_⟩
  · unfold ofParts civilMonth
    dsimp only
    split <;> omega
  · unfold ofParts civilMonth
    dsimp only
    split <;> omega
  · dsimp only [ofParts]
    by_cases second : civilMonth ofYear = 2
    · rw [second, if_pos (Nat.le_refl 2)]
      refine Nat.le_trans (february second) ?_
      split
      · rename_i last
        have long : (inEra + 1) % 4 = 0 ∧ ((inEra + 1) % 100 ≠ 0 ∨ inEra = 399) := by
          rw [firstDay_succ year, last] at day
          split at day
          · assumption
          · omega
        have leap : isLeap ((inEra : Int) + era * 400 + 1) = true := by
          rw [isLeap, decide_eq_true_eq]
          omega
        simp [daysInMonth, leap]
      · rw [daysInMonth]
        split <;> omega
    · rw [daysInMonth_eq second]
      exact others second

theorem toDays_ofDays (days : Int) : (ofDays days).toDays = days := by
  obtain ⟨era, inEra, ofYear, year, day, count, parts⟩ := ofDays_eq days
  obtain ⟨month, before, civil⟩ := daysBefore_le ofYear (ofYear_lt year day)
  have march : (if civilMonth ofYear ≤ 2
        then (inEra : Int) + era * 400 + (if civilMonth ofYear ≤ 2 then 1 else 0) - 1
        else (inEra : Int) + era * 400 + (if civilMonth ofYear ≤ 2 then 1 else 0)) =
      inEra + era * 400 := by
    split <;> omega
  have small : firstDay inEra = 365 * inEra + inEra / 4 - inEra / 100 := by
    unfold firstDay
    omega
  rw [parts, toDays, ofParts]
  dsimp only
  rw [march, civil]
  omega

theorem civilMonth_le_two : ∀ ofYear < 366, civilMonth ofYear ≤ 2 ↔ 306 ≤ ofYear := by
  decide +kernel

theorem firstDay_mono {a b : Nat} (before : a ≤ b) : firstDay a ≤ firstDay b := by
  induction before with
  | refl => exact Nat.le_refl _
  | @step b _ ih =>
    refine Nat.le_trans ih ?_
    unfold firstDay
    omega

theorem year_ofDays {days : Int} (first : minSecond / secondsPerDay ≤ days)
    (last : days ≤ maxSecond / secondsPerDay) :
    -262143 ≤ (ofDays days).year ∧ (ofDays days).year ≤ 262142 := by
  obtain ⟨era, inEra, ofYear, year, day, count, parts⟩ := ofDays_eq days
  have turn := civilMonth_le_two ofYear (ofYear_lt year day)
  have whole : firstDay (inEra + 1) ≤ 146097 := firstDay_mono (show inEra + 1 ≤ 400 by omega)
  have low : firstDay 256 = 93502 := by decide
  have high : firstDay 142 = 51864 := by decide
  have next : firstDay 143 = 52229 := by decide
  simp only [minSecond, maxSecond, secondsPerDay] at first last
  rw [parts, ofParts]
  constructor
  · dsimp only
    rcases Nat.lt_trichotomy inEra 256 with early | rfl | late
    · have ends := firstDay_mono (show inEra + 1 ≤ 256 from early)
      split <;> omega
    · split <;> omega
    · split <;> omega
  · dsimp only
    rcases Nat.lt_trichotomy inEra 142 with early | rfl | late
    · split <;> omega
    · split <;> omega
    · have begins := firstDay_mono (show 143 ≤ inEra from late)
      split <;> omega

end MissionTracking.Date
