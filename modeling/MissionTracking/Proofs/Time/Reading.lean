import MissionTracking.Time.Reader
import MissionTracking.Proofs.Text.Digits
import MissionTracking.Proofs.Time.Calendar

/-!
Times read back. Each scanner takes from a text what the writer put there and leaves what follows,
and the date, the clock and the fraction of a time determine it, a leap second included.
-/
namespace MissionTracking
open Text

namespace TimeReader

variable {rest : List Char}

theorem isBlank_of_isDigit {c : Char} (digit : c.isDigit = true) : isBlank c = false := by
  have range : 48 ≤ c.toNat ∧ c.toNat ≤ 57 := by
    simp only [Char.isDigit, Bool.and_eq_true, decide_eq_true_eq, ge_iff_le,
      UInt32.le_iff_toNat_le] at digit
    exact digit
  rw [Bool.eq_false_iff, Ne, isBlank, Ranges.covers_iff]
  rintro ⟨r, member, low, high⟩
  have outside : ∀ r ∈ blankRanges, r.2 < 48 ∨ 57 < r.1 := by decide
  have apart := outside r member
  omega

theorem dropBlanks_cons {c : Char} (visible : isBlank c = false) :
    dropBlanks (c :: rest) = c :: rest := by
  simp [dropBlanks, visible]

theorem dropBlanks_padded (width n : Nat) (rest : List Char) :
    dropBlanks (padded width n ++ rest) = padded width n ++ rest := by
  obtain ⟨d, ds, shape⟩ := List.exists_cons_of_ne_nil (padded_ne_nil width n)
  have digit : d.isDigit = true := isDigit_of_mem_padded (shape ▸ List.mem_cons_self)
  rw [shape]
  exact dropBlanks_cons (isBlank_of_isDigit digit)

theorem allDigits?_padded (width n : Nat) (stops : Stops Char.isDigit rest) :
    allDigits? (padded width n ++ rest) = some (padded width n, rest) := by
  have all : ∀ c ∈ padded width n, c.isDigit = true := fun c member => isDigit_of_mem_padded member
  simp [allDigits?, stops.takeWhile_append all, stops.dropWhile_append all, padded_ne_nil]

theorem digitsUpTo?_padded {width n : Nat} (positive : 0 < width) (fits : n < Nat.pow 10 width)
    (stops : Stops Char.isDigit rest) :
    digitsUpTo? width (padded width n ++ rest) = some (n, rest) := by
  have all : ∀ c ∈ padded width n, c.isDigit = true := fun c member => isDigit_of_mem_padded member
  have length := length_padded positive fits
  have taken : (padded width n).take width = padded width n :=
    List.take_of_length_le (Nat.le_of_eq length)
  simp [digitsUpTo?, stops.takeWhile_append all, taken, padded_ne_nil]

theorem number?_padded {n : Nat} (fits : n < 100) (stops : Stops Char.isDigit rest) :
    number? (padded 2 n ++ rest) = some (n, rest) := by
  rw [number?, dropBlanks_padded]
  exact digitsUpTo?_padded (by decide) fits stops

theorem separator?_cons {c : Char} (visible : isBlank c = false) :
    separator? c (c :: rest) = some rest := by
  simp [separator?, dropBlanks_cons visible]

theorem year?_yearText (year : Int) (stops : Stops Char.isDigit rest) :
    year? (yearText year ++ rest) = some (year, rest) := by
  unfold yearText
  split
  · rename_i plain
    have fits : year.toNat < 10000 := by omega
    have read : digitsUpTo? 4 (padded 4 year.toNat ++ rest) = some (year.toNat, rest) :=
      digitsUpTo?_padded (by decide) fits stops
    obtain ⟨d, ds, shape⟩ := List.exists_cons_of_ne_nil (padded_ne_nil 4 year.toNat)
    have digit : d.isDigit = true := isDigit_of_mem_padded (shape ▸ List.mem_cons_self)
    have value : (year.toNat : Int) = year := Int.toNat_of_nonneg plain.1
    rw [year?, dropBlanks_padded]
    rw [shape, List.cons_append] at read ⊢
    split
    · rename_i sign
      cases sign
      cases digit
    · rename_i sign
      cases sign
      cases digit
    · rw [read, Option.map_some, value]
  · split
    · rename_i past
      have value : -(year.natAbs : Int) = year := by omega
      rw [List.cons_append, year?, dropBlanks_cons (by decide)]
      simp only [allDigits?_padded _ _ stops, Option.map_some, digitsValue_padded, value]
    · rename_i late past
      have value : (year.toNat : Int) = year := by omega
      rw [List.cons_append, year?, dropBlanks_cons (by decide)]
      simp only [allDigits?_padded _ _ stops, Option.map_some, digitsValue_padded, value]

theorem daysInMonth_le (year : Int) (month : Nat) : Date.daysInMonth year month ≤ 31 := by
  unfold Date.daysInMonth
  split
  · split <;> omega
  all_goals omega

theorem date?_text {d : Date} (valid : d.Valid) (stops : Stops Char.isDigit rest) :
    date? (d.text ++ rest) = some (d, rest) := by
  obtain ⟨_, month, _, day⟩ := valid
  have days := daysInMonth_le d.year d.month
  have dash : Stops Char.isDigit ('-' :: (padded 2 d.day ++ rest)) := stops_cons rfl
  have dash' : Stops Char.isDigit ('-' :: (padded 2 d.month ++ '-' :: (padded 2 d.day ++ rest))) :=
    stops_cons rfl
  have month? := number?_padded (n := d.month) (by omega) dash
  have day? := number?_padded (n := d.day) (by omega) stops
  have blank : isBlank '-' = false := by decide
  simp only [Date.text, List.append_assoc, List.cons_append, date?, year?_yearText _ dash',
    separator?_cons blank, month?, day?, Option.bind_eq_bind, Option.bind_some]

theorem fraction?_padded {width n : Nat} (positive : 0 < width) (short : width ≤ 9)
    (fits : n < Nat.pow 10 width) (stops : Stops Char.isDigit rest) :
    fraction? ('.' :: (padded width n ++ rest)) = some (n * Nat.pow 10 (9 - width), rest) := by
  have length := length_padded positive fits
  have taken : (padded width n).take 9 = padded width n := List.take_of_length_le (by omega)
  simp only [fraction?, allDigits?_padded _ _ stops, Option.map_some, taken,
    digitsValue_padded, length]

theorem fraction?_text {nano : Nat} (fits : nano < nanosPerSecond) (stops : Stops Char.isDigit rest)
    (whole : rest.head? ≠ some '.') :
    fraction? (fractionText nano ++ rest) = some (nano, rest) := by
  simp only [nanosPerSecond] at fits
  unfold fractionText
  split
  · rename_i zero
    rw [List.nil_append, zero, fraction?]
    rintro cs rfl
    exact whole rfl
  · split
    · have three : nano / 1000000 < 1000 := by omega
      have exact : nano / 1000000 * 1000000 = nano := by omega
      rw [List.cons_append, fraction?_padded (by decide) (by decide) three stops, exact]
    · split
      · have six : nano / 1000 < 1000000 := by omega
        have exact : nano / 1000 * 1000 = nano := by omega
        rw [List.cons_append, fraction?_padded (by decide) (by decide) six stops, exact]
      · have nine : nano < 1000000000 := fits
        have exact : nano * 1 = nano := by omega
        rw [List.cons_append, fraction?_padded (by decide) (by decide) nine stops, exact]

theorem stops_fractionText (nano : Nat) : Stops Char.isDigit (fractionText nano ++ ['Z']) := by
  unfold fractionText
  split
  · exact stops_cons rfl
  · split
    · exact stops_cons rfl
    · split <;> exact stops_cons rfl

end TimeReader

namespace Instant
open TimeReader

def clock (t : Instant) : Local where
  date := t.date
  hour := t.secondOfDay / 3600
  minute := t.secondOfDay / 60 % 60
  second := t.secondOfDay % 60 + if nanosPerSecond ≤ t.nano then 1 else 0
  nano := if nanosPerSecond ≤ t.nano then t.nano - nanosPerSecond else t.nano
  offset := 0

theorem secondOfDay_eq (t : Instant) : (t.secondOfDay : Int) = t.second % 86400 := by
  have positive : 0 ≤ t.second % secondsPerDay := Int.emod_nonneg _ (by decide)
  rw [secondOfDay, Int.toNat_of_nonneg positive]
  rfl

theorem valid_clock (t : Instant) : t.clock.Valid := by
  have seconds := t.secondOfDay_eq
  have first := Int.ediv_le_ediv (show 0 < secondsPerDay by decide) t.inRange.1
  have last := Int.ediv_le_ediv (show 0 < secondsPerDay by decide) t.inRange.2
  obtain ⟨earliest, latest⟩ := Date.year_ofDays first last
  have nano := t.nano_lt
  have ahead : (-1440 : Int) < 0 ∧ (0 : Int) < 1440 := by decide
  refine ⟨Date.valid_ofDays _, earliest, latest, ?_, ?_, ?_, ?_, ahead⟩
  · dsimp only [clock]
    omega
  · dsimp only [clock]
    omega
  · dsimp only [clock]
    split <;> omega
  · dsimp only [clock]
    split <;> omega

theorem clock_second_iff (t : Instant) : t.clock.second = 60 ↔ nanosPerSecond ≤ t.nano := by
  have seconds := t.secondOfDay_eq
  simp only [clock]
  split
  · rename_i leap
    have final := t.leap leap
    omega
  · rename_i plain
    omega

theorem ofParts?_own (t : Instant) : ofParts? t.second t.nano = some t := by
  unfold ofParts?
  rw [dif_pos ⟨t.inRange, t.nano_lt, t.leap⟩]

theorem ofLocal?_clock (t : Instant) : ofLocal? t.clock = some t := by
  have seconds := t.secondOfDay_eq
  have days : t.date.toDays = t.second / 86400 := Date.toDays_ofDays _
  have second : t.clock.date.toDays * secondsPerDay + t.clock.hour * 3600 + t.clock.minute * 60 +
      (if t.clock.second = 60 then 59 else t.clock.second : Nat) - t.clock.offset * 60 =
      t.second := by
    simp only [t.clock_second_iff]
    simp only [clock, days, secondsPerDay]
    split
    · rename_i leap
      have final := t.leap leap
      omega
    · omega
  have nano :
      (if t.clock.second = 60 then t.clock.nano + nanosPerSecond else t.clock.nano) = t.nano := by
    simp only [t.clock_second_iff]
    simp only [clock]
    split
    · exact Nat.sub_add_cancel ‹_›
    · rfl
  rw [ofLocal?, if_pos t.valid_clock]
  dsimp only
  rw [nano, second, ofParts?_own]

theorem local?_text (t : Instant) : local? t.text.toList = some (t.clock, []) := by
  obtain ⟨date, _, _, hour, minute, second, nano, _⟩ := t.valid_clock
  have colon (cs : List Char) : Stops Char.isDigit (':' :: cs) := stops_cons rfl
  have mark (cs : List Char) : Stops Char.isDigit ('T' :: cs) := stops_cons rfl
  have blank : isBlank ':' = false := by decide
  have ends := stops_fractionText t.clock.nano
  have written : t.text.toList = t.clock.date.text ++ 'T' :: (padded 2 t.clock.hour ++ ':' ::
      (padded 2 t.clock.minute ++ ':' ::
        (padded 2 t.clock.second ++ (fractionText t.clock.nano ++ ['Z'])))) := by
    simp [text, clockText, clock]
  have last : Stops Char.isDigit ['Z'] := stops_cons rfl
  have fraction := fraction?_text nano last (by simp)
  rw [written, local?, date?_text date (mark _)]
  have hour? := number?_padded (by omega : t.clock.hour < 100)
    (colon (padded 2 t.clock.minute ++ ':' ::
    (padded 2 t.clock.second ++ (fractionText t.clock.nano ++ ['Z']))))
  have minute? := number?_padded (by omega : t.clock.minute < 100)
    (colon (padded 2 t.clock.second ++
    (fractionText t.clock.nano ++ ['Z'])))
  have second? := number?_padded (by omega : t.clock.second < 100) ends
  have zone : offset? ['Z'] = some (0, []) := by decide
  simp only [Option.bind_eq_bind, Option.bind_some, clockMark?, true_or, if_true, hour?,
    separator?_cons blank, minute?, second?, fraction, zone]
  rfl

theorem parse?_text (t : Instant) : parse? t.text = some t := by
  rw [parse?, local?_text]
  exact ofLocal?_clock t

end Instant
end MissionTracking
