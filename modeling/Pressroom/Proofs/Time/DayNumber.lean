import Pressroom.Proofs.Time.Calendar

/-!
Day numbers count the days of the calendar one after the other: the date that is found for a number has
this number, and of two real dates the earlier one has the smaller number. So the stamp of an instant
stands for that instant, and of two instants the earlier one has the stamp that is earlier in its first
part that differs.
-/
namespace Pressroom

namespace Calendar

/-! ### The date of a number -/

/-- The days before the month that is found, and the day in it, are the day that was looked for. -/
theorem splitMonths_sum : ∀ (lens : List Nat) (m d : Nat), d < lens.sum →
    (lens.take ((splitMonths m lens d).1 - m)).sum + (splitMonths m lens d).2 = d
  | [], m, d, h => by simp at h
  | len :: rest, m, d, h => by
    rw [splitMonths]
    by_cases hd : d < len
    · simp [hd]
    · rw [if_neg hd]
      rw [List.sum_cons] at h
      have hlater : d - len < rest.sum := by omega
      have hrest := splitMonths_sum rest (m + 1) (d - len) hlater
      obtain ⟨hlo, -, -⟩ := splitMonths_bounds rest (m + 1) (d - len) hlater
      have hback : (splitMonths (m + 1) rest (d - len)).1 - m
          = (splitMonths (m + 1) rest (d - len)).1 - (m + 1) + 1 := by omega
      rw [hback, List.take_succ_cons, List.sum_cons]
      omega

/-- The leap days before a year, by the cycles that the year lies in. -/
theorem daysBeforeYear_cycles {a b c d : Nat} (hb : b ≤ 3) (hc : c ≤ 24) (hd : d ≤ 3) :
    daysBeforeYear (400 * a + 100 * b + 4 * c + d + 1)
      = 146097 * a + 36524 * b + 1461 * c + 365 * d := by
  have h4 : (400 * a + 100 * b + 4 * c + d) / 4 = 100 * a + 25 * b + c := by omega
  have h100 : (400 * a + 100 * b + 4 * c + d) / 100 = 4 * a + b := by omega
  have h400 : (400 * a + 100 * b + 4 * c + d) / 400 = a := by omega
  rw [daysBeforeYear, Nat.add_sub_cancel, h4, h100, h400]
  omega

/-- The days before the year that is found, and the place in it, are the day that was looked for. -/
theorem splitYears_sum {number : Nat} (h : 1 ≤ number) :
    daysBeforeYear (splitYears number).1 + (splitYears number).2 + 1 = number := by
  rw [splitYears]
  dsimp only
  rw [daysBeforeYear_cycles (by omega) (by omega) (by omega)]
  omega

theorem daysBeforeMonth_eq (year month : Nat) :
    daysBeforeMonth year month = ((monthLengths (isLeap year)).take (month - 1)).sum := by
  rw [daysBeforeMonth, List.sum_eq_foldl]

/-- The date of a number has this number. -/
theorem dayNumber_ofDayNumber {number : Nat} (h : 1 ≤ number) :
    dayNumber (ofDayNumber number).1 (ofDayNumber number).2.1 (ofDayNumber number).2.2 = number := by
  have hplace : (splitYears number).2 < (monthLengths (isLeap (splitYears number).1)).sum := by
    rw [sum_monthLengths]; exact splitYears_place number
  have hmonths := splitMonths_sum _ 1 _ hplace
  have hyears := splitYears_sum h
  rw [ofDayNumber_eq, dayNumber, daysBeforeMonth_eq]
  dsimp only
  omega

/-! ### The order of dates -/

/-- A month ends before every later one. -/
theorem monthEnd_le : ∀ leap, ∀ month < 13, ∀ later < 13, 1 ≤ month → month < later →
    ((monthLengths leap).take (month - 1)).sum + (monthLengths leap).getD (month - 1) 0
      ≤ ((monthLengths leap).take (later - 1)).sum := by decide

theorem monthEnd_le_year : ∀ leap, ∀ month < 13, 1 ≤ month →
    ((monthLengths leap).take (month - 1)).sum + (monthLengths leap).getD (month - 1) 0
      ≤ (monthLengths leap).sum := by decide

/-- The quotient of a year is one more than that of the year before it if it divides the year. -/
theorem div_pred {year n : Nat} (h : 1 ≤ year) :
    year % n = 0 ∧ year / n = (year - 1) / n + 1 ∨ year % n ≠ 0 ∧ year / n = (year - 1) / n := by
  have hdiv := @Nat.succ_div (year - 1) n
  rw [Nat.sub_add_cancel h] at hdiv
  by_cases hzero : n ∣ year
  · rw [if_pos hzero] at hdiv
    exact .inl ⟨Nat.mod_eq_zero_of_dvd hzero, hdiv⟩
  · rw [if_neg hzero] at hdiv
    exact .inr ⟨fun hmod => hzero (Nat.dvd_of_mod_eq_zero hmod), hdiv⟩

theorem daysBeforeYear_succ {year : Nat} (h : 1 ≤ year) :
    daysBeforeYear (year + 1) = daysBeforeYear year + (monthLengths (isLeap year)).sum := by
  have hfew : (year - 1) / 100 ≤ (year - 1) / 4 := by omega
  have hfour : year % 100 = 0 → year % 4 = 0 := by omega
  have hcentury : year % 400 = 0 → year % 100 = 0 := by omega
  have h4 := div_pred (n := 4) h
  have h100 := div_pred (n := 100) h
  have h400 := div_pred (n := 400) h
  have hleap := isLeap_iff year
  rw [sum_monthLengths, daysBeforeYear, daysBeforeYear, Nat.add_sub_cancel]
  generalize (year - 1) / 4 = q4, (year - 1) / 100 = q100, (year - 1) / 400 = q400, year / 4 = p4,
    year / 100 = p100, year / 400 = p400, year % 4 = r4, year % 100 = r100, year % 400 = r400 at *
  by_cases hyes : isLeap year = true
  · rw [if_pos hyes]
    rw [hleap] at hyes
    clear hleap
    omega
  · rw [if_neg hyes]
    rw [hleap] at hyes
    clear hleap
    omega

theorem daysBeforeYear_mono {year later : Nat} (h : year ≤ later) :
    daysBeforeYear year ≤ daysBeforeYear later := by
  have h4 : (year - 1) / 4 ≤ (later - 1) / 4 := by omega
  have h100 : (later - 1) / 100 ≤ (year - 1) / 100 + (later - year) := by omega
  have h400 : (year - 1) / 400 ≤ (later - 1) / 400 := by omega
  rw [daysBeforeYear, daysBeforeYear]
  omega

/-- The parts of one real date come before those of another: it is an earlier year, or the same year
and an earlier month, or the same month and an earlier day. -/
theorem dayNumber_lt {y m d y' m' d' : Nat}
    (h : y < y' ∨ y = y' ∧ (m < m' ∨ m = m' ∧ d < d')) (hy : 1 ≤ y) (hm : 1 ≤ m ∧ m ≤ 12)
    (hd : d ≤ daysInMonth y m) (hm' : m' ≤ 12) (hd' : 1 ≤ d') :
    dayNumber y m d < dayNumber y' m' d' := by
  rw [daysInMonth] at hd
  rw [dayNumber, dayNumber, daysBeforeMonth_eq, daysBeforeMonth_eq]
  rcases h with hyear | ⟨rfl, hmonth | ⟨rfl, hday⟩⟩
  · have hend := monthEnd_le_year (isLeap y) m (by omega) hm.1
    have hnext := daysBeforeYear_succ hy
    have hlater := daysBeforeYear_mono hyear
    rw [Nat.succ_eq_add_one] at hlater
    omega
  · have hend := monthEnd_le (isLeap y) m (by omega) m' (by omega) hm.1 hmonth
    omega
  · omega

end Calendar

namespace Stamp

/-! ### Instants and their stamps -/

/-- The clock on the wall of a stamp in UTC shows the instant it was made of. -/
theorem wall_ofInstant {t : Int} (h : InEra t) : (ofInstant t).wall = t := by
  obtain ⟨hbegin, -⟩ := h
  rw [epochDay_eq, microsPerDay, microsPerSecond] at hbegin
  have hday : 1 ≤ (epochDay + Int.fdiv t microsPerDay).toNat := by
    rw [Int.fdiv_eq_ediv_of_nonneg _ (by decide), epochDay_eq, microsPerDay, microsPerSecond]
    omega
  have hnumber := Calendar.dayNumber_ofDayNumber hday
  have hdays : ((epochDay + Int.fdiv t microsPerDay).toNat : Int) = 719163 + t / 86400000000 := by
    rw [Int.fdiv_eq_ediv_of_nonneg _ (by decide), epochDay_eq, microsPerDay, microsPerSecond]
    omega
  have hrest : (Int.fmod t microsPerDay).toNat = t % 86400000000 := by
    rw [Int.fmod_eq_emod_of_nonneg _ (by decide), microsPerDay, microsPerSecond]
    omega
  simp only [wall, ofInstant]
  rw [hnumber, hdays]
  generalize (Int.fmod t microsPerDay).toNat = rest at hrest ⊢
  rw [epochDay_eq, microsPerDay, microsPerSecond]
  clear hnumber hdays hday
  push_cast
  omega

/-- The stamp of an instant stands for that instant. -/
theorem instant_ofInstant {t : Int} (h : InEra t) : (ofInstant t).instant = t :=
  (Int.sub_zero _).trans (wall_ofInstant h)

/-- One stamp is earlier than another in the first of their parts that differ. -/
def Earlier (a b : Stamp) : Prop :=
  a.year < b.year ∨ a.year = b.year ∧ (a.month < b.month ∨ a.month = b.month ∧
    (a.day < b.day ∨ a.day = b.day ∧ (a.hour < b.hour ∨ a.hour = b.hour ∧
      (a.minute < b.minute ∨ a.minute = b.minute ∧ (a.second < b.second ∨ a.second = b.second ∧
        a.micro < b.micro)))))

/-- The clock on the wall shows less on a date and time that is earlier. -/
theorem wall_lt {a b : Stamp} (ha : a.Valid) (hb : b.Valid) (h : a.Earlier b) : a.wall < b.wall := by
  obtain ⟨⟨hy, -⟩, hm, ⟨-, hd⟩, hhour, hminute, hsecond, hmicro, -⟩ := ha
  obtain ⟨-, ⟨-, hm'⟩, ⟨hd', -⟩, -, -, -, -, -⟩ := hb
  rw [wall, wall, microsPerDay, microsPerSecond]
  by_cases hsame : a.year = b.year ∧ a.month = b.month ∧ a.day = b.day
  · obtain ⟨hyear, hmonth, hday⟩ := hsame
    rw [hyear, hmonth, hday]
    rw [Earlier] at h
    push_cast
    omega
  · have hdate : a.year < b.year ∨ a.year = b.year ∧
        (a.month < b.month ∨ a.month = b.month ∧ a.day < b.day) := by
      rw [Earlier] at h
      omega
    have hearlier := Calendar.dayNumber_lt hdate hy hm hd hm' hd'
    push_cast
    omega

/-- Of two instants the earlier one has the earlier stamp. -/
theorem earlier_ofInstant {a b : Int} (ha : InEra a) (hb : InEra b) (h : a < b) :
    (ofInstant a).Earlier (ofInstant b) := by
  by_contra hnot
  by_cases hlater : (ofInstant b).Earlier (ofInstant a)
  · have hless := wall_lt (ofInstant_valid hb) (ofInstant_valid ha) hlater
    rw [wall_ofInstant ha, wall_ofInstant hb] at hless
    omega
  · have hsame : (ofInstant a).wall = (ofInstant b).wall := by
      rw [Earlier] at hnot hlater
      have hyear : (ofInstant a).year = (ofInstant b).year := by omega
      have hmonth : (ofInstant a).month = (ofInstant b).month := by omega
      have hday : (ofInstant a).day = (ofInstant b).day := by omega
      have hhour : (ofInstant a).hour = (ofInstant b).hour := by omega
      have hminute : (ofInstant a).minute = (ofInstant b).minute := by omega
      have hsecond : (ofInstant a).second = (ofInstant b).second := by omega
      have hmicro : (ofInstant a).micro = (ofInstant b).micro := by omega
      rw [wall, wall, hyear, hmonth, hday, hhour, hminute, hsecond, hmicro]
    rw [wall_ofInstant ha, wall_ofInstant hb] at hsame
    omega

end Stamp

end Pressroom
