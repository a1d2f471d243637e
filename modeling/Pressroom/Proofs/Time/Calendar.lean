import Mathlib.Algebra.Ring.Nat
import Pressroom.Time.Stamp

/-!
Every instant of the years 1 to 9999 is the instant of a real date: the year, the month and the day
that are counted back from a day number lie within the calendar, and so the stamp of such an instant
satisfies `Stamp.Valid`.
-/
namespace Pressroom

namespace Calendar

/-! ### Months -/

/-- The month that is found is one of the list, and the day that is left lies within it. -/
theorem splitMonths_bounds : ∀ (lens : List Nat) (m d : Nat), d < lens.sum →
    m ≤ (splitMonths m lens d).1 ∧ (splitMonths m lens d).1 < m + lens.length ∧
      (splitMonths m lens d).2 < lens.getD ((splitMonths m lens d).1 - m) 0
  | [], m, d, h => by simp at h
  | len :: rest, m, d, h => by
    rw [splitMonths]
    by_cases hd : d < len
    · rw [if_pos hd]; simpa using hd
    · rw [if_neg hd]
      rw [List.sum_cons] at h
      obtain ⟨hlo, hhi, hday⟩ := splitMonths_bounds rest (m + 1) (d - len) (by omega)
      refine ⟨by omega, by rw [List.length_cons]; omega, ?_⟩
      obtain ⟨k, hk⟩ := Nat.exists_eq_add_of_le hlo
      have hback : (splitMonths (m + 1) rest (d - len)).1 - m = k + 1 := by omega
      have hrest : (splitMonths (m + 1) rest (d - len)).1 - (m + 1) = k := by omega
      rw [hback, List.getD_cons_succ, ← hrest]; exact hday

theorem sum_monthLengths (leap : Bool) :
    (monthLengths leap).sum = if leap then 366 else 365 := by
  cases leap <;> rfl

theorem length_monthLengths (leap : Bool) : (monthLengths leap).length = 12 := by
  cases leap <;> rfl

theorem daysInMonth_le (year month : Nat) : daysInMonth year month ≤ 31 := by
  have hall : ∀ leap, ∀ n ∈ monthLengths leap, n ≤ 31 := by decide
  rw [daysInMonth, List.getD_eq_getElem?_getD]
  cases hget : (monthLengths (isLeap year))[month - 1]? with
  | none => exact Nat.zero_le _
  | some n => exact hall _ n (List.mem_of_getElem? hget)

/-! ### Years -/

theorem isLeap_iff (year : Nat) :
    isLeap year = true ↔ year % 4 = 0 ∧ (year % 100 ≠ 0 ∨ year % 400 = 0) := by
  simp [isLeap]

/-- The year of a day and the day's place in it: the four divisions of `ofDayNumber`. -/
def splitYears (number : Nat) : Nat × Nat :=
  let n := number - 1
  let c400 := n / 146097
  let n := n % 146097
  let c100 := min 3 (n / 36524)
  let n := n - c100 * 36524
  let c4 := n / 1461
  let n := n % 1461
  let c1 := min 3 (n / 365)
  (400 * c400 + 100 * c100 + 4 * c4 + c1 + 1, n - c1 * 365)

theorem ofDayNumber_eq (number : Nat) :
    ofDayNumber number =
      ((splitYears number).1,
        (splitMonths 1 (monthLengths (isLeap (splitYears number).1)) (splitYears number).2).1,
        (splitMonths 1 (monthLengths (isLeap (splitYears number).1)) (splitYears number).2).2 + 1) :=
  rfl

/-- The number of the last day of the year 9999. -/
def lastDay : Nat := 3652059

theorem splitYears_year (number : Nat) (h : number ≤ lastDay) :
    1 ≤ (splitYears number).1 ∧ (splitYears number).1 ≤ 9999 := by
  simp only [splitYears, lastDay] at *
  omega

/-- The place of a day lies within its year; only leap years have a 366th day. -/
theorem splitYears_place (number : Nat) :
    (splitYears number).2 < if isLeap (splitYears number).1 then 366 else 365 := by
  have hday : (splitYears number).2 < 366 ∧ ((splitYears number).2 = 365 →
      (splitYears number).1 % 4 = 0 ∧
        ((splitYears number).1 % 100 ≠ 0 ∨ (splitYears number).1 % 400 = 0)) := by
    simp only [splitYears]
    omega
  rw [← isLeap_iff] at hday
  by_cases hleap : isLeap (splitYears number).1 = true
  · rw [if_pos hleap]; exact hday.1
  · rw [if_neg hleap]
    have hne : (splitYears number).2 ≠ 365 := fun h => hleap (hday.2 h)
    omega

/-- A day number of the years 1 to 9999 stands for a real date. -/
theorem ofDayNumber_valid (number : Nat) (h : number ≤ lastDay) :
    (1 ≤ (ofDayNumber number).1 ∧ (ofDayNumber number).1 ≤ 9999) ∧
      (1 ≤ (ofDayNumber number).2.1 ∧ (ofDayNumber number).2.1 ≤ 12) ∧
      1 ≤ (ofDayNumber number).2.2 ∧
      (ofDayNumber number).2.2 ≤ daysInMonth (ofDayNumber number).1 (ofDayNumber number).2.1 := by
  rw [ofDayNumber_eq]
  have hsum : (splitYears number).2 < (monthLengths (isLeap (splitYears number).1)).sum := by
    rw [sum_monthLengths]; exact splitYears_place number
  obtain ⟨hlo, hhi, hday⟩ := splitMonths_bounds _ 1 _ hsum
  rw [length_monthLengths] at hhi
  exact ⟨splitYears_year number h, ⟨hlo, Nat.le_of_lt_succ hhi⟩, Nat.le_add_left 1 _, hday⟩

end Calendar

/-- The instants that dates can show: those of the years 1 to 9999. -/
def InEra (t : Int) : Prop :=
  (1 - epochDay) * microsPerDay ≤ t ∧ t < (Calendar.lastDay + 1 - epochDay) * microsPerDay

theorem inEra_zero : InEra 0 := by rw [InEra]; decide

theorem epochDay_eq : epochDay = 719163 := by decide

/-- The stamp of an instant of the years 1 to 9999 is a real date and time in UTC. -/
theorem Stamp.ofInstant_valid {t : Instant} (h : InEra t) : (Stamp.ofInstant t).Valid := by
  obtain ⟨-, hend⟩ := h
  have hdays : (epochDay + Int.fdiv t microsPerDay).toNat ≤ Calendar.lastDay := by
    rw [Int.fdiv_eq_ediv_of_nonneg _ (by decide)]
    simp only [epochDay_eq, microsPerDay, microsPerSecond, Calendar.lastDay] at *
    omega
  have hrest : (Int.fmod t microsPerDay).toNat < 86400000000 := by
    rw [Int.fmod_eq_emod_of_nonneg _ (by decide)]
    simp only [microsPerDay, microsPerSecond]
    omega
  obtain ⟨hyear, hmonth, hday⟩ := Calendar.ofDayNumber_valid _ hdays
  refine ⟨hyear, hmonth, hday, ?_, ?_, ?_, ?_, ?_⟩ <;> simp only [Stamp.ofInstant]
  · omega
  · omega
  · omega
  · omega
  · rintro o ⟨⟩
    decide

end Pressroom
