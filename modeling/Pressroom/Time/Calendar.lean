/-!
The Gregorian calendar. Days are counted from the first day of year 1, which is day 1; weeks start
on Monday, and the first week of a year is the one that holds its first Thursday.
-/
namespace Pressroom

namespace Calendar

def isLeap (year : Nat) : Bool := year % 4 == 0 && (year % 100 != 0 || year % 400 == 0)

/-- The lengths of the twelve months. -/
def monthLengths (leap : Bool) : List Nat :=
  [31, if leap then 29 else 28, 31, 30, 31, 30, 31, 31, 30, 31, 30, 31]

def daysInMonth (year month : Nat) : Nat := (monthLengths (isLeap year)).getD (month - 1) 0

/-- Days in the years before this one. -/
def daysBeforeYear (year : Nat) : Nat :=
  let y := year - 1
  365 * y + y / 4 - y / 100 + y / 400

/-- Days of the year before the first of this month. -/
def daysBeforeMonth (year month : Nat) : Nat := 
  ((monthLengths (isLeap year)).take (month - 1)).foldl (· + ·) 0

/-- The count of a day. -/
def dayNumber (year month day : Nat) : Nat :=
  daysBeforeYear year + daysBeforeMonth year month + day

/-- Finds the month that holds the `d`-th day (from zero), starting with month `m`. -/
def splitMonths (m : Nat) : List Nat → Nat → Nat × Nat
  | [], d => (m, d)
  | len :: rest, d => if d < len then (m, d) else splitMonths (m + 1) rest (d - len)

/-- Year, month and day of a day count. -/
def ofDayNumber (number : Nat) : Nat × Nat × Nat :=
  let n := number - 1
  let c400 := n / 146097
  let n := n % 146097
  let c100 := min 3 (n / 36524)
  let n := n - c100 * 36524
  let c4 := n / 1461
  let n := n % 1461
  let c1 := min 3 (n / 365)
  let n := n - c1 * 365
  let year := 400 * c400 + 100 * c100 + 4 * c4 + c1 + 1
  let (month, d) := splitMonths 1 (monthLengths (isLeap year)) n
  (year, month, d + 1)

/-- The day of the week, Monday being zero. -/
def weekday (year month day : Nat) : Nat := (dayNumber year month day + 6) % 7

/-- The count of the Monday that starts the first week of a year. Day counts may fall below one in
year 1, so this is an integer. -/
def firstMonday (year : Nat) : Int :=
  let first : Int := dayNumber year 1 1
  let w := weekday year 1 1
  if w > 3 then first - w + 7 else first - w

/-- Whether a year has a fifty-third week. -/
def hasLongYear (year : Nat) : Bool :=
  let w := weekday year 1 1
  w == 3 || (w == 2 && isLeap year)

end Calendar

end Pressroom
