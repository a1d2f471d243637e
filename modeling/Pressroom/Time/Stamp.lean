import Pressroom.Time.Calendar

/-!
Dates with a time of day down to microseconds, either without an offset from UTC or with one.
Stamps with an offset compare as instants; a stamp without one never equals a stamp with one.
-/
namespace Pressroom

/-- Microseconds since the beginning of 1970 in UTC. -/
abbrev Instant := Int

def microsPerSecond : Int := 1000000
def microsPerDay : Int := 86400 * microsPerSecond

/-- The count of the first day of 1970. -/
def epochDay : Int := Calendar.dayNumber 1970 1 1

/-- A date and a time of day. The offset counts microseconds east of UTC. -/
structure Stamp where
  year : Nat
  month : Nat
  day : Nat
  hour : Nat
  minute : Nat
  second : Nat
  micro : Nat
  offset : Option Int
  deriving DecidableEq

namespace Stamp

/-- What a stamp has to satisfy to be a date and time of the years 1 to 9999. -/
def Valid (s : Stamp) : Prop :=
  (1 ≤ s.year ∧ s.year ≤ 9999) ∧ (1 ≤ s.month ∧ s.month ≤ 12) ∧
    (1 ≤ s.day ∧ s.day ≤ Calendar.daysInMonth s.year s.month) ∧
    s.hour < 24 ∧ s.minute < 60 ∧ s.second < 60 ∧ s.micro < 1000000 ∧
    ∀ o ∈ s.offset, -microsPerDay < o ∧ o < microsPerDay

/-- Microseconds of the clock on the wall since the beginning of 1970. -/
def wall (s : Stamp) : Int :=
  ((Calendar.dayNumber s.year s.month s.day : Int) - epochDay) * microsPerDay
    + ((s.hour * 3600 + s.minute * 60 + s.second : Nat) : Int) * microsPerSecond + s.micro

/-- The instant of a stamp, without an offset as if in UTC. -/
def instant (s : Stamp) : Instant := s.wall - s.offset.getD 0

/-- Equality of stamps as times. -/
def same (a b : Stamp) : Bool :=
  match a.offset, b.offset with
  | some _, some _ => a.instant == b.instant
  | none, none => a.wall == b.wall
  | _, _ => false

/-- The stamp of an instant in UTC. -/
def ofInstant (t : Instant) : Stamp :=
  let days := Int.fdiv t microsPerDay
  let rest := (Int.fmod t microsPerDay).toNat
  let (year, month, day) := Calendar.ofDayNumber (epochDay + days).toNat
  let seconds := rest / 1000000
  { year, month, day, hour := seconds / 3600, minute := seconds / 60 % 60, second := seconds % 60,
    micro := rest % 1000000, offset := some 0 }

end Stamp

end Pressroom
