import Pressroom.Time.Stamp
import Pressroom.Text.Quoted
import Pressroom.Text.Utf8
import Pressroom.Number.Power

/-!
ISO 8601 text of stamps. The written form is `YYYY-MM-DDThh:mm:ss`, with six decimals when the
microseconds are not zero and with the offset when there is one. The reader accepts calendar and
week dates, with or without separators, any one character before the time, fractions after any part
of the time, and a final `Z` for UTC.
-/
namespace Pressroom

/-- The last `width` decimal digits of a number. -/
def decimalDigits (width : Nat) (n : Nat) : List Char :=
  match width with
  | 0 => []
  | k + 1 => decimalDigits k (n / 10) ++ [Nat.digitChar (n % 10)]

namespace Stamp

/-- The decimals of a second, left out when they are zero. -/
def writeMicro (micro : Nat) : List Char := if micro = 0 then [] else '.' :: decimalDigits 6 micro

/-- An offset as sign, hours and minutes; seconds and decimals only when they are not zero. -/
def writeOffset (offset : Int) : List Char :=
  let size := offset.natAbs
  let seconds := size / 1000000
  let micro := size % 1000000
  let tail :=
    if seconds % 60 = 0 && micro = 0 then []
    else ':' :: decimalDigits 2 (seconds % 60) ++ writeMicro micro
  (if offset < 0 then '-' else '+') ::
    decimalDigits 2 (seconds / 3600) ++ ':' :: decimalDigits 2 (seconds / 60 % 60) ++ tail

/-- The text of a stamp. -/
def write (s : Stamp) : List Char :=
  decimalDigits 4 s.year ++ '-' :: decimalDigits 2 s.month ++ '-' :: decimalDigits 2 s.day ++
    'T' :: decimalDigits 2 s.hour ++ ':' :: decimalDigits 2 s.minute ++
    ':' :: decimalDigits 2 s.second ++ writeMicro s.micro ++
    (match s.offset with
      | some o => writeOffset o
      | none => [])

def iso (s : Stamp) : String := String.ofList s.write

/-! ### Faults -/

/-- Why a text is no stamp. -/
inductive Fault where
  | malformed (text : Text)
  | year (n : Nat)
  | month
  | day
  | hour
  | minute
  | second
  | offset (micros : Int)

/-- A span of time as its days, seconds and microseconds, zeros left out. -/
def spanText (micros : Int) : String :=
  let days := Int.fdiv micros microsPerDay
  let rest := (Int.fmod micros microsPerDay).toNat
  let parts := [("days", days), ("seconds", ((rest / 1000000 : Nat) : Int)),
    ("microseconds", ((rest % 1000000 : Nat) : Int))].filter fun p => p.2 != 0
  let body := if parts.isEmpty then "0"
    else ", ".intercalate (parts.map fun p => s!"{p.1}={p.2}")
  s!"datetime.timedelta({body})"

def Fault.message : Fault → String
  | malformed t => "Invalid isoformat string: " ++ Text.shown t.quoted
  | year n => s!"year {n} is out of range"
  | month => "month must be in 1..12"
  | day => "day is out of range for month"
  | hour => "hour must be in 0..23"
  | minute => "minute must be in 0..59"
  | second => "second must be in 0..59"
  | offset m => "offset must be a timedelta strictly between -timedelta(hours=24) and "
      ++ s!"timedelta(hours=24), not {spanText m}."

/-! ### Reading -/

def digitByte? (b : Nat) : Option Nat := if 48 ≤ b ∧ b ≤ 57 then some (b - 48) else none

def isDigitByte (b : Nat) : Bool := (digitByte? b).isSome

/-- The number that the first `n` bytes write, all of them digits, and the bytes after them. -/
def takeDigits (n : Nat) (bs : List Nat) : Option (Nat × List Nat) :=
  let ds := (bs.take n).filterMap digitByte?
  if ds.length = n then some (ds.foldl (fun a d => 10 * a + d) 0, bs.drop n) else none

/-- How many bytes the date takes up. In a compact week date digits that follow belong to the date
or to the time by their number. -/
def dateLength? (bs : List Nat) : Option Nat :=
  let byte := fun i => bs.getD i 0
  let len := bs.length
  let dash := '-'.toNat
  if len = 7 then some 7
  else if byte 4 = dash then
    if byte 5 = 'W'.toNat then
      if len > 8 && byte 8 = dash then
        if len = 9 then none else if len > 10 && isDigitByte (byte 10) then some 8 else some 10
      else some 8
    else some 10
  else if byte 4 = 'W'.toNat then
    let run := 7 + ((bs.drop 7).takeWhile isDigitByte).length
    if run < 9 then some run else if run % 2 = 0 then some 7 else some 8
  else some 8

/-- The day of a week date, unless the week or the weekday does not exist. -/
def ofWeek? (year week weekday : Nat) : Option (Nat × Nat × Nat) :=
  let weekOk := (1 ≤ week && week ≤ 52) || (week = 53 && Calendar.hasLongYear year)
  if weekOk && 1 ≤ weekday && weekday ≤ 7 then
    let number := Calendar.firstMonday year + ((week : Int) - 1) * 7 + (weekday : Int) - 1
    if year = 0 || number < 1 then some (0, 1, 1) else some (Calendar.ofDayNumber number.toNat)
  else none

/-- Takes a dash off the front if one stands there. -/
def takeDash : List Nat → Bool × List Nat
  | b :: rest => if b = '-'.toNat then (true, rest) else (false, b :: rest)
  | [] => (false, [])

/-- Passes the separator between two parts of a date: a dash if the date uses dashes. -/
def passDash (dashes : Bool) (bs : List Nat) : Option (List Nat) :=
  if dashes then (let (found, rest) := takeDash bs; if found then some rest else none) else some bs

/-- Reads a date that takes up all of the bytes. The numbers are not checked against the calendar,
except for week dates. -/
def readDate (bs : List Nat) : Option (Nat × Nat × Nat) := do
  let (year, rest) ← takeDigits 4 bs
  let (dashes, rest) := takeDash rest
  if rest.head? = some 'W'.toNat then
    let (week, rest) ← takeDigits 2 rest.tail
    if rest.isEmpty then ofWeek? year week 1
    else
      let rest ← passDash dashes rest
      let (weekday, _) ← takeDigits 1 rest
      ofWeek? year week weekday
  else
    let (month, rest) ← takeDigits 2 rest
    let rest ← passDash dashes rest
    let (day, rest) ← takeDigits 2 rest
    if rest.isEmpty then return (year, month, day) else none

/-- A time of day or an offset as read: unchecked numbers, and whether something was left over. -/
structure Clock where
  hour : Nat
  minute : Nat
  second : Nat
  micro : Nat
  leftover : Bool

/-- The decimals of a second: up to six digits count and further digits are passed over. `next` is
the byte after the time. -/
def readMicro (next : Nat) (bs : List Nat) : Option (Nat × Bool) := do
  let n := min 6 bs.length
  let (value, rest) ← takeDigits n bs
  let rest := rest.dropWhile isDigitByte
  return (value * tenTo (6 - n), rest.headD next != 0)

/-- What follows two digits of a time. -/
inductive Follow where
  | stop (leftover : Bool)
  | fraction (bs : List Nat)
  | part (colons : Bool) (bs : List Nat)
  | fault

/-- Decides what follows two digits. `colons` says whether the parts are separated by colons, which
the first separator settles; `next` is the byte after the time. -/
def follow (colons : Option Bool) (next : Nat) : List Nat → Follow
  | [] => .stop (next != 0)
  | [b] => .stop (b != 0)
  | b :: rest =>
    let colon := b = ':'.toNat
    let separated := colons.getD colon
    if separated && colon then .part separated rest
    else if b = '.'.toNat || b = ','.toNat then .fraction rest
    else if separated then .fault
    else .part separated (b :: rest)

/-- Reads `hh`, `hhmm`, `hhmmss` with or without colons, and a fraction after any part. -/
def readClock (next : Nat) (bs : List Nat) : Option Clock := do
  let (hour, rest) ← takeDigits 2 bs
  match follow none next rest with
  | .fault => none
  | .stop leftover => return ⟨hour, 0, 0, 0, leftover⟩
  | .fraction rest =>
    let (micro, leftover) ← readMicro next rest
    return ⟨hour, 0, 0, micro, leftover⟩
  | .part colons rest =>
    let (minute, rest) ← takeDigits 2 rest
    match follow (some colons) next rest with
    | .fault => none
    | .stop leftover => return ⟨hour, minute, 0, 0, leftover⟩
    | .fraction rest =>
      let (micro, leftover) ← readMicro next rest
      return ⟨hour, minute, 0, micro, leftover⟩
    | .part colons rest =>
      let (second, rest) ← takeDigits 2 rest
      match follow (some colons) next rest with
      | .fault => none
      | .stop leftover => return ⟨hour, minute, second, 0, leftover⟩
      | .fraction rest | .part _ rest =>
        let (micro, leftover) ← readMicro next rest
        return ⟨hour, minute, second, micro, leftover⟩

/-- The bytes that begin an offset. -/
def isOffsetMark (b : Nat) : Bool := b = '+'.toNat || b = '-'.toNat || b = 'Z'.toNat

/-- Reads an offset from its mark on. An offset of no whole second counts as none at all. -/
def readOffset : List Nat → Option Int
  | [] => none
  | mark :: rest =>
    if mark = 'Z'.toNat then (if rest.headD 0 = 0 then some 0 else none)
    else do
      let c ← readClock 0 rest
      if c.leftover then none
      else
        let seconds : Int := (c.hour * 3600 + c.minute * 60 + c.second : Nat)
        let size := if seconds = 0 then 0 else seconds * microsPerSecond + c.micro
        return (if mark = '-'.toNat then -size else size)

/-- Reads a time and the offset after it, if there is one. Whatever stands between the time and the
offset is passed over; at the end of the text nothing may stand. -/
def readTime (bs : List Nat) : Option (Clock × Option Int) := do
  let before := bs.takeWhile fun b => !isOffsetMark b
  let after := bs.dropWhile fun b => !isOffsetMark b
  let c ← readClock (after.headD 0) before
  if after.isEmpty then (if c.leftover then none else return (c, none))
  else return (c, some (← readOffset after))

/-- The bytes after the first character. -/
def dropCharacter : List Nat → List Nat
  | [] => []
  | b :: rest =>
    if b < 0x80 then rest else if b < 0xE0 then rest.drop 1
    else if b < 0xF0 then rest.drop 2 else rest.drop 3

/-- Checks the numbers of a stamp against the calendar and the clock. -/
def checked (s : Stamp) : Except Fault Stamp :=
  if s.offset.any fun o => o ≤ -microsPerDay || microsPerDay ≤ o then
    .error (.offset (s.offset.getD 0))
  else if s.year < 1 || 9999 < s.year then .error (.year s.year)
  else if s.month < 1 || 12 < s.month then .error .month
  else if s.day < 1 || Calendar.daysInMonth s.year s.month < s.day then .error .day
  else if 23 < s.hour then .error .hour
  else if 59 < s.minute then .error .minute
  else if 59 < s.second then .error .second
  else .ok s

/-- The numbers of a stamp as the bytes write them. -/
def readNumbers (bs : List Nat) : Option Stamp := do
  let n ← dateLength? bs
  let (year, month, day) ← readDate (bs.take n)
  match bs.drop n with
  | [] => return ⟨year, month, day, 0, 0, 0, 0, none⟩
  | rest =>
    let (c, offset) ← readTime (dropCharacter rest)
    return ⟨year, month, day, c.hour, c.minute, c.second, c.micro, offset⟩

/-- A lone half may stand between date and time; it is read like any other character there. -/
def plainSeparator (t : Text) : Text :=
  match [7, 8, 10].find? fun i => (t[i]?).any fun p => p.char?.isNone with
  | some i => t.set i (.char 'T')
  | none => t

/-- Reads a text without a final `Z`. -/
def readNumeric (t : Text) : Except Fault Stamp :=
  if t.length < 7 then .error (.malformed t)
  else match (plainSeparator t).chars? with
    | none => .error (.malformed t)
    | some cs =>
      match readNumbers (Text.ofChars cs).utf8 with
      | none => .error (.malformed t)
      | some s => checked s

/-- Reads a stamp; a final `Z` is short for the offset zero. -/
def read (t : Text) : Except Fault Stamp :=
  if t.getLast? = some (.char 'Z') then readNumeric (t.dropLast ++ Text.ofString "+00:00")
  else readNumeric t

end Stamp

end Pressroom
