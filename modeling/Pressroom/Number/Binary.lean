import Pressroom.Number.Power

/-!
Binary floating-point numbers of double precision, as exact values: a sign, a whole mantissa below
`2^53` and a power of two. Rounding a fraction goes to the nearest such number, ties to the even
mantissa; all comparisons are exact.
-/
namespace Pressroom

/-- A double-precision number. `finite s m e` is `m · 2^e`, negated when `s` holds. -/
inductive Binary where
  | nan
  | infinite (negative : Bool)
  | finite (negative : Bool) (mantissa : Nat) (exponent : Int)
  deriving DecidableEq

namespace Binary

/-- The least number that is too large for a mantissa: two to the fifty-third power. -/
def mantissaLimit : Nat := 0x20000000000000

/-- The exponent of the numbers nearest to zero. -/
def leastExponent : Int := -1074

/-- The largest exponent of a finite number with a mantissa below `2^53`. -/
def greatestExponent : Int := 971

/-- `num / den` rounded to a whole number, a half to the even neighbour. -/
def roundEven (num den : Nat) : Nat :=
  let q := num / den
  let twice := 2 * (num % den)
  if twice > den || (twice == den && q % 2 == 1) then q + 1 else q

/-- `num / den` in units of `2^e`, as a fraction of whole numbers. -/
def scaled (num den : Nat) (e : Int) : Nat × Nat :=
  if e ≥ 0 then (num, den * twoTo e.toNat) else (num * twoTo (-e).toNat, den)

/-- The exponent at which `num / den` has a mantissa of 53 bits, and never below the least. -/
def fittingExponent (num den : Nat) : Int :=
  let guess : Int := (num.log2 : Int) - (den.log2 : Int) - 53
  let (n, d) := scaled num den guess
  let fitting := if n / d < mantissaLimit then guess else guess + 1
  max fitting leastExponent

/-- The number nearest to `num / den`. -/
def ofRatio (negative : Bool) (num den : Nat) : Binary :=
  if num = 0 then finite negative 0 leastExponent
  else
    let e := fittingExponent num den
    let (n, d) := scaled num den e
    let m := roundEven n d
    let (m, e) := if m = mantissaLimit then (mantissaLimit / 2, e + 1) else (m, e)
    if e > greatestExponent then infinite negative else finite negative m e

/-- The number nearest to `digits · 10^power`. -/
def ofDecimal (negative : Bool) (digits : Nat) (power : Int) : Binary :=
  let size : Int := ((toString digits).length : Int) + power
  if digits = 0 || size < -400 then finite negative 0 leastExponent
  else if size > 400 then infinite negative
  else if power ≥ 0 then ofRatio negative (digits * tenTo power.toNat) 1
  else ofRatio negative digits (tenTo (-power).toNat)

def isZero : Binary → Bool
  | finite _ 0 _ => true
  | _ => false

/-- A signed whole number of the given size. -/
def signed (negative : Bool) (n : Nat) : Int := if negative then -(n : Int) else n

/-- The whole part, toward zero; NaN and the infinities have none. -/
def truncate? : Binary → Option Int
  | finite s m e => some (signed s (if e ≥ 0 then m * twoTo e.toNat else m / twoTo (-e).toNat))
  | _ => none

/-- How a number compares with a whole number; NaN compares with none. -/
def compareWhole? (x : Binary) (n : Int) : Option Ordering :=
  match x with
  | nan => none
  | infinite s => some (if s then .lt else .gt)
  | finite s m e =>
    if e ≥ 0 then some (compare (signed s (m * twoTo e.toNat)) n)
    else some (compare (signed s m) (n * twoTo (-e).toNat))

/-- Equality of values: NaN equals nothing, and the two zeros are equal. -/
def sameValue : Binary → Binary → Bool
  | infinite s, infinite t => s == t
  | finite s m e, finite t n f =>
    let low := min e f
    signed s (m * twoTo (e - low).toNat) == signed t (n * twoTo (f - low).toNat)
  | _, _ => false

/-- Order of values: NaN is at most nothing and nothing is at most NaN. -/
def le : Binary → Binary → Bool
  | nan, _ => false
  | _, nan => false
  | infinite true, _ => true
  | _, infinite false => true
  | infinite false, _ => false
  | _, infinite true => false
  | finite s m e, finite t n f =>
    let low := min e f
    signed s (m * twoTo (e - low).toNat) ≤ signed t (n * twoTo (f - low).toNat)

end Binary

end Pressroom
