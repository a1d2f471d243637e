import Pressroom.Number.Binary

/-!
The shortest decimal text of a double-precision number: the fewest significant digits that round
back to it, and of two such decimals the nearer one. Positional from `10^-4` up to `10^16`, with an
exponent of at least two digits outside.
-/
namespace Pressroom

namespace Binary

/-- A decimal `digits · 10^power`. -/
structure Decimal where
  digits : Nat
  power : Int

/-- The value of a decimal as a fraction. -/
def Decimal.fraction (d : Decimal) : Nat × Nat :=
  if d.power ≥ 0 then (d.digits * tenTo d.power.toNat, 1) else (d.digits, tenTo (-d.power).toNat)

/-- The nearest multiple of `10^power` to `num / den`, the even one of two equally near. -/
def onGrid (num den : Nat) (power : Int) : Decimal :=
  let digits :=
    if power ≥ 0 then roundEven num (den * tenTo power.toNat)
    else roundEven (num * tenTo (-power).toNat) den
  ⟨digits, power⟩

/-- The power of ten of the first significant digit of `num / den`, as far as whole digit counts
tell; the true power is this one or one less. -/
def leadingPower (num den : Nat) : Int :=
  ((toString num).length : Int) - ((toString den).length : Int)

/-- Tries coarse grids first: `fuel` grids from `power` down. -/
def firstThatReadsBack (x : Binary) (num den : Nat) : Nat → Int → Decimal
  | 0, power => onGrid num den power
  | fuel + 1, power =>
    let d := onGrid num den power
    if ofDecimal false d.digits d.power = x then d
    else firstThatReadsBack x num den fuel (power - 1)

/-- The shortest decimal that rounds to `m · 2^e`. -/
def shortest (m : Nat) (e : Int) : Decimal :=
  let (num, den) := if e ≥ 0 then (m * twoTo e.toNat, 1) else (m, twoTo (-e).toNat)
  firstThatReadsBack (finite false m e) num den 20 (leadingPower num den)

/-- The decimal without zeros at its end. -/
def Decimal.trimmed (d : Decimal) : List Char × Int :=
  let cs := (toString d.digits).toList
  let kept := (cs.reverse.dropWhile (· == '0')).reverse
  (kept, d.power + (cs.length - kept.length : Nat))

/-- The text of `0.ds · 10^point` with a point always shown. -/
def positional (ds : List Char) (point : Int) : List Char :=
  if point ≤ 0 then
    ['0', '.'] ++ List.replicate (-point).toNat '0' ++ ds
  else if point ≥ ds.length then
    ds ++ List.replicate (point - ds.length).toNat '0' ++ ['.', '0']
  else ds.take point.toNat ++ ['.'] ++ ds.drop point.toNat

/-- The text with one digit before the point and a power of ten after `e`. -/
def scientific (ds : List Char) (exponent : Int) : List Char :=
  let size := (toString exponent.natAbs).toList
  let padded := if size.length < 2 then '0' :: size else size
  let sign := if exponent < 0 then '-' else '+'
  let fraction := if ds.length ≤ 1 then [] else '.' :: ds.drop 1
  ds.take 1 ++ fraction ++ ['e', sign] ++ padded

/-- The shortest text of a number. -/
def render : Binary → String
  | nan => "nan"
  | infinite s => if s then "-inf" else "inf"
  | finite s m e =>
    let body :=
      if m = 0 then ['0', '.', '0']
      else
        let (ds, power) := (shortest m e).trimmed
        let point : Int := ds.length + power
        if -4 < point && point ≤ 16 then positional ds point else scientific ds (point - 1)
    String.ofList (if s then '-' :: body else body)

end Binary

end Pressroom
