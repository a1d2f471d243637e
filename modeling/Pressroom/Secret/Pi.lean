import Pressroom.Number.Power

/-!
The binary digits of π, from Machin's formula `π = 16·arctan(1/5) - 4·arctan(1/239)` in whole
numbers scaled by a power of two.
-/
namespace Pressroom

namespace Pi

/-- Sums `term/1 - term/(3·q) + …`, the powers of `1/x²` taken one after the other. `power` is the
current power of `1/x`, `k` the odd divisor, and each power is smaller by `x²`. -/
def alternate (x2 : Nat) : Nat → Nat → Nat → Bool → Int → Int
  | 0, _, _, _, total => total
  | fuel + 1, power, k, plus, total =>
    if power = 0 then total
    else
      let term : Int := (power / k : Nat)
      alternate x2 fuel (power / x2) (k + 2) (!plus) (if plus then total + term else total - term)

/-- The arctangent of `1/x` in units of `2^-bits`. -/
def arctan (bits x : Nat) : Int := alternate (x * x) (bits + 1) (twoTo bits / x) 1 true 0

/-- How many bits are computed beyond those that are used. -/
def guardBits : Nat := 64

/-- The first `bits` bits after the point. -/
def fraction (bits : Nat) : Nat :=
  let b := bits + guardBits
  let scaled := (16 * arctan b 5 - 4 * arctan b 239).toNat
  scaled % twoTo b / twoTo guardBits

/-- The last `n` words of 32 bits of a number, the highest first. -/
def splitWords : Nat → Nat → List UInt32 → List UInt32
  | 0, _, ws => ws
  | n + 1, value, ws => splitWords n (value / twoTo 32) (UInt32.ofNat (value % twoTo 32) :: ws)

/-- The first `n` words of 32 bits after the point. -/
def words (n : Nat) : List UInt32 := splitWords n (fraction (32 * n)) []

end Pi

end Pressroom
