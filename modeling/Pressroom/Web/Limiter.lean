import Pressroom.Time.Stamp

/-!
Limits on how often something may happen within a minute. The minute begins with the first hit and
ends exactly sixty seconds later; every hit in it counts, whether it was admitted or not.
-/
namespace Pressroom

namespace Web

/-- The minute that is running for something: when it ends, and the hits so far. -/
structure Window (κ : Type) where
  key : κ
  ends : Instant
  hits : Nat

/-- The minutes that are running. -/
abbrev Limiter (κ : Type) := List (Window κ)

namespace Limiter

variable {κ : Type} [DecidableEq κ]

/-- How long a window is. -/
def span : Int := 60 * microsPerSecond

/-- The window of a key with one more hit in it; a new one if none is running. -/
def strike (l : Limiter κ) (key : κ) (now : Instant) : Window κ :=
  match l.find? fun w => w.key = key && now < w.ends with
  | some w => { w with hits := w.hits + 1 }
  | none => ⟨key, now + span, 1⟩

/-- Counts a hit, and says whether it is within the limit. -/
def hit (l : Limiter κ) (key : κ) (now : Instant) (limit : Nat) : Limiter κ × Bool :=
  let w := l.strike key now
  (w :: l.filter (fun v => v.key ≠ key), w.hits ≤ limit)

end Limiter

end Web

end Pressroom
