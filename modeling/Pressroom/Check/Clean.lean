import Pressroom.Json.Basic

/-!
Cleaning text: control characters go, the rest is cut to a length, and then the white space at the
two ends goes.
-/
namespace Pressroom

/-- The control characters U+0000 to U+001F and U+007F to U+009F. -/
def isControlCode (n : Nat) : Bool := n ≤ 0x1F || (0x7F ≤ n && n ≤ 0x9F)

def Point.isControl (p : Point) : Bool := isControlCode p.code

/-- The part of a list before a limit; a negative limit counts back from the end. -/
def cutAt {α : Type} (limit : Int) (xs : List α) : List α :=
  if 0 ≤ limit then xs.take limit.toNat else xs.take (xs.length - limit.natAbs)

namespace Text

/-- The text without its control characters. -/
def withoutControls (t : Text) : Text := t.filter fun p => !p.isControl

/-- Removes controls, cuts at the limit and strips. -/
def clean (limit : Int) (t : Text) : Text := strip (cutAt limit t.withoutControls)

end Text

/-- The limit that applies where none is given. -/
def defaultCleanLimit : Int := 255

/-- Cleans any value: what counts as false becomes empty, other values are taken as text. -/
def Json.clean (limit : Int) (v : Json) : Text :=
  if v.truthy then v.display.clean limit else []

end Pressroom
