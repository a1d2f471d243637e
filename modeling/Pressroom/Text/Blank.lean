import Pressroom.Text.Point

/-!
White space as Unicode has it, and stripping it from both ends of a text. The ends of a stripped
text are never blank.
-/
namespace Pressroom

/-- The code points with the Unicode property White_Space, and the four separators
U+001C to U+001F. -/
def blankRanges : List (Nat × Nat) :=
  [(0x09, 0x0D), (0x1C, 0x20), (0x85, 0x85), (0xA0, 0xA0), (0x1680, 0x1680), (0x2000, 0x200A),
    (0x2028, 0x2029), (0x202F, 0x202F), (0x205F, 0x205F), (0x3000, 0x3000)]

/-- Whether a number lies in one of the ranges, ends included. -/
def inRanges (ranges : List (Nat × Nat)) (n : Nat) : Bool :=
  ranges.any fun r => r.1 ≤ n && n ≤ r.2

def isBlankCode (n : Nat) : Bool := inRanges blankRanges n

namespace Point

def isBlank (p : Point) : Bool := isBlankCode p.code

end Point

/-- Drops from both ends the elements that satisfy `p`. -/
def trimBoth {α : Type} (p : α → Bool) (xs : List α) : List α :=
  ((xs.dropWhile p).reverse.dropWhile p).reverse

namespace Text

/-- The text without the white space at its two ends. -/
def strip (t : Text) : Text := trimBoth Point.isBlank t

end Text

/-- The string without the white space at its two ends. -/
def stripString (s : String) : String :=
  String.ofList (trimBoth (fun c => isBlankCode c.toNat) s.toList)

end Pressroom
