/-!
Texts as sequences of code points. A text read out of an escaped form may hold half of a surrogate
pair standing alone, which a `String` never does. `Text.ofString` embeds the strings, and
`Text.string?` goes back and fails exactly where a lone half stands.
-/
namespace Pressroom

/-- One code point: a character, or half of a surrogate pair standing alone (`U+D800 + i`). -/
inductive Point where
  | char (c : Char)
  | half (i : Fin 2048)
  deriving DecidableEq

namespace Point

/-- The number of a code point. -/
def code : Point → Nat
  | char c => c.toNat
  | half i => 0xD800 + i.val

/-- The character a code point is, unless it is a lone half. -/
def char? : Point → Option Char
  | char c => some c
  | half _ => none

/-- The code point with this number; numbers past the last one give U+FFFD. -/
def ofCode (n : Nat) : Point :=
  if h : 0xD800 ≤ n ∧ n < 0xE000 then half ⟨n - 0xD800, by omega⟩
  else if n < 0x110000 then char (Char.ofNat n) else char '\uFFFD'

/-- The first half of a pair: U+D800 to U+DBFF. -/
def isHigh (p : Point) : Bool := 0xD800 ≤ p.code && p.code < 0xDC00

/-- The second half of a pair: U+DC00 to U+DFFF. -/
def isLow (p : Point) : Bool := 0xDC00 ≤ p.code && p.code < 0xE000

/-- The character that a first and a second half make together. -/
def join (high low : Point) : Point :=
  ofCode (0x10000 + (high.code - 0xD800) * 0x400 + (low.code - 0xDC00))

instance : Coe Char Point := ⟨char⟩

end Point

/-- A sequence of code points. Its length counts code points. -/
abbrev Text := List Point

namespace Text

def ofChars (cs : List Char) : Text := cs.map Point.char

def ofString (s : String) : Text := ofChars s.toList

/-- The characters of a text, unless a lone half stands in it. -/
def chars? : Text → Option (List Char)
  | [] => some []
  | .char c :: rest => (chars? rest).map (c :: ·)
  | .half _ :: _ => none

/-- The text as a string, unless a lone half stands in it. -/
def string? (t : Text) : Option String := t.chars?.map String.ofList

/-- Puts neighbouring halves of a pair together; halves without a partner stay. -/
def joinHalves : Text → Text
  | [] => []
  | [p] => [p]
  | p :: q :: rest =>
    if p.isHigh && q.isLow then Point.join p q :: joinHalves rest else p :: joinHalves (q :: rest)

/-- The characters as far as the text has them, a lone half shown as U+FFFD. -/
def shown (t : Text) : String := String.ofList (t.map fun p => p.char?.getD '\uFFFD')

theorem chars?_ofChars (cs : List Char) : chars? (ofChars cs) = some cs := by
  induction cs with
  | nil => rfl
  | cons c cs ih => simp only [ofChars, List.map_cons, chars?] at ih ⊢; rw [ih]; rfl

/-- Every string goes into a text and comes back. -/
theorem string?_ofString (s : String) : string? (ofString s) = some s := by
  simp [string?, ofString, chars?_ofChars]

end Text

end Pressroom
