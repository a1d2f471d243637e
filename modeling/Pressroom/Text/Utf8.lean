import Pressroom.Text.Point

/-!
UTF-8. Bytes are numbers below 256. Writing is defined for every text; a lone half is written as
three bytes that no valid UTF-8 contains. Reading takes one well-formed character off the front.
-/
namespace Pressroom

/-- The bytes of one code point. -/
def utf8Code (n : Nat) : List Nat :=
  if n < 0x80 then [n]
  else if n < 0x800 then [0xC0 + n / 0x40, 0x80 + n % 0x40]
  else if n < 0x10000 then [0xE0 + n / 0x1000, 0x80 + n / 0x40 % 0x40, 0x80 + n % 0x40]
  else [0xF0 + n / 0x40000, 0x80 + n / 0x1000 % 0x40, 0x80 + n / 0x40 % 0x40, 0x80 + n % 0x40]

/-- The bytes of a text. -/
def Text.utf8 (t : Text) : List Nat := t.flatMap fun p => utf8Code p.code

/-- The bytes of a string. -/
def utf8 (s : String) : List Nat := s.toList.flatMap fun c => utf8Code c.toNat

/-- The bytes of a string as machine bytes. -/
def utf8Bytes (s : String) : List UInt8 := (utf8 s).map UInt8.ofNat

/-- A continuation byte. -/
def isTail (b : Nat) : Bool := 0x80 ≤ b && b < 0xC0

/-- How a byte sequence begins. -/
inductive Utf8Front where
  | char (code : Nat) (rest : List Nat)
  | malformed
  | done

/-- Takes one character off the front of a byte sequence. Overlong forms, surrogates and numbers
past the last code point are malformed. -/
def utf8Front : List Nat → Utf8Front
  | [] => .done
  | a :: rest =>
    if a < 0x80 then .char a rest
    else match rest with
      | b :: rest =>
        if 0xC2 ≤ a && a < 0xE0 && isTail b then .char ((a - 0xC0) * 0x40 + (b - 0x80)) rest
        else match rest with
          | c :: rest =>
            let n := ((a - 0xE0) * 0x40 + (b - 0x80)) * 0x40 + (c - 0x80)
            if 0xE0 ≤ a && a < 0xF0 && isTail b && isTail c && 0x800 ≤ n
                && !(0xD800 ≤ n && n < 0xE000) then .char n rest
            else match rest with
              | d :: rest =>
                let n := (((a - 0xF0) * 0x40 + (b - 0x80)) * 0x40 + (c - 0x80)) * 0x40 + (d - 0x80)
                if 0xF0 ≤ a && a < 0xF5 && isTail b && isTail c && isTail d && 0x10000 ≤ n
                    && n < 0x110000 then .char n rest
                else .malformed
              | [] => .malformed
          | [] => .malformed
      | [] => .malformed

end Pressroom
