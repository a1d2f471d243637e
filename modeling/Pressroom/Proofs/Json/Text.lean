import Pressroom.Json.Reader
import Pressroom.Json.Writer
import Pressroom.Proofs.Text.Point

/-!
Texts inside JSON. A text that is written is read back code point by code point, with the characters
past U+FFFF as two halves each; putting the halves together gives the text again, if it was joined.
-/
namespace Pressroom

namespace Json

/-! ### Units of sixteen bits -/

theorem hexValue?_hexDigit (n : Nat) : hexValue? (hexDigit n) = some (n % 16) := by
  have hall : ∀ d < 16, hexValue? (Nat.digitChar d) = some d := by decide
  exact hall _ (Nat.mod_lt _ (by decide))

theorem hexDigits_four (n : Nat) : hexDigits 4 n =
    [hexDigit (n / 16 / 16 / 16), hexDigit (n / 16 / 16), hexDigit (n / 16), hexDigit n] := rfl

/-- The digits of a unit are read back. -/
theorem hexUnit?_digits {n : Nat} (h : n < 0x10000) :
    hexUnit? (hexDigit (n / 16 / 16 / 16)) (hexDigit (n / 16 / 16)) (hexDigit (n / 16)) (hexDigit n)
      = some n := by
  have hvalue : ((n / 16 / 16 / 16 % 16 * 16 + n / 16 / 16 % 16) * 16 + n / 16 % 16) * 16 + n % 16
      = n := by omega
  simp only [hexUnit?, hexValue?_hexDigit, Option.bind_eq_bind, Option.bind_some]
  rw [hvalue]; rfl

/-! ### Code points -/

variable {rest after : List Char} {t : Text}

/-- A unit is read as the code point with its number. -/
theorem readPoints_unit {n : Nat} (h : n < 0x10000) (hrest : rest ≠ [])
    (hread : readPoints rest = .ok (t, after)) :
    readPoints (unitEscape n ++ rest) = .ok (Point.ofCode n :: t, after) := by
  rw [unitEscape, hexDigits_four]
  simp only [List.cons_append, List.nil_append]
  rw [readPoints, hexUnit?_digits h]
  dsimp only
  rw [if_neg (by rw [List.isEmpty_iff]; exact hrest), hread]
  rfl

/-- A letter behind a backslash is read as the character it stands for. -/
theorem readPoints_escape {p : Point} {c e : Char} (hp : p.code = e.toNat) (hc : c ≠ 'u')
    (he : escaped? c = some e) (hread : readPoints rest = .ok (t, after)) :
    readPoints ('\\' :: c :: rest) = .ok (p :: t, after) := by
  rw [readPoints, he]
  · dsimp only
    rw [hread, Point.eq_of_code hp]
    rfl
  · exact fun _ _ _ _ _ h _ => hc h
  · exact fun h => hc h

/-- A character that needs no escape is read as itself. -/
theorem readPoints_plain {c : Char} (hquote : c ≠ '"') (hslash : c ≠ '\\') (hc : 0x20 ≤ c.toNat)
    (hread : readPoints rest = .ok (t, after)) :
    readPoints (c :: rest) = .ok (.char c :: t, after) := by
  rw [readPoints, if_neg (Nat.not_lt.2 hc), hread]
  · rfl
  · exact hquote
  -- The other branches of the reader begin with a backslash.
  · exact fun h _ => hslash h
  · exact fun _ _ _ _ _ h _ => hslash h
  · exact fun _ h _ => hslash h
  · exact fun _ _ h _ => hslash h

theorem readPoints_writePoint (p : Point) (hrest : rest ≠ [])
    (hread : readPoints rest = .ok (t, after)) :
    readPoints (writePoint p ++ rest) = .ok (p.apart ++ t, after) := by
  have hlt := p.code_lt
  rw [Point.apart]
  by_cases hsmall : p.code < 0x10000
  · rw [if_pos hsmall, writePoint]
    -- The branches of the writer, each for one code point or one range of them.
    split
    · rename_i h; exact readPoints_escape (e := '"') h (by decide) rfl hread
    split
    · rename_i h; exact readPoints_escape (e := '\\') h (by decide) rfl hread
    split
    · rename_i h; exact readPoints_escape (e := '\n') h (by decide) rfl hread
    split
    · rename_i h; exact readPoints_escape (e := '\r') h (by decide) rfl hread
    split
    · rename_i h; exact readPoints_escape (e := '\t') h (by decide) rfl hread
    split
    · rename_i h; exact readPoints_escape (e := '\x0c') h (by decide) rfl hread
    split
    · rename_i h; exact readPoints_escape (e := '\x08') h (by decide) rfl hread
    split
    · rename_i hquote hslash _ _ _ _ _ h
      have hchar : Point.ofCode p.code = .char (Char.ofNat p.code) := by
        rw [Point.ofCode, dif_neg (by omega), if_pos hlt]
      rw [Point.ofCode_code] at hchar
      have hcode : p.code = (Char.ofNat p.code).toNat := congrArg Point.code hchar
      have hplain := readPoints_plain (c := Char.ofNat p.code)
        (fun hc => hquote (by rw [hcode, hc]; rfl)) (fun hc => hslash (by rw [hcode, hc]; rfl))
        (hcode ▸ h.1) hread
      rw [← hchar] at hplain
      exact hplain
    · have hunit := readPoints_unit hsmall hrest hread
      rw [Point.ofCode_code] at hunit
      exact hunit
  · have hlarge := Nat.not_lt.1 hsmall
    have hwrite : writePoint p = unitEscape (0xD800 + (p.code - 0x10000) / 0x400)
        ++ unitEscape (0xDC00 + (p.code - 0x10000) % 0x400) := by
      rw [writePoint]
      repeat rw [if_neg (by omega)]
    rw [if_neg hsmall, hwrite, List.append_assoc]
    exact readPoints_unit (by omega) (by simp [unitEscape])
      (readPoints_unit (by omega) hrest hread)

/-- A text that is written is read up to its closing mark. -/
theorem readPoints_write (t : Text) (rest : List Char) :
    readPoints (t.flatMap writePoint ++ '"' :: rest) = .ok (t.apart, rest) := by
  induction t with
  | nil => rfl
  | cons p t ih =>
    rw [List.flatMap_cons, List.append_assoc, readPoints_writePoint p (by simp) ih]
    rfl

/-- A joined text that is written is read back. -/
theorem readText_write {t : Text} (h : t.Joined) (rest : List Char) :
    readText (t.flatMap writePoint ++ '"' :: rest) = .ok (t, rest) := by
  rw [readText, readPoints_write]
  dsimp only
  rw [Text.joinHalves_apart h]

/-- What is read as a text is joined. -/
theorem readText_joined {cs : List Char} (h : readText cs = .ok (t, rest)) : t.Joined := by
  rw [readText] at h
  split at h
  · cases h
  · cases h; exact Text.joined_joinHalves _

end Json

end Pressroom
