import Mathlib.Data.List.TakeWhile
import Mathlib.Tactic.IntervalCases
import Pressroom.Json.Reader
import Pressroom.Json.Writer
import Pressroom.Proofs.Number.Digits

/-!
Whole numbers inside JSON. A number that is not too long is read back, whatever follows it, as long as
that does not go on like a number; and no number that is read is too long.
-/
namespace Pressroom

namespace Json

/-- A whole number that has no more digits than may be read. -/
def Short (n : Int) : Prop := (Nat.toDigits 10 n.natAbs).length ≤ maxDigits

instance (n : Int) : Decidable (Short n) := inferInstanceAs (Decidable (_ ≤ _))

/-! ### Digits -/

theorem isDigit_digitChar : ∀ d < 10, isDigit (Nat.digitChar d) = true := by decide

theorem isDigit_of_mem_toDigits {n : Nat} {c : Char} (h : c ∈ Nat.toDigits 10 n) :
    isDigit c = true := by
  have hdigit := Nat.isDigit_of_mem_toDigits (by decide) (by decide) h
  rw [Char.isDigit, Bool.and_eq_true, decide_eq_true_eq, decide_eq_true_eq] at hdigit
  rw [isDigit, Bool.and_eq_true, decide_eq_true_eq, decide_eq_true_eq]
  exact ⟨hdigit.1, hdigit.2⟩

theorem ofDigits_digitValues (cs : List Char) :
    ofDigits (digitValues cs) = Nat.ofDigitChars 10 cs 0 := by
  rw [ofDigits, digitValues, List.foldl_map, Nat.ofDigitChars_eq_foldl]

/-- The characters after a number do not go on with it. -/
def EndsNumber : List Char → Prop
  | [] => True
  | c :: _ => isDigit c = false ∧ c ≠ '.' ∧ c ≠ 'e' ∧ c ≠ 'E'

variable {rest : List Char}

theorem takeWholePart_toDigits (n : Nat) (hrest : EndsNumber rest) :
    takeWholePart (Nat.toDigits 10 n ++ rest) = (Nat.toDigits 10 n, rest) := by
  obtain ⟨d, hd, tail, hdigits, hzero⟩ := toDigits_cons n
  by_cases hn : n = 0
  · subst hn; rfl
  have hnotZero : ∀ d < 10, d ≠ 0 → (Nat.digitChar d == '0') = false := by decide
  have hhead := hnotZero d hd fun h => hn (hzero h)
  have htail : ∀ c ∈ tail, isDigit c = true := fun c hc =>
    isDigit_of_mem_toDigits (n := n) (hdigits ▸ List.mem_cons_of_mem _ hc)
  have hstop : rest.takeWhile isDigit = [] ∧ rest.dropWhile isDigit = rest := by
    cases rest with
    | nil => exact ⟨rfl, rfl⟩
    | cons c rest =>
      have hc : ¬ isDigit c = true := by rw [hrest.1]; decide
      exact ⟨List.takeWhile_cons_of_neg hc, List.dropWhile_cons_of_neg hc⟩
  rw [hdigits, List.cons_append, takeWholePart, hhead, isDigit_digitChar d hd,
    List.takeWhile_append_of_pos htail, List.dropWhile_append_of_pos htail, hstop.1, hstop.2,
    List.append_nil]
  rfl

theorem readNumber_toDigits {n : Nat} (negative : Bool)
    (hshort : (Nat.toDigits 10 n).length ≤ maxDigits) (hrest : EndsNumber rest) :
    readNumber negative (Nat.toDigits 10 n ++ rest)
      = .ok (whole (Binary.signed negative n), rest) := by
  have hempty : (Nat.toDigits 10 n).isEmpty = false := by
    obtain ⟨d, -, tail, hdigits, -⟩ := toDigits_cons n
    rw [hdigits]; rfl
  have hfraction : takeFraction rest = none := by
    cases rest with
    | nil => rfl
    | cons c rest =>
      rw [takeFraction]
      exact fun _ h => hrest.2.1 (List.cons.inj h).1
  have hexponent : takeExponent rest = none := by
    cases rest with
    | nil => rfl
    | cons c rest =>
      rw [takeExponent, if_neg]
      simp [hrest.2.2.1, hrest.2.2.2]
  have hwhole : wholeOf negative (Nat.toDigits 10 n) = .ok (whole (Binary.signed negative n)) := by
    rw [wholeOf, if_neg (Nat.not_lt.2 hshort), ofDigits_digitValues, Nat.ofDigitChars_ten_toDigits]
  simp only [readNumber, takeWholePart_toDigits n hrest, hempty, hfraction, hexponent, hwhole]
  rfl

/-! ### Values -/

/-- A value that begins with a digit is a number. -/
theorem readValue_digit (fuel : Nat) (rest : List Char) {d : Nat} (hd : d < 10) :
    readValue (fuel + 1) (Nat.digitChar d :: rest) = readNumber false (Nat.digitChar d :: rest) := by
  interval_cases d <;> rfl

theorem readValue_minus (fuel : Nat) (rest : List Char) {d : Nat} (hd : d < 10) :
    readValue (fuel + 1) ('-' :: Nat.digitChar d :: rest)
      = readNumber true (Nat.digitChar d :: rest) := by
  interval_cases d <;> rfl

/-- A number that is not too long is read back. -/
theorem readValue_whole (fuel : Nat) {n : Int} (hn : Short n) (hrest : EndsNumber rest) :
    readValue (fuel + 1) (write (whole n) ++ rest) = .ok (whole n, rest) := by
  rw [write]
  cases n with
  | ofNat m =>
    have hwrite : (toString (Int.ofNat m)).toList = Nat.toDigits 10 m := Nat.toList_repr
    have hread := readNumber_toDigits (n := m) false hn hrest
    obtain ⟨d, hd, tail, hdigits, -⟩ := toDigits_cons m
    rw [hdigits, List.cons_append] at hread
    rw [hwrite, hdigits, List.cons_append, readValue_digit fuel _ hd, hread]
    rfl
  | negSucc m =>
    have hwrite : (toString (Int.negSucc m)).toList = '-' :: Nat.toDigits 10 (m + 1) := by
      have hrepr : toString (Int.negSucc m) = "-" ++ (m + 1).repr := rfl
      rw [hrepr, String.toList_append, Nat.toList_repr]
      rfl
    have hread := readNumber_toDigits (n := m + 1) true hn hrest
    obtain ⟨d, hd, tail, hdigits, -⟩ := toDigits_cons (m + 1)
    rw [hdigits, List.cons_append] at hread
    rw [hwrite, hdigits, List.cons_append, List.cons_append, readValue_minus fuel _ hd, hread]
    rfl

/-! ### What is read -/

theorem takeWholePart_digits {cs ds : List Char} (h : takeWholePart cs = (ds, rest)) :
    ∀ c ∈ ds, isDigit c = true := by
  cases cs with
  | nil => cases h; exact fun _ hc => nomatch hc
  | cons first cs =>
    rw [takeWholePart] at h
    split at h
    · cases h
      intro c hc
      rw [List.mem_singleton.1 hc]; rfl
    · split at h
      · rename_i hfirst
        cases h
        intro c hc
        rcases List.mem_cons.1 hc with rfl | hc
        · exact hfirst
        · exact List.mem_takeWhile_imp hc
      · cases h; exact fun _ hc => nomatch hc

theorem ofDigits_digitValues_lt {ds : List Char} (h : ∀ c ∈ ds, isDigit c = true) :
    ofDigits (digitValues ds) < 10 ^ ds.length := by
  have hlt : ∀ d ∈ digitValues ds, d < 10 := by
    intro d hd
    obtain ⟨c, hc, rfl⟩ := List.mem_map.1 hd
    have hdigit := h c hc
    rw [isDigit, Bool.and_eq_true, decide_eq_true_eq, decide_eq_true_eq] at hdigit
    have hnine : c.toNat ≤ 57 := hdigit.2
    have hzero : '0'.toNat = 48 := rfl
    omega
  have hvalues := ofDigits_lt hlt
  rwa [digitValues, List.length_map] at hvalues

theorem natAbs_signed (negative : Bool) (n : Nat) : (Binary.signed negative n).natAbs = n := by
  cases negative with
  | false => rfl
  | true => exact Int.natAbs_neg n

theorem maxDigits_pos : 0 < maxDigits := by decide

theorem short_of_wholeOf {negative : Bool} {ds : List Char} {v : Json}
    (hds : ∀ c ∈ ds, isDigit c = true) (h : wholeOf negative ds = .ok v) :
    ∃ n, v = whole n ∧ Short n := by
  rw [wholeOf] at h
  split at h
  · cases h
  · rename_i hfits
    cases h
    have hlt := ofDigits_digitValues_lt hds
    have hmax := Nat.pow_le_pow_right (n := 10) (by decide) (Nat.not_lt.1 hfits)
    refine ⟨_, rfl, ?_⟩
    rw [Short, natAbs_signed, Nat.length_toDigits_le_iff (by decide) maxDigits_pos]
    exact Nat.lt_of_lt_of_le hlt hmax

/-- What is read as a number is a floating-point number, or a whole one that is not too long. -/
theorem readNumber_cases {negative : Bool} {cs : List Char} {v : Json}
    (h : readNumber negative cs = .ok (v, rest)) :
    (∃ x, v = real x) ∨ ∃ n, v = whole n ∧ Short n := by
  simp only [readNumber] at h
  cases hpart : takeWholePart cs with
  | mk ds left =>
    rw [hpart] at h
    dsimp only at h
    split at h
    · cases h
    · split at h
      · cases h; exact .inl ⟨_, rfl⟩
      · cases h; exact .inl ⟨_, rfl⟩
      · split at h
        · rename_i hwhole
          cases h
          exact .inr (short_of_wholeOf (takeWholePart_digits hpart) hwhole)
        · cases h

end Json

end Pressroom
