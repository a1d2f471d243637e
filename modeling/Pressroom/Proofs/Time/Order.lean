import Mathlib.Data.String.Basic
import Pressroom.Proofs.Time.DayNumber
import Pressroom.Proofs.Time.Reading

/-!
The texts of stamps are in the order of time. Every part of a stamp is written with as many digits as the
part can have, and the parts come in the order of their weight, so of two stamps with one offset the
earlier one has the smaller text. The decimals of a second are left out when they are zero; the offset
then stands where the point would stand, and the marks of an offset come before the point.
-/
namespace Pressroom

namespace Stamp

/-! ### Parts of one width -/

theorem digitChar_lt : ∀ n < 10, ∀ m < n, Nat.digitChar m < Nat.digitChar n := by decide

/-- Of two numbers that fit, the smaller one has the smaller digits, whatever comes after them. -/
theorem decimalDigits_lt {w m n : Nat} (h : m < n) (hn : n < 10 ^ w) (x y : List Char) :
    decimalDigits w m ++ x < decimalDigits w n ++ y := by
  induction w generalizing m n x y with
  | zero => rw [Nat.pow_zero] at hn; omega
  | succ w ih =>
    rw [decimalDigits, decimalDigits, List.append_assoc, List.append_assoc]
    by_cases htens : m / 10 < n / 10
    · rw [Nat.pow_succ] at hn
      exact ih htens (by omega) _ _
    · have hsame : m / 10 = n / 10 := by omega
      have hlast : Nat.digitChar (m % 10) < Nat.digitChar (n % 10) :=
        digitChar_lt _ (by omega) _ (by omega)
      rw [hsame]
      exact List.append_left_lt (List.cons_lt_cons_iff.2 (.inl hlast))

/-- A part decides, or else what comes after it. -/
theorem part_lt {w m n : Nat} {x y : List Char} (hn : n < 10 ^ w) (h : m < n ∨ m = n ∧ x < y) :
    decimalDigits w m ++ x < decimalDigits w n ++ y := by
  rcases h with hless | ⟨rfl, hrest⟩
  · exact decimalDigits_lt hless hn x y
  · exact List.append_left_lt hrest

/-- The same for a part with a sign between it and what comes after. -/
theorem part_cons_lt {w m n : Nat} {c : Char} {x y : List Char} (hn : n < 10 ^ w)
    (h : m < n ∨ m = n ∧ x < y) : decimalDigits w m ++ c :: x < decimalDigits w n ++ c :: y :=
  part_lt hn (h.imp_right fun hrest => ⟨hrest.1, List.cons_lt_cons_iff.2 (.inr ⟨rfl, hrest.2⟩)⟩)

/-! ### Decimals and offset -/

/-- An offset comes before the decimals of a second. -/
theorem writeOffset?_lt_point (offset : Option Int) (x : List Char) :
    writeOffset? offset < '.' :: x := by
  cases offset with
  | none => exact List.nil_lt_cons _ _
  | some o =>
    rw [writeOffset?, writeOffset_eq, List.cons_lt_cons_iff]
    left
    split <;> decide

/-- Fewer microseconds have the smaller text, also when the text leaves them out. -/
theorem writeMicro_lt {m n : Nat} (h : m < n) (hn : n < 1000000) (offset : Option Int) :
    writeMicro m ++ writeOffset? offset < writeMicro n ++ writeOffset? offset := by
  rw [writeMicro, writeMicro, if_neg (show ¬ n = 0 by omega)]
  by_cases hzero : m = 0
  · rw [if_pos hzero]
    exact writeOffset?_lt_point offset _
  · rw [if_neg hzero]
    exact List.cons_lt_cons_iff.2 (.inr ⟨rfl, decimalDigits_lt h hn _ _⟩)

/-! ### Stamps -/

/-- Of two stamps with one offset the earlier one has the smaller text. -/
theorem write_lt {a b : Stamp} (hb : b.Valid) (hoffset : a.offset = b.offset) (h : a.Earlier b) :
    a.write < b.write := by
  obtain ⟨⟨-, hyear⟩, ⟨-, hmonth⟩, ⟨-, hday⟩, hhour, hminute, hsecond, hmicro, -⟩ := hb
  have hdays := Calendar.daysInMonth_le b.year b.month
  simp only [write_eq, writeDate, writeClock, List.append_assoc, List.cons_append, hoffset]
  refine part_cons_lt (by omega) (h.imp_right (And.imp_right fun h => ?_))
  refine part_cons_lt (by omega) (h.imp_right (And.imp_right fun h => ?_))
  refine part_cons_lt (by omega) (h.imp_right (And.imp_right fun h => ?_))
  refine part_cons_lt (by omega) (h.imp_right (And.imp_right fun h => ?_))
  refine part_cons_lt (by omega) (h.imp_right (And.imp_right fun h => ?_))
  exact part_lt (by omega) (h.imp_right (And.imp_right fun h => writeMicro_lt h hmicro _))

theorem iso_lt {a b : Int} (ha : InEra a) (hb : InEra b) (h : a < b) :
    (ofInstant a).iso < (ofInstant b).iso := by
  rw [String.lt_iff_toList_lt, iso, iso, String.toList_ofList, String.toList_ofList]
  exact write_lt (ofInstant_valid hb) rfl (earlier_ofInstant ha hb h)

/-- The texts of instants are in the order of the instants. -/
theorem iso_le_iff {a b : Int} (ha : InEra a) (hb : InEra b) :
    (ofInstant a).iso ≤ (ofInstant b).iso ↔ a ≤ b := by
  constructor
  · intro hle
    by_contra hnot
    exact String.not_lt.2 hle (iso_lt hb ha (by omega))
  · intro hle
    rcases Int.lt_or_eq_of_le hle with hless | rfl
    · exact String.not_lt.1 fun hback => String.lt_asymm hback (iso_lt ha hb hless)
    · exact String.le_refl _

end Stamp

end Pressroom
