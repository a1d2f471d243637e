import Mathlib.Algebra.Ring.Nat
import Mathlib.Data.List.Induction
import Pressroom.Number.Whole

/-!
Decimal digits of whole numbers: what the first digit of a written number says, and how large a number
so many digits can write.
-/
namespace Pressroom

/-- A written number begins with a digit, and with a zero only if it is zero. -/
theorem toDigits_cons (n : Nat) :
    ∃ d < 10, ∃ tail, Nat.toDigits 10 n = Nat.digitChar d :: tail ∧ (d = 0 → n = 0) := by
  induction n using Nat.strongRecOn with
  | ind n ih =>
    rw [Nat.toDigits_eq_if (by decide)]
    split
    · rename_i hlt
      exact ⟨n, hlt, [], rfl, id⟩
    · rename_i hge
      obtain ⟨d, hd, tail, htail, hzero⟩ := ih (n / 10) (by omega)
      refine ⟨d, hd, tail ++ [(n % 10).digitChar], by rw [htail, List.cons_append], fun h => ?_⟩
      have htenth := hzero h
      omega

/-- So many digits write a number that is smaller than that power of ten. -/
theorem ofDigits_lt {ds : List Nat} (h : ∀ d ∈ ds, d < 10) : ofDigits ds < 10 ^ ds.length := by
  induction ds using List.reverseRecOn with
  | nil => exact Nat.one_pos
  | append_singleton ds d ih =>
    have hds := ih fun x hx => h x (List.mem_append_left _ hx)
    have hd := h d (List.mem_append_right _ List.mem_cons_self)
    have hvalue : ofDigits (ds ++ [d]) = 10 * ofDigits ds + d := by
      rw [ofDigits, List.foldl_append]; rfl
    rw [hvalue, List.length_append, List.length_singleton, Nat.pow_succ]
    omega

end Pressroom
