import Mathlib.Data.Int.Bitwise
import Pressroom.Proofs.Permission.Registry

/-!
Masks and the names they stand for. A mask is read by its bits, without end on the left, and the name in
place `i` of a registry is among the names of a mask exactly if bit `i` is set. So the names of a mask
keep the order of the registry whatever the mask is; going from names to a mask and back loses order and
repetitions, and going from a mask to names and back loses the bits above the last name.
-/
namespace Pressroom

namespace Registry

variable {r : Registry} {name : String} {wanted first second : List String} {m m' : Int}

/-! ### Bits of a mask -/

/-- Carrying the bit of place `i` is having bit `i`, for negative masks too. -/
theorem carries_twoTo (m : Int) (i : Nat) : carries m (twoTo i) = m.testBit i := by
  have hpos : (0 : Int) < (2 ^ i : Nat) := Int.natCast_pos.2 (Nat.two_pow_pos i)
  change (m / ((2 ^ i : Nat) : Int) % 2 == 1) = m.testBit i
  rw [Bool.eq_iff_iff, beq_iff_eq]
  cases m with
  | ofNat m =>
    simp only [Int.testBit, Nat.testBit_eq_decide_div_mod_eq, decide_eq_true_eq, Int.ofNat_eq_natCast]
    omega
  | negSucc m =>
    have hdiv : Int.negSucc m / ((2 ^ i : Nat) : Int) = -((m / 2 ^ i : Nat) + 1) :=
      Int.negSucc_ediv m hpos
    rw [hdiv]
    simp only [Int.testBit, Nat.testBit_eq_decide_div_mod_eq, Bool.not_eq_true', decide_eq_false_iff_not]
    omega

/-- What is left of a mask when all bits from place `n` on are cut off. -/
theorem testBit_emod (m : Int) (n i : Nat) :
    (m % 2 ^ n).toNat.testBit i = (decide (i < n) && m.testBit i) := by
  have hpow : ((2 ^ n : Nat) : Int) = 2 ^ n := Int.natCast_pow 2 n
  have hlt : ∀ k : Nat, k % 2 ^ n < 2 ^ n := fun k => Nat.mod_lt k (Nat.two_pow_pos n)
  rw [← hpow]
  cases m with
  | ofNat m => exact Nat.testBit_mod_two_pow m n i
  | negSucc m =>
    have hrest : Int.negSucc m % ((2 ^ n : Nat) : Int) = ((2 ^ n - (m % 2 ^ n + 1) : Nat) : Int) := by
      have := hlt m
      rw [Int.negSucc_emod m (by omega)]
      omega
    rw [hrest, Int.toNat_natCast, Nat.testBit_two_pow_sub_succ (hlt m), Nat.testBit_mod_two_pow]
    simp only [Int.testBit]
    cases decide (i < n) <;> simp

/-! ### Names of a mask -/

/-- The entry in a place holds the name of that place and its power of two. -/
theorem Sound.mem_entries (h : r.Sound) {e : String × Nat} (he : e ∈ r.entries) :
    ∃ i, r.names[i]? = some e.1 ∧ e.2 = twoTo i :=
  h.bit?_eq_some_iff.1 ((lookup_iff_mem h.once).2 he)

/-- The names of a mask stand in the order of the registry, each once. -/
theorem namesFor_sublist (r : Registry) (m : Int) : (r.namesFor m).Sublist r.names :=
  List.filter_sublist.map _

theorem Sound.namesFor_once (h : r.Sound) (m : Int) : (r.namesFor m).Nodup :=
  h.once.sublist (namesFor_sublist r m)

theorem Sound.mem_namesFor (h : r.Sound) :
    name ∈ r.namesFor m ↔ ∃ i, r.names[i]? = some name ∧ m.testBit i = true := by
  rw [namesFor, List.mem_map]
  constructor
  · rintro ⟨e, he, rfl⟩
    obtain ⟨hmem, hcarries⟩ := List.mem_filter.1 he
    obtain ⟨i, hi, hbit⟩ := h.mem_entries hmem
    exact ⟨i, hi, by rw [← carries_twoTo, ← hbit]; exact hcarries⟩
  · rintro ⟨i, hi, hbit⟩
    have hentry := (lookup_iff_mem h.once).1 (h.bit?_eq_some_iff.2 ⟨i, hi, rfl⟩)
    exact ⟨_, List.mem_filter.2 ⟨hentry, (carries_twoTo m i).trans hbit⟩, rfl⟩

/-- A registered name is among the names of a mask exactly if the mask carries its bit. -/
theorem Sound.mem_namesFor_iff_carries (h : r.Sound) {bit : Nat} (hbit : r.bit? name = some bit) :
    name ∈ r.namesFor m ↔ carries m bit = true := by
  obtain ⟨i, hi, rfl⟩ := h.bit?_eq_some_iff.1 hbit
  rw [h.mem_namesFor, carries_twoTo]
  constructor
  · rintro ⟨j, hj, hset⟩
    have hlt := (List.getElem?_eq_some_iff.1 hi).1
    rwa [(List.getElem?_inj hlt h.once).1 (hi.trans hj.symm)]
  · exact fun hset => ⟨i, hi, hset⟩

/-- With the bits of exactly the wanted names, a mask has the registered ones among them for names. -/
theorem Sound.namesFor_maskFor (h : r.Sound) {mask : Nat} (hmask : r.maskFor wanted = .ok mask) :
    r.namesFor mask = r.names.filter (· ∈ wanted) := by
  rw [namesFor, names, List.filter_map]
  refine congrArg _ (List.filter_congr fun e he => ?_)
  obtain ⟨i, hi, hbit⟩ := h.mem_entries he
  have hset : (mask : Int).testBit i = mask.testBit i := rfl
  rw [hbit, carries_twoTo, hset, Bool.eq_iff_iff, h.testBit_maskFor hmask, Function.comp_apply,
    decide_eq_true_iff]
  constructor
  · rintro ⟨name, hwanted, hname⟩
    rwa [Option.some.inj (hi.symm.trans hname)]
  · exact fun hwanted => ⟨e.1, hwanted, hi⟩

/-! ### Masks of names -/

theorem exists_maskFor (hwanted : ∀ name ∈ wanted, name ∈ r.names) :
    ∃ mask : Nat, r.maskFor wanted = .ok mask := by
  cases hmask : r.maskFor wanted with
  | ok mask => exact ⟨mask, rfl⟩
  | error f =>
    obtain ⟨name, hname, hunknown⟩ := maskFor_fails_iff.1 ⟨f, hmask⟩
    exact absurd (hwanted name hname) hunknown

/-- The mask of the names of a mask is what is left of it below the bits in use. -/
theorem Sound.maskFor_namesFor (h : r.Sound) (m : Int) :
    ∃ mask : Nat, r.maskFor (r.namesFor m) = .ok mask ∧ (mask : Int) = m % 2 ^ r.names.length := by
  obtain ⟨mask, hmask⟩ := exists_maskFor fun name hname => (namesFor_sublist r m).mem hname
  refine ⟨mask, hmask, ?_⟩
  have hrest : mask = (m % 2 ^ r.names.length).toNat := by
    refine Nat.eq_of_testBit_eq fun i => ?_
    rw [testBit_emod, Bool.eq_iff_iff, h.testBit_maskFor hmask, Bool.and_eq_true, decide_eq_true_iff]
    constructor
    · rintro ⟨name, hname, hi⟩
      rw [h.mem_namesFor_iff_carries (h.bit?_eq_some_iff.2 ⟨i, hi, rfl⟩), carries_twoTo] at hname
      exact ⟨(List.getElem?_eq_some_iff.1 hi).1, hname⟩
    · rintro ⟨hlt, hset⟩
      have hi := List.getElem?_eq_getElem hlt
      exact ⟨_, h.mem_namesFor.2 ⟨i, hi, hset⟩, hi⟩
  have hnonneg : 0 ≤ m % 2 ^ r.names.length :=
    Int.emod_nonneg m (Int.ne_of_gt (Int.pow_pos (by decide)))
  rw [hrest, Int.toNat_of_nonneg hnonneg]

/-- The mask of two lists is what the masks of the two have together. -/
theorem maskFor_append {a b : Nat} (ha : r.maskFor first = .ok a) (hb : r.maskFor second = .ok b) :
    r.maskFor (first ++ second) = .ok (a ||| b) := by
  induction first generalizing a with
  | nil => cases ha; rw [List.nil_append, hb, Nat.zero_or]
  | cons name first ih =>
    rw [maskFor] at ha
    rw [List.cons_append, maskFor]
    split at ha
    · cases ha
    · obtain ⟨rest, hrest, rfl⟩ := map_eq_ok.1 ha
      rw [ih hrest, Nat.or_assoc]
      rfl

/-! ### What a mask grants -/

theorem Sound.bit?_admin (h : r.Sound) : r.bit? adminName = some adminBit := by
  refine (lookup_iff_mem h.once).2 ?_
  exact List.mem_of_mem_head? (h.first ▸ rfl)

/-- A mask grants its names, and with `Admin` among them every name that is registered. -/
theorem Sound.has_eq (h : r.Sound) (hname : name ∈ r.names) (m : Int) :
    r.has m name = .ok (decide (name ∈ r.namesFor m ∨ adminName ∈ r.namesFor m)) := by
  obtain ⟨bit, hbit⟩ := Option.isSome_iff_exists.1 (isSome_bit?_iff.2 hname)
  simp only [has, valueOf_eq_ok_iff.2 hbit, h.mem_namesFor_iff_carries hbit,
    h.mem_namesFor_iff_carries h.bit?_admin]
  cases carries m adminBit with
  | true => simp
  | false => simp [Except.map]

/-- What a mask grants is also granted by a mask with more bits. -/
theorem Sound.has_mono (h : r.Sound) (hbits : ∀ i, m.testBit i = true → m'.testBit i = true)
    (hname : name ∈ r.names) (hgranted : r.has m name = .ok true) : r.has m' name = .ok true := by
  have hmore : ∀ other, other ∈ r.namesFor m → other ∈ r.namesFor m' := by
    intro other hother
    obtain ⟨i, hi, hset⟩ := h.mem_namesFor.1 hother
    exact h.mem_namesFor.2 ⟨i, hi, hbits i hset⟩
  rw [h.has_eq hname] at hgranted ⊢
  refine congrArg _ (decide_eq_true ?_)
  exact (of_decide_eq_true (Except.ok.inj hgranted)).imp (hmore _) (hmore _)

end Registry
end Pressroom
