import Mathlib.Data.List.Basic
import Pressroom.Secret.Password

/-!
A password is right for its own hash. The hash carries the header it was made with, and
`readHeader?_write` shows that exactly this header is read back from it whatever the digest is; so a
check hashes the password again in the same way, and finds the same text.
-/
namespace Pressroom

namespace Password

/-! ### Groups of six bits -/

/-- The values of six bits that bytes are written as. -/
def sixes : List Nat → List Nat
  | [] => []
  | [a] => [a / 4, a % 4 * 16]
  | [a, b] => [a / 4, a % 4 * 16 + b / 16, b % 16 * 4]
  | a :: b :: c :: rest =>
    a / 4 :: (a % 4 * 16 + b / 16) :: (b % 16 * 4 + c / 64) :: c % 64 :: sixes rest

theorem encode_eq (bytes : List Nat) : encode bytes = (sixes bytes).map sixBits := by
  induction bytes using encode.induct with
  | case1 | case2 | case3 => rfl
  | case4 a b c rest ih => rw [encode, sixes, ih]; rfl

/-- Bytes as they are: each is less than 256. -/
def AreBytes (bytes : List Nat) : Prop := ∀ b ∈ bytes, b < 256

theorem sixes_lt {bytes : List Nat} (h : AreBytes bytes) : ∀ x ∈ sixes bytes, x < 64 := by
  induction bytes using encode.induct with
  | case1 => intro x hx; cases hx
  | case2 a =>
    have ha := h a (by simp)
    simp only [sixes, List.forall_mem_cons]
    exact ⟨by omega, by omega, fun x hx => by cases hx⟩
  | case3 a b =>
    have ha := h a (by simp)
    have hb := h b (by simp)
    simp only [sixes, List.forall_mem_cons]
    exact ⟨by omega, by omega, by omega, fun x hx => by cases hx⟩
  | case4 a b c rest ih =>
    have ha := h a (by simp)
    have hb := h b (by simp)
    have hc := h c (by simp)
    simp only [sixes, List.forall_mem_cons]
    exact ⟨by omega, by omega, by omega, by omega, ih fun x hx => h x (by simp [hx])⟩

theorem joinSixes_sixes {bytes : List Nat} (h : AreBytes bytes) :
    joinSixes (sixes bytes) = bytes := by
  induction bytes using encode.induct with
  | case1 => rfl
  | case2 a =>
    have ha := h a (by simp)
    rw [sixes, joinSixes]
    congr 1; omega
  | case3 a b =>
    have ha := h a (by simp)
    have hb := h b (by simp)
    rw [sixes, joinSixes]
    congr 1
    · omega
    · congr 1; omega
  | case4 a b c rest ih =>
    have ha := h a (by simp)
    have hb := h b (by simp)
    have hc := h c (by simp)
    rw [sixes, joinSixes, ih fun x hx => h x (by simp [hx])]
    congr 1
    · omega
    · congr 1
      · omega
      · congr 1; omega

theorem idxOf?_sixBits : ∀ n < 64, alphabet.idxOf? (sixBits n) = some n := by decide +kernel

theorem values_sixBits {xs : List Nat} (h : ∀ x ∈ xs, x < 64) :
    ((xs.map sixBits).mapM fun c => alphabet.idxOf? c) = some xs := by
  induction xs with
  | nil => rfl
  | cons x xs ih =>
    rw [List.map_cons, List.mapM_cons, idxOf?_sixBits x (h x (by simp)),
      ih fun y hy => h y (by simp [hy])]
    rfl

/-- Bytes that are written come back. -/
theorem decode?_encode {bytes : List Nat} (h : AreBytes bytes) :
    decode? (encode bytes) = some bytes := by
  rw [decode?, encode_eq, values_sixBits (sixes_lt h), Option.map_some, joinSixes_sixes h]

theorem length_encode (bytes : List Nat) : (encode bytes).length = (bytes.length * 4 + 2) / 3 := by
  induction bytes using encode.induct with
  | case1 => rfl
  | case2 => simp [encode]
  | case3 => simp [encode]
  | case4 a b c rest ih => simp only [encode, List.length_cons, ih]; omega

theorem sixBits_ne : ∀ n < 64, sixBits n ≠ '$' := by decide +kernel

theorem not_mem_encode (bytes : List Nat) : '$' ∉ encode bytes := by
  rw [encode_eq, List.mem_map]
  rintro ⟨n, -, hn⟩
  have hmod : sixBits n = sixBits (n % 64) := by rw [sixBits, sixBits, Nat.mod_mod]
  exact sixBits_ne (n % 64) (Nat.mod_lt _ (by decide)) (hmod ▸ hn)

/-! ### Headers -/

/-- A header that can be read back. -/
structure Header.Fit (h : Header) : Prop where
  scheme : h.scheme ∈ schemes
  least : 4 ≤ h.cost
  most : h.cost ≤ 31
  length : h.salt.length = 16
  salt : AreBytes h.salt

theorem fit_newHeader : newHeader.Fit where
  scheme := by decide
  least := by decide
  most := by decide
  length := by decide +kernel
  salt := by rw [AreBytes]; decide +kernel

theorem twoDigits_read : ∀ n < 100, Nat.ofDigitChars 10 (twoDigits n).toList 0 = n ∧
    (twoDigits n).toList.all Char.isDigit = true ∧ '$' ∉ (twoDigits n).toList := by
  decide +kernel

theorem not_mem_scheme : ∀ scheme ∈ schemes, '$' ∉ scheme.toList := by decide

theorem toList_write (h : Header) (digest : List Nat) : (write h digest).toList
    = '$' :: (h.scheme.toList ++ '$' :: ((twoDigits h.cost).toList ++
      '$' :: (encode h.salt ++ encode digest))) := by
  have hmark : "$".toList = ['$'] := by decide
  have hsame : ∀ s : String, toString s = s := fun _ => rfl
  simp only [write, hsame, String.toList_append, String.toList_ofList, hmark, List.append_assoc,
    List.cons_append, List.nil_append]

/-- The header of a hash is read back, whatever the digest. -/
theorem readHeader?_write {h : Header} (hfit : h.Fit) (digest : List Nat) :
    readHeader? (write h digest) = some h := by
  obtain ⟨hcost, hdigits, hplain⟩ := twoDigits_read h.cost (by have := hfit.most; omega)
  have hsplit : (write h digest).toList.splitOn '$' = [[], h.scheme.toList,
      (twoDigits h.cost).toList, encode h.salt ++ encode digest] := by
    have hbody : '$' ∉ encode h.salt ++ encode digest := by
      rw [List.mem_append]
      rintro (hmem | hmem)
      · exact not_mem_encode _ hmem
      · exact not_mem_encode _ hmem
    rw [toList_write, ← List.nil_append ('$' :: _),
      List.splitOn_append_cons_self_of_not_mem (by simp),
      List.splitOn_append_cons_self_of_not_mem (not_mem_scheme _ hfit.scheme),
      List.splitOn_append_cons_self_of_not_mem hplain, List.splitOn_eq_singleton hbody]
  have hsalt : (encode h.salt ++ encode digest).take 22 = encode h.salt := by
    have hlength : (encode h.salt).length = 22 := by rw [length_encode, hfit.length]
    rw [← hlength, List.take_left']
    rfl
  rw [readHeader?, hsplit]
  dsimp only
  have hscheme : schemes.contains h.scheme = true := List.contains_iff_mem.2 hfit.scheme
  rw [String.ofList_toList, hsalt, decode?_encode hfit.salt]
  dsimp only
  rw [hcost, if_pos]
  simp only [Bool.and_eq_true, decide_eq_true_eq, beq_iff_eq]
  exact ⟨⟨⟨⟨hscheme, hdigits⟩, hfit.least⟩, hfit.most⟩, hfit.length⟩

/-! ### Passwords without a hash -/

/-- A password that cannot be hashed: it has a lone half, or is too long in bytes. -/
def Hashless (password : Text) : Prop :=
  password.string? = none ∨ ∃ s, password.string? = some s ∧ maxBytes < (utf8 s).length

theorem hash_fails_iff {password : Text} :
    (∃ f, Password.hash password = .error f) ↔ Hashless password := by
  rw [Password.hash, hashWith, Hashless]
  cases password.string? with
  | none => exact ⟨fun _ => .inl rfl, fun _ => ⟨_, rfl⟩⟩
  | some s =>
    dsimp only
    split
    · rename_i hlong; exact ⟨fun _ => .inr ⟨s, rfl, hlong⟩, fun _ => ⟨_, rfl⟩⟩
    · rename_i hshort
      constructor
      · rintro ⟨f, h⟩; cases h
      · rintro (h | ⟨s', h, hlong⟩)
        · cases h
        · cases h; exact absurd hlong hshort

/-! ### Checks -/

/-- Whatever a password was hashed with, it is right for its hash. -/
theorem check_hashWith {h : Header} (hfit : h.Fit) {password : Text} {hash : String}
    (hhash : hashWith h password = .ok hash) : check password hash = true := by
  have hwritten : ∃ digest, hash = write h digest := by
    rw [hashWith] at hhash
    split at hhash
    · cases hhash
    · dsimp only at hhash
      split at hhash
      · cases hhash
      · cases hhash; exact ⟨_, rfl⟩
  obtain ⟨digest, rfl⟩ := hwritten
  rw [check, readHeader?_write hfit]
  dsimp only
  rw [hhash]
  exact beq_self_eq_true _

/-- A password that is stored is right afterwards. -/
theorem check_hash {password : Text} {hash : String} (h : Password.hash password = .ok hash) :
    check password hash = true := check_hashWith fit_newHeader h

end Password

end Pressroom
