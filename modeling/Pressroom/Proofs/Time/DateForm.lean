import Pressroom.Proofs.Time.Reading

/-!
The dates that are read: a day of a month, a week or a day of a week, each with dashes or without. The
reader of a date takes up all of the bytes it is given, and it takes no byte but digits, dashes and the
letter of a week; so whatever it reads is one of the six forms, and with a sign behind it each form is
found at its own length.
-/
namespace Pressroom

namespace Stamp

/-- The dash between two parts of a date, if the date has dashes. -/
def dash (dashes : Bool) : List Char := if dashes then ['-'] else []

/-- The forms of a date without a time, each with dashes or without. -/
inductive DateForm : List Char → Prop
  | day (dashes : Bool) (y m d : Nat) :
      DateForm (decimalDigits 4 y ++ (dash dashes ++ (decimalDigits 2 m ++ (dash dashes ++
        decimalDigits 2 d))))
  | week (dashes : Bool) (y w : Nat) :
      DateForm (decimalDigits 4 y ++ (dash dashes ++ 'W' :: decimalDigits 2 w))
  | weekday (dashes : Bool) (y w d : Nat) :
      DateForm (decimalDigits 4 y ++ (dash dashes ++ 'W' :: (decimalDigits 2 w ++ (dash dashes ++
        decimalDigits 1 d))))

/-! ### Digits that are read -/

/-- The digits of the number that some digits write are these digits. -/
theorem decimalDigits_foldl {ds : List Nat} (h : ∀ d ∈ ds, d < 10) :
    decimalDigits ds.length (ds.foldl (fun a d => 10 * a + d) 0) = ds.map Nat.digitChar := by
  induction ds using List.reverseRecOn with
  | nil => rfl
  | append_singleton ds d ih =>
    have hd : d < 10 := h d (List.mem_append_right _ List.mem_cons_self)
    have hrest := ih fun e he => h e (List.mem_append_left _ he)
    rw [List.length_append, List.length_singleton, List.foldl_append, List.foldl_cons,
      List.foldl_nil, decimalDigits, List.map_append, List.map_singleton]
    rw [show (10 * ds.foldl (fun a d => 10 * a + d) 0 + d) / 10
      = ds.foldl (fun a d => 10 * a + d) 0 by omega, hrest]
    rw [show (10 * ds.foldl (fun a d => 10 * a + d) 0 + d) % 10 = d by omega]

theorem digitByte?_eq_some {b d : Nat} (h : digitByte? b = some d) :
    b = (Nat.digitChar d).toNat := by
  have hd := digitByte?_lt h
  rw [digitByte?] at h
  split at h
  · cases h
    rw [toNat_digitChar _ hd]
    omega
  · cases h

/-- Where as many digits are found as there are bytes, every byte is one. -/
theorem bytes_of_digits {bs : List Nat} (h : (bs.filterMap digitByte?).length = bs.length) :
    bs = (bs.filterMap digitByte?).map fun d => (Nat.digitChar d).toNat := by
  induction bs with
  | nil => rfl
  | cons b bs ih =>
    cases hb : digitByte? b with
    | none =>
      rw [List.filterMap_cons_none hb, List.length_cons] at h
      have hle := List.length_filterMap_le digitByte? bs
      omega
    | some d =>
      rw [List.filterMap_cons_some hb, List.length_cons, List.length_cons, Nat.succ_inj] at h
      rw [List.filterMap_cons_some hb, List.map_cons, ← ih h, ← digitByte?_eq_some hb]

/-- Digits are read only where there are digits, and all of them are taken. -/
theorem takeDigits_eq_some {n v : Nat} {bs rest : List Nat} (h : takeDigits n bs = some (v, rest)) :
    bs = bytesOf (decimalDigits n v) ++ rest := by
  rw [takeDigits] at h
  split at h
  · rename_i hlen
    cases h
    have hdigits : ∀ d ∈ (bs.take n).filterMap digitByte?, d < 10 := by
      intro d hd
      obtain ⟨b, -, hb⟩ := List.mem_filterMap.1 hd
      exact digitByte?_lt hb
    have hle := List.length_filterMap_le digitByte? (bs.take n)
    have htake : (bs.take n).length ≤ n := List.length_take_le ..
    have hall : ((bs.take n).filterMap digitByte?).length = (bs.take n).length := by omega
    have hbytes := bytes_of_digits hall
    have hchars := decimalDigits_foldl hdigits
    rw [hlen] at hchars
    rw [hchars, bytesOf, List.map_map]
    exact (List.take_append_drop n bs).symm.trans (congrArg (· ++ bs.drop n) hbytes)
  · cases h

/-! ### Dates that are read -/

theorem takeDash_eq {bs rest : List Nat} {dashes : Bool} (h : takeDash bs = (dashes, rest)) :
    bs = bytesOf (dash dashes) ++ rest := by
  cases bs with
  | nil => cases h; rfl
  | cons b tail =>
    rw [takeDash] at h
    split at h
    · rename_i hdash
      cases h
      rw [hdash]
      rfl
    · cases h; rfl

theorem passDash_eq_some {dashes : Bool} {bs rest : List Nat} (h : passDash dashes bs = some rest) :
    bs = bytesOf (dash dashes) ++ rest := by
  cases dashes with
  | false => exact Option.some.inj h
  | true =>
    cases htake : takeDash bs with
    | mk found tail =>
      rw [passDash, if_pos rfl, htake] at h
      dsimp only at h
      split at h
      · rename_i hfound
        cases h
        rw [takeDash_eq htake, hfound]
      · cases h

theorem length_digits (w n : Nat) : (bytesOf (decimalDigits w n)).length = w := by
  rw [bytesOf, List.length_map, length_decimalDigits]

/-- What is read as a date has one of the forms. Only bytes after a weekday are passed over, and there is
no room for any. -/
theorem readDate_form {bs : List Nat} {date : Nat × Nat × Nat} (h : readDate bs = some date)
    (hlen : bs.length ≤ 10) (hweek : bs[4]? = some 'W'.toNat → bs.length ≤ 8) :
    ∃ cs, DateForm cs ∧ bs = bytesOf cs := by
  simp only [readDate, Option.bind_eq_bind] at h
  obtain ⟨⟨year, rest⟩, htake, h⟩ := Option.bind_eq_some_iff.1 h
  have hyear := takeDigits_eq_some htake
  cases hdashes : takeDash rest with
  | mk dashes tail =>
    have hdash := takeDash_eq hdashes
    simp only [hdashes] at h
    split at h
    · rename_i hhead
      obtain ⟨digits, rfl⟩ : ∃ digits, tail = 'W'.toNat :: digits := by
        cases tail with
        | nil => cases hhead
        | cons b digits => exact ⟨digits, by rw [Option.some.inj hhead]⟩
      obtain ⟨⟨week, after⟩, htake, h⟩ := Option.bind_eq_some_iff.1 h
      have hdigits : digits = bytesOf (decimalDigits 2 week) ++ after := takeDigits_eq_some htake
      dsimp only at h
      split at h
      · rename_i hempty
        rw [List.isEmpty_iff.1 hempty, List.append_nil] at hdigits
        refine ⟨_, .week dashes year week, ?_⟩
        rw [hyear, hdash, hdigits, bytesOf_append, bytesOf_append, bytesOf_cons]
      · obtain ⟨behind, hpass, h⟩ := Option.bind_eq_some_iff.1 h
        obtain ⟨⟨weekday, extra⟩, htake, -⟩ := Option.bind_eq_some_iff.1 h
        have hbehind := passDash_eq_some hpass
        have hday := takeDigits_eq_some htake
        have hall : bs = bytesOf (decimalDigits 4 year) ++ (bytesOf (dash dashes) ++ 'W'.toNat ::
            (bytesOf (decimalDigits 2 week) ++ (bytesOf (dash dashes) ++
              (bytesOf (decimalDigits 1 weekday) ++ extra)))) := by
          rw [hyear, hdash, hdigits, hbehind, hday]
        have hnone : extra = [] := by
          rw [hall] at hlen hweek
          simp only [List.length_append, List.length_cons, length_digits] at hlen hweek
          rw [← List.length_eq_zero_iff]
          cases dashes with
          | true =>
            have hone : (bytesOf (dash true)).length = 1 := rfl
            omega
          | false =>
            have hshort := hweek rfl
            omega
        refine ⟨_, .weekday dashes year week weekday, ?_⟩
        rw [hall, hnone, List.append_nil, bytesOf_append, bytesOf_append, bytesOf_cons, bytesOf_append,
          bytesOf_append]
    · obtain ⟨⟨month, after⟩, htake, h⟩ := Option.bind_eq_some_iff.1 h
      obtain ⟨behind, hpass, h⟩ := Option.bind_eq_some_iff.1 h
      obtain ⟨⟨day, extra⟩, htake', h⟩ := Option.bind_eq_some_iff.1 h
      have hmonth := takeDigits_eq_some htake
      have hbehind : after = bytesOf (dash dashes) ++ behind := passDash_eq_some hpass
      have hday := takeDigits_eq_some htake'
      dsimp only at h
      split at h
      · rename_i hempty
        rw [List.isEmpty_iff.1 hempty, List.append_nil] at hday
        refine ⟨_, .day dashes year month day, ?_⟩
        rw [hyear, hdash, hmonth, hbehind, hday, bytesOf_append, bytesOf_append, bytesOf_append,
          bytesOf_append]
      · cases h

/-! ### How long a date is -/

/-- The bytes of a date are digits, dashes and the letter of a week. -/
theorem mem_dateForm {cs : List Char} (h : DateForm cs) {b : Nat} (hb : b ∈ bytesOf cs) :
    b = 45 ∨ 48 ≤ b ∧ b ≤ 57 ∨ b = 87 := by
  have hdigit : ∀ {w n}, b ∈ bytesOf (decimalDigits w n) → 48 ≤ b ∧ b ≤ 57 := mem_decimalDigits
  have hdash : ∀ {dashes}, b ∈ bytesOf (dash dashes) → b = 45 := by
    intro dashes h
    cases dashes with
    | false => cases h
    | true => exact List.mem_singleton.1 h
  cases h with
  | day =>
    simp only [bytesOf_append, List.mem_append] at hb
    rcases hb with hb | hb | hb | hb | hb
    · exact .inr (.inl (hdigit hb))
    · exact .inl (hdash hb)
    · exact .inr (.inl (hdigit hb))
    · exact .inl (hdash hb)
    · exact .inr (.inl (hdigit hb))
  | week =>
    simp only [bytesOf_append, bytesOf_cons, List.mem_append, List.mem_cons] at hb
    rcases hb with hb | hb | hb | hb
    · exact .inr (.inl (hdigit hb))
    · exact .inl (hdash hb)
    · exact .inr (.inr hb)
    · exact .inr (.inl (hdigit hb))
  | weekday =>
    simp only [bytesOf_append, bytesOf_cons, List.mem_append, List.mem_cons] at hb
    rcases hb with hb | hb | hb | hb | hb | hb
    · exact .inr (.inl (hdigit hb))
    · exact .inl (hdash hb)
    · exact .inr (.inr hb)
    · exact .inr (.inl (hdigit hb))
    · exact .inl (hdash hb)
    · exact .inr (.inl (hdigit hb))

/-- The date takes up ten bytes at most, and eight at most if a week stands right behind the year. -/
theorem dateLength?_le {bs : List Nat} {n : Nat} (h : dateLength? bs = some n) :
    5 ≤ n ∧ n ≤ 10 ∧ (bs.getD 4 0 = 'W'.toNat → n ≤ 8) := by
  have hletters : 'W'.toNat ≠ '-'.toNat := by decide
  simp only [dateLength?] at h
  split at h
  · cases h; omega
  · split at h
    · rename_i hdash
      rw [hdash]
      split at h
      · split at h
        · split at h
          · cases h
          · split at h <;> cases h <;> omega
        · cases h; omega
      · cases h; omega
    · split at h
      · split at h
        · cases h; omega
        · split at h <;> cases h <;> omega
      · cases h; omega

theorem toNat_lastDigit (n : Nat) : (Nat.digitChar (n % 10)).toNat = 48 + n % 10 :=
  toNat_digitChar _ (Nat.mod_lt _ (by decide))

/-- With a sign and an offset behind it each form of a date is found at its own length. -/
theorem dateLength?_dateForm {cs : List Char} (h : DateForm cs) (a b c d e : Nat) :
    dateLength? (bytesOf cs ++ ['+'.toNat, a, b, c, d, e]) = some cs.length := by
  have hdash : ∀ n, 48 + n % 10 ≠ 45 := by omega
  have hletter : ∀ n, 48 + n % 10 ≠ 87 := by omega
  have hrun : ∀ n, isDigitByte (48 + n % 10) = true := fun n => by
    rw [isDigitByte, digitByte?, if_pos (by omega)]
    rfl
  have hsign : isDigitByte 43 = false := rfl
  cases h with
  | day dashes y m d =>
    cases dashes <;> simp [dateLength?, dash, decimalDigits, bytesOf, toNat_lastDigit, hdash, hletter]
  | week dashes y w =>
    cases dashes <;> simp [dateLength?, dash, decimalDigits, bytesOf, toNat_lastDigit, hsign]
  | weekday dashes y w d =>
    cases dashes <;> simp [dateLength?, dash, decimalDigits, bytesOf, toNat_lastDigit, hsign, hrun]

end Stamp

end Pressroom
