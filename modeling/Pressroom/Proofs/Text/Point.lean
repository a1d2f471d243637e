import Pressroom.Text.Point

/-!
Texts that are strings, and texts whose pairs are put together. A text without a lone half is a
string, and only that one. A text is joined if no first half stands right before a second one, as it
is in every string and in everything that `joinHalves` gives; taking the pairs of such a text apart
and putting them together again changes nothing.
-/
namespace Pressroom

/-! ### Code points and their numbers -/

namespace Point

theorem code_char_range (c : Char) : c.toNat < 0xD800 ∨ 0xDFFF < c.toNat ∧ c.toNat < 0x110000 :=
  c.valid

theorem ofCode_code (p : Point) : ofCode p.code = p := by
  cases p with
  | char c =>
    have hrange := code_char_range c
    rw [code, ofCode, dif_neg (by omega), if_pos (by omega), Char.ofNat_toNat]
  | half i =>
    have hi := i.isLt
    rw [code, ofCode, dif_pos (by omega)]
    simp

/-- A code point with the number of a character is that character. -/
theorem eq_of_code {p : Point} {c : Char} (h : p.code = c.toNat) : p = .char c := by
  rw [← ofCode_code p, h, ← code.eq_1 c, ofCode_code]

/-- A character is no half. -/
theorem char_not_half (c : Char) : isHigh (.char c) = false ∧ isLow (.char c) = false := by
  have hrange := code_char_range c
  have hcode : (char c).code = c.toNat := rfl
  simp only [isHigh, isLow, ← Bool.not_eq_true, Bool.and_eq_true, decide_eq_true_eq]
  omega

/-- What two halves make together is a character. -/
theorem join_eq_char {p q : Point} (hp : p.isHigh = true) (hq : q.isLow = true) :
    ∃ c, join p q = .char c := by
  simp only [isHigh, isLow, Bool.and_eq_true, decide_eq_true_eq] at hp hq
  rw [join, ofCode, dif_neg (by omega), if_pos (by omega)]
  exact ⟨_, rfl⟩

theorem code_lt (p : Point) : p.code < 0x110000 := by
  cases p with
  | char c => have hrange := code_char_range c; rw [code]; omega
  | half i => have hi := i.isLt; rw [code]; omega

/-- A number of a half is that of its code point. -/
theorem code_ofCode_half {n : Nat} (hlo : 0xD800 ≤ n) (hhi : n < 0xE000) : (ofCode n).code = n := by
  rw [ofCode, dif_pos ⟨hlo, hhi⟩, code]
  dsimp only
  omega

/-- The first half of a character past U+FFFF. -/
def firstHalf (p : Point) : Point := ofCode (0xD800 + (p.code - 0x10000) / 0x400)

/-- The second half of a character past U+FFFF. -/
def secondHalf (p : Point) : Point := ofCode (0xDC00 + (p.code - 0x10000) % 0x400)

theorem code_firstHalf (p : Point) :
    p.firstHalf.code = 0xD800 + (p.code - 0x10000) / 0x400 := by
  have hlt := p.code_lt
  exact code_ofCode_half (by omega) (by omega)

theorem code_secondHalf (p : Point) :
    p.secondHalf.code = 0xDC00 + (p.code - 0x10000) % 0x400 :=
  code_ofCode_half (by omega) (by omega)

theorem isHigh_firstHalf (p : Point) : p.firstHalf.isHigh = true := by
  have hlt := p.code_lt
  simp only [isHigh, code_firstHalf, Bool.and_eq_true, decide_eq_true_eq]
  omega

theorem isLow_firstHalf (p : Point) : p.firstHalf.isLow = false := by
  have hlt := p.code_lt
  simp only [isLow, code_firstHalf, ← Bool.not_eq_true, Bool.and_eq_true, decide_eq_true_eq]
  omega

theorem isLow_secondHalf (p : Point) : p.secondHalf.isLow = true := by
  simp only [isLow, code_secondHalf, Bool.and_eq_true, decide_eq_true_eq]
  omega

theorem join_halves {p : Point} (h : 0x10000 ≤ p.code) : join p.firstHalf p.secondHalf = p := by
  have hcode : 0x10000 + (p.firstHalf.code - 0xD800) * 0x400 + (p.secondHalf.code - 0xDC00)
      = p.code := by
    rw [code_firstHalf, code_secondHalf]; omega
  rw [join, hcode, ofCode_code]

/-- The halves of a character past U+FFFF. -/
def apart (p : Point) : Text :=
  if p.code < 0x10000 then [p]
  else [p.firstHalf, p.secondHalf]

end Point

namespace Text

/-! ### Strings -/

theorem chars?_eq_some {t : Text} {cs : List Char} (h : t.chars? = some cs) : t = ofChars cs := by
  induction t generalizing cs with
  | nil => cases h; rfl
  | cons p t ih =>
    cases p with
    | char c =>
      obtain ⟨rest, hrest, rfl⟩ := Option.map_eq_some_iff.1 h
      rw [ih hrest]; rfl
    | half i => cases h

/-- The text of a string is that string. -/
theorem string?_eq_some {t : Text} {s : String} (h : t.string? = some s) : t = ofString s := by
  obtain ⟨cs, hcs, rfl⟩ := Option.map_eq_some_iff.1 h
  rw [chars?_eq_some hcs, ofString, String.toList_ofList]

theorem ofString_injective {a b : String} (h : ofString a = ofString b) : a = b := by
  have hback := congrArg string? h
  rw [string?_ofString, string?_ofString] at hback
  exact Option.some.inj hback

/-! ### Lone halves -/

/-- No lone half stands in the text. -/
def Unbroken (t : Text) : Prop := ∀ i, Point.half i ∉ t

theorem Unbroken.sublist {t part : Text} (h : t.Unbroken) (hpart : part.Sublist t) :
    part.Unbroken := fun i hi => h i (hpart.subset hi)

theorem unbroken_ofString (s : String) : (ofString s).Unbroken := by
  intro i hi
  obtain ⟨c, -, hc⟩ := List.mem_map.1 hi
  cases hc

/-- A text without lone halves is that of a string. -/
theorem Unbroken.string {t : Text} (h : t.Unbroken) : ∃ s, t = ofString s := by
  have hchars : ∃ cs, t = ofChars cs := by
    induction t with
    | nil => exact ⟨[], rfl⟩
    | cons p t ih =>
      obtain ⟨cs, rfl⟩ := ih fun i hi => h i (List.mem_cons_of_mem _ hi)
      cases p with
      | char c => exact ⟨c :: cs, rfl⟩
      | half i => exact absurd List.mem_cons_self (h i)
  obtain ⟨cs, rfl⟩ := hchars
  exact ⟨String.ofList cs, by rw [ofString, String.toList_ofList]⟩

/-! ### Pairs -/

/-- No first half stands right before a second one. -/
def Joined : Text → Prop
  | [] => True
  | [_] => True
  | p :: q :: rest => ¬ (p.isHigh = true ∧ q.isLow = true) ∧ Joined (q :: rest)

theorem joined_of_cons {p : Point} {t : Text} (h : Joined (p :: t)) : Joined t := by
  cases t with
  | nil => trivial
  | cons q rest => exact h.2

theorem joined_cons {p : Point} {t : Text} (hp : ∀ q, t.head? = some q →
    ¬ (p.isHigh = true ∧ q.isLow = true)) (ht : Joined t) : Joined (p :: t) := by
  cases t with
  | nil => trivial
  | cons q rest => exact ⟨hp q rfl, ht⟩

/-- In a string no halves stand at all. -/
theorem joined_ofString (s : String) : Joined (ofString s) := by
  rw [ofString]
  induction s.toList with
  | nil => trivial
  | cons c cs ih =>
    refine joined_cons (fun q _ h => ?_) ih
    rw [(Point.char_not_half c).1] at h
    cases h.1

/-- What is put together starts with the first code point, or with a character made of two. -/
theorem head?_joinHalves (p : Point) (t : Text) {q : Point}
    (h : (joinHalves (p :: t)).head? = some q) : q = p ∨ q.isLow = false := by
  cases t with
  | nil => cases h; exact .inl rfl
  | cons r rest =>
    rw [joinHalves] at h
    split at h
    · rename_i hpair
      rw [Bool.and_eq_true] at hpair
      obtain ⟨c, hc⟩ := Point.join_eq_char hpair.1 hpair.2
      rw [List.head?_cons, hc] at h
      exact .inr (Option.some.inj h ▸ (Point.char_not_half c).2)
    · rw [List.head?_cons] at h
      exact .inl (Option.some.inj h).symm

/-- Where pairs were put together, none is left. -/
theorem joined_joinHalves (t : Text) : Joined (joinHalves t) := by
  induction t using joinHalves.induct with
  | case1 => trivial
  | case2 p => trivial
  | case3 p q rest hpair ih =>
    rw [joinHalves, if_pos hpair]
    rw [Bool.and_eq_true] at hpair
    obtain ⟨c, hc⟩ := Point.join_eq_char hpair.1 hpair.2
    refine joined_cons (fun r _ h => ?_) ih
    rw [hc, (Point.char_not_half c).1] at h
    cases h.1
  | case4 p q rest hpair ih =>
    rw [joinHalves, if_neg hpair]
    refine joined_cons (fun r hr h => ?_) ih
    rcases head?_joinHalves q rest hr with rfl | hlow
    · exact hpair (by rw [h.1, h.2]; rfl)
    · rw [hlow] at h; cases h.2

/-- A text with its pairs taken apart. -/
def apart (t : Text) : Text := t.flatMap Point.apart

theorem joinHalves_cons {p : Point} {t : Text} (hp : ∀ q, t.head? = some q →
    ¬ (p.isHigh = true ∧ q.isLow = true)) : joinHalves (p :: t) = p :: joinHalves t := by
  cases t with
  | nil => rfl
  | cons q rest =>
    rw [joinHalves, if_neg (by rw [Bool.and_eq_true]; exact hp q rfl)]

theorem head?_apart (t : Text) {r : Point} (h : t.apart.head? = some r) :
    t.head? = some r ∨ r.isLow = false := by
  cases t with
  | nil => cases h
  | cons p t =>
    rw [apart, List.flatMap_cons] at h
    by_cases hsmall : p.code < 0x10000
    · rw [Point.apart, if_pos hsmall] at h
      exact .inl h
    · rw [Point.apart, if_neg hsmall] at h
      exact .inr (Option.some.inj h ▸ Point.isLow_firstHalf p)

/-- Taking the pairs of a joined text apart and putting them together again changes nothing. -/
theorem joinHalves_apart {t : Text} (h : Joined t) : joinHalves t.apart = t := by
  induction t with
  | nil => rfl
  | cons p t ih =>
    have ih := ih (joined_of_cons h)
    rw [apart, List.flatMap_cons, ← apart]
    by_cases hsmall : p.code < 0x10000
    · rw [Point.apart, if_pos hsmall, List.singleton_append, joinHalves_cons, ih]
      intro q hq hpair
      rcases head?_apart t hq with hhead | hlow
      · cases t with
        | nil => cases hhead
        | cons r rest => cases hhead; exact h.1 hpair
      · rw [hlow] at hpair; cases hpair.2
    · have hlarge := Nat.not_lt.1 hsmall
      rw [Point.apart, if_neg hsmall, List.cons_append, List.singleton_append, joinHalves, if_pos
        (by rw [Point.isHigh_firstHalf, Point.isLow_secondHalf]; rfl), ih, Point.join_halves hlarge]

end Text

end Pressroom
