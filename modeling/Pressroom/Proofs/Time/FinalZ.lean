import Pressroom.Proofs.Text.Point
import Pressroom.Proofs.Time.DateForm

/-!
Texts that end in `Z`. The letter is replaced by the offset zero before the text is read, but what is
put in its place is read like any other text. If only a date stands before it, its sign is passed over
as the character between date and time, and what is left is a time of day without an offset. Otherwise
its sign is still there when the time is read, so there is an offset: the one that was put in, or an
earlier one. An earlier offset cannot take in the sign, and it may only end before it at U+0000.
-/
namespace Pressroom

namespace Stamp

/-- The bytes that stand for a final `Z`. -/
def zulu : List Nat := bytesOf "+00:00".toList

/-! ### Bytes before the offset -/

theorem zulu_eq : zulu = [43, 48, 48, 58, 48, 48] := rfl

/-- Digits are not read past the sign. -/
theorem takeDigits_zulu {n v : Nat} {w rest : List Nat} (h : takeDigits n (w ++ zulu) = some (v, rest)) :
    ∃ w', w = bytesOf (decimalDigits n v) ++ w' ∧ rest = w' ++ zulu := by
  rcases List.append_eq_append_iff.1 (takeDigits_eq_some h) with ⟨c, hdigits, hzulu⟩ | ⟨c, hw, hrest⟩
  · cases c with
    | nil =>
      rw [List.append_nil] at hdigits
      exact ⟨[], by rw [hdigits, List.append_nil], hzulu.symm⟩
    | cons b c =>
      have hsign : b = 43 := (List.cons.inj hzulu).1.symm
      have hdigit : 48 ≤ b ∧ b ≤ 57 :=
        mem_decimalDigits (hdigits ▸ List.mem_append_right _ List.mem_cons_self)
      omega
  · exact ⟨c, hw, hrest⟩

/-- What follows two digits goes on with the next byte or the one behind it, if more than one is left. -/
theorem follow_cases (colons : Option Bool) (next b r : Nat) (rest : List Nat) :
    follow colons next (b :: r :: rest) = .fault ∨ ∃ bs, bs <:+ b :: r :: rest ∧ r :: rest <:+ bs ∧
      (follow colons next (b :: r :: rest) = .fraction bs ∨
        ∃ c, follow colons next (b :: r :: rest) = .part c bs) := by
  have hself : b :: r :: rest <:+ b :: r :: rest := List.suffix_rfl
  have htail : r :: rest <:+ b :: r :: rest := List.suffix_cons ..
  rw [follow]
  split
  · exact .inr ⟨_, htail, List.suffix_rfl, .inr ⟨_, rfl⟩⟩
  · split
    · exact .inr ⟨_, htail, List.suffix_rfl, .inl rfl⟩
    · split
      · exact .inl rfl
      · exact .inr ⟨_, hself, htail, .inr ⟨_, rfl⟩⟩
  · exact List.cons_ne_nil r rest

/-- What follows two digits before the sign begins before the sign as well. -/
theorem follow_zulu (colons : Option Bool) (next : Nat) (w : List Nat) :
    follow colons next (w ++ zulu) = .fault ∨ ∃ w', w' <:+ w ∧
      (follow colons next (w ++ zulu) = .fraction (w' ++ zulu) ∨
        ∃ c, follow colons next (w ++ zulu) = .part c (w' ++ zulu)) := by
  cases w with
  | nil =>
    rcases colons with - | - | -
    · exact .inr ⟨[], List.suffix_rfl, .inr ⟨_, rfl⟩⟩
    · exact .inr ⟨[], List.suffix_rfl, .inr ⟨_, rfl⟩⟩
    · exact .inl rfl
  | cons b w =>
    obtain ⟨r, rest, hrest⟩ : ∃ r rest, w ++ zulu = r :: rest :=
      List.exists_cons_of_ne_nil (List.append_ne_nil_of_right_ne_nil w (by decide))
    rw [List.cons_append, hrest]
    rcases follow_cases colons next b r rest with hfault | ⟨bs, hsub, hsuper, hfollow⟩
    · exact .inl hfault
    · obtain ⟨w', rfl⟩ : zulu <:+ bs := (hrest ▸ List.suffix_append w zulu).trans hsuper
      rw [← hrest, ← List.cons_append, List.suffix_append_self_iff] at hsub
      exact .inr ⟨w', hsub, hfollow⟩

/-- A fraction that leaves nothing over ends at U+0000. -/
theorem readMicro_zulu {next micro : Nat} {w : List Nat}
    (h : readMicro next (w ++ zulu) = some (micro, false)) : 0 ∈ w := by
  have hlen : min 6 (w ++ zulu).length = 6 := by
    rw [List.length_append, zulu_eq]
    exact Nat.min_eq_left (Nat.le_add_left 6 _)
  simp only [readMicro, hlen, Option.bind_eq_bind] at h
  obtain ⟨⟨v, rest⟩, htake, h⟩ := Option.bind_eq_some_iff.1 h
  obtain ⟨w', rfl, rfl⟩ := takeDigits_zulu htake
  have hend : ((w' ++ zulu).dropWhile isDigitByte).headD next = 0 := by
    simpa using congrArg Prod.snd (Option.some.inj h)
  rw [List.dropWhile_append] at hend
  split at hend
  · cases hend
  · rename_i hsome
    cases hdrop : w'.dropWhile isDigitByte with
    | nil => rw [hdrop] at hsome; exact absurd rfl hsome
    | cons b rest =>
      rw [hdrop, List.cons_append, List.headD_cons] at hend
      have hmem : b ∈ w' := (List.dropWhile_sublist _).subset (hdrop ▸ List.mem_cons_self)
      exact List.mem_append_right _ (hend ▸ hmem)

/-- So does a clock. -/
theorem readClock_zulu {next : Nat} {w : List Nat} {c : Clock}
    (h : readClock next (w ++ zulu) = some c) (hall : c.leftover = false) : 0 ∈ w := by
  have hmicro : ∀ {w' : List Nat} {clock : Nat → Bool → Clock}, w' <:+ w →
      (∀ micro leftover, (clock micro leftover).leftover = leftover) →
      ((readMicro next (w' ++ zulu)).bind fun r => some (clock r.1 r.2)) = some c → 0 ∈ w := by
    intro w' clock hsub hclock hread
    obtain ⟨⟨micro, leftover⟩, hread, hc⟩ := Option.bind_eq_some_iff.1 hread
    have hnone : leftover = false := by
      rw [← hall, ← Option.some.inj hc, hclock]
    exact hsub.subset (readMicro_zulu (hnone ▸ hread))
  simp only [readClock, Option.bind_eq_bind, Option.pure_def] at h
  obtain ⟨⟨hour, rest⟩, htake, h⟩ := Option.bind_eq_some_iff.1 h
  obtain ⟨w1, hw1, rfl⟩ := takeDigits_zulu htake
  have hsub1 : w1 <:+ w := ⟨_, hw1.symm⟩
  dsimp only at h
  rcases follow_zulu none next w1 with hfault | ⟨w2, hsub2, hfollow | ⟨colons, hfollow⟩⟩
  · rw [hfault] at h; cases h
  · rw [hfollow] at h
    exact hmicro (hsub2.trans hsub1) (fun _ _ => rfl) h
  · rw [hfollow] at h
    obtain ⟨⟨minute, rest⟩, htake, h⟩ := Option.bind_eq_some_iff.1 h
    obtain ⟨w3, hw3, rfl⟩ := takeDigits_zulu htake
    have hsub3 : w3 <:+ w := .trans ⟨_, hw3.symm⟩ (hsub2.trans hsub1)
    dsimp only at h
    rcases follow_zulu (some colons) next w3 with hfault | ⟨w4, hsub4, hfollow | ⟨colons', hfollow⟩⟩
    · rw [hfault] at h; cases h
    · rw [hfollow] at h
      exact hmicro (hsub4.trans hsub3) (fun _ _ => rfl) h
    · rw [hfollow] at h
      obtain ⟨⟨second, rest⟩, htake, h⟩ := Option.bind_eq_some_iff.1 h
      obtain ⟨w5, hw5, rfl⟩ := takeDigits_zulu htake
      have hsub5 : w5 <:+ w := .trans ⟨_, hw5.symm⟩ (hsub4.trans hsub3)
      dsimp only at h
      rcases follow_zulu (some colons') next w5 with hfault | ⟨w6, hsub6, hfollow | ⟨_, hfollow⟩⟩
      · rw [hfault] at h; cases h
      · rw [hfollow] at h
        exact hmicro (hsub6.trans hsub5) (fun _ _ => rfl) h
      · rw [hfollow] at h
        exact hmicro (hsub6.trans hsub5) (fun _ _ => rfl) h

/-! ### The offset that is found -/

/-- An offset is read as zero, unless it is an earlier one that ends at U+0000. -/
theorem readOffset_zulu {w : List Nat} {o : Int} (h : readOffset (w ++ zulu) = some o) :
    o = 0 ∨ 0 ∈ w := by
  cases w with
  | nil =>
    have hread : readOffset zulu = some 0 := by decide
    rw [List.nil_append, hread, Option.some.injEq] at h
    exact .inl h.symm
  | cons mark w =>
    rw [List.cons_append, readOffset] at h
    split at h
    · split at h
      · cases h; exact .inl rfl
      · cases h
    · simp only [Option.bind_eq_bind] at h
      obtain ⟨c, hc, h⟩ := Option.bind_eq_some_iff.1 h
      split at h
      · cases h
      · rename_i hall
        exact .inr (List.mem_cons_of_mem _ (readClock_zulu hc (Bool.eq_false_iff.2 hall)))

/-- Where the sign is still there an offset is read. -/
theorem readTime_zulu {w : List Nat} {c : Clock} {offset : Option Int}
    (h : readTime (w ++ zulu) = some (c, offset)) : ∃ o, offset = some o ∧ (o = 0 ∨ 0 ∈ w) := by
  obtain ⟨w', hsub, hafter⟩ : ∃ w', w' <:+ w ∧
      ((w ++ zulu).dropWhile fun b => !isOffsetMark b) = w' ++ zulu := by
    rw [List.dropWhile_append]
    split
    · exact ⟨[], List.nil_suffix, rfl⟩
    · exact ⟨_, List.dropWhile_suffix _, rfl⟩
  have hsome : (w' ++ zulu).isEmpty = false := by
    rw [List.isEmpty_eq_false_iff]
    exact List.append_ne_nil_of_right_ne_nil w' (by decide)
  simp only [readTime, hafter, hsome, Option.bind_eq_bind] at h
  obtain ⟨clock, -, h⟩ := Option.bind_eq_some_iff.1 h
  rw [if_neg (by decide)] at h
  obtain ⟨o, ho, h⟩ := Option.bind_eq_some_iff.1 h
  cases h
  exact ⟨o, rfl, (readOffset_zulu ho).imp_right fun hzero => hsub.subset hzero⟩

/-! ### The character between date and time -/

/-- The bytes of one character are passed over. -/
theorem dropCharacter_utf8Code (c : Char) (bs : List Nat) :
    dropCharacter (utf8Code c.toNat ++ bs) = bs := by
  have hrange := Point.code_char_range c
  rw [utf8Code]
  split
  · rw [List.singleton_append, dropCharacter, if_pos (by omega)]
  · split
    · rw [List.cons_append, dropCharacter, if_neg (by omega), if_pos (by omega)]; rfl
    · split
      · rw [List.cons_append, dropCharacter, if_neg (by omega), if_neg (by omega), if_pos (by omega)]
        rfl
      · rw [List.cons_append, dropCharacter, if_neg (by omega), if_neg (by omega),
          if_neg (by omega)]
        rfl

end Stamp

namespace Text

theorem utf8_cons (c : Char) (cs : List Char) :
    (ofChars (c :: cs)).utf8 = utf8Code c.toNat ++ (ofChars cs).utf8 := rfl

theorem utf8_append (cs ds : List Char) :
    (ofChars (cs ++ ds)).utf8 = (ofChars cs).utf8 ++ (ofChars ds).utf8 := by
  rw [utf8, ofChars, List.map_append, List.flatMap_append]
  rfl

/-- Only a character that takes one byte begins with a byte below 128. -/
theorem utf8Code_small {c : Char} {b : Nat} {bs rest : List Nat} (hb : b < 128)
    (h : utf8Code c.toNat ++ bs = b :: rest) : c.toNat = b ∧ bs = rest := by
  rw [utf8Code] at h
  split at h
  · exact List.cons.inj h
  · split at h
    · have hfirst := (List.cons.inj h).1; omega
    · split at h
      · have hfirst := (List.cons.inj h).1; omega
      · have hfirst := (List.cons.inj h).1; omega

/-- ASCII bytes at the front are those of characters at the front. -/
theorem utf8_split {cs : List Char} {front back : List Nat} (hfront : ∀ b ∈ front, b < 128)
    (h : (ofChars cs).utf8 = front ++ back) :
    ∃ ds es, cs = ds ++ es ∧ Stamp.bytesOf ds = front ∧ (ofChars es).utf8 = back := by
  induction front generalizing cs with
  | nil => exact ⟨[], cs, rfl, rfl, h⟩
  | cons b front ih =>
    cases cs with
    | nil => cases h
    | cons c cs =>
      rw [utf8_cons, List.cons_append] at h
      obtain ⟨rfl, hrest⟩ := utf8Code_small (hfront b List.mem_cons_self) h
      obtain ⟨ds, es, rfl, rfl, hback⟩ := ih (fun x hx => hfront x (List.mem_cons_of_mem _ hx)) hrest
      exact ⟨c :: ds, es, rfl, rfl, hback⟩

/-- A character with the byte zero is U+0000. -/
theorem mem_utf8_zero {cs : List Char} (h : 0 ∈ (ofChars cs).utf8) : '\x00' ∈ cs := by
  obtain ⟨p, hp, hzero⟩ := List.mem_flatMap.1 h
  obtain ⟨c, hc, rfl⟩ := List.mem_map.1 hp
  have hnul : c.toNat = 0 := by
    rw [Point.code, utf8Code] at hzero
    split at hzero
    · exact (List.mem_singleton.1 hzero).symm
    · split at hzero
      · simp only [List.mem_cons, List.not_mem_nil, or_false] at hzero; omega
      · split at hzero
        · simp only [List.mem_cons, List.not_mem_nil, or_false] at hzero; omega
        · simp only [List.mem_cons, List.not_mem_nil, or_false] at hzero; omega
  have hchar : c = '\x00' := Char.toNat_inj.1 hnul
  exact hchar ▸ hc

end Text

namespace Stamp

/-! ### Texts that end in `Z` -/

/-- The text is a date and nothing else. -/
def DateAlone (u : Text) : Prop := ∃ cs, DateForm cs ∧ u = Text.ofChars cs

/-- At most one lone half is replaced, and it stands before the offset. -/
theorem plainSeparator_append (u : Text) (ds : List Char) :
    ∃ u', plainSeparator (u ++ Text.ofChars ds) = u' ++ Text.ofChars ds ∧
      (u' = u ∨ (∃ j, Point.half j ∈ u) ∧ Point.char 'T' ∈ u' ∧
        ∀ p ∈ u', p ∈ u ∨ p = .char 'T') := by
  rw [plainSeparator]
  cases hfind : [7, 8, 10].find? fun i =>
      ((u ++ Text.ofChars ds)[i]?).any fun p => p.char?.isNone with
  | none => exact ⟨u, rfl, .inl rfl⟩
  | some i =>
    obtain ⟨j, hget⟩ : ∃ j, (u ++ Text.ofChars ds)[i]? = some (.half j) := by
      have hhalf := List.find?_some hfind
      cases hget : (u ++ Text.ofChars ds)[i]? with
      | none => rw [hget] at hhalf; cases hhalf
      | some p =>
        cases p with
        | char c => rw [hget] at hhalf; cases hhalf
        | half j => exact ⟨j, rfl⟩
    have hlt : i < u.length := by
      by_contra hnot
      rw [List.getElem?_append_right (by omega)] at hget
      obtain ⟨c, -, hc⟩ := List.mem_map.1 (List.mem_of_getElem? hget)
      cases hc
    rw [List.getElem?_append_left hlt] at hget
    dsimp only
    rw [List.set_append_left _ _ hlt]
    refine ⟨u.set i (.char 'T'), rfl, .inr ⟨⟨j, List.mem_of_getElem? hget⟩, ?_, ?_⟩⟩
    · exact List.mem_of_getElem? (List.getElem?_set_self hlt)
    · exact fun p hp => List.mem_or_eq_of_mem_set hp

theorem ofChars_inj {cs ds : List Char} : Text.ofChars cs = Text.ofChars ds ↔ cs = ds :=
  List.map_inj_right fun _ _ => Point.char.inj

theorem bytesOf_inj {cs ds : List Char} : bytesOf cs = bytesOf ds ↔ cs = ds :=
  List.map_inj_right fun _ _ => Char.toNat_inj.1

/-- What is read before the offset zero begins with a date, and goes on with the time. -/
theorem readNumbers_date {cs : List Char} {s : Stamp}
    (h : readNumbers ((Text.ofChars cs).utf8 ++ zulu) = some s) :
    ∃ date rest, cs = date ++ rest ∧ DateForm date ∧
      dateLength? ((Text.ofChars cs).utf8 ++ zulu) = some date.length ∧
      ∃ c, readTime (dropCharacter ((Text.ofChars rest).utf8 ++ zulu)) = some (c, s.offset) := by
  simp only [readNumbers, Option.bind_eq_bind] at h
  obtain ⟨n, hlength, h⟩ := Option.bind_eq_some_iff.1 h
  obtain ⟨⟨year, month, day⟩, hread, h⟩ := Option.bind_eq_some_iff.1 h
  obtain ⟨hfive, hten, hweek⟩ := dateLength?_le hlength
  have htaken : (((Text.ofChars cs).utf8 ++ zulu).take n).length ≤ n := List.length_take_le ..
  obtain ⟨date, hform, hdate⟩ := readDate_form hread (Nat.le_trans htaken hten) fun hfour => by
    rw [List.getElem?_take_of_lt (by omega)] at hfour
    refine Nat.le_trans htaken (hweek ?_)
    rw [List.getD_eq_getElem?_getD, hfour]
    rfl
  -- No form of a date has a plus in it, so the date ends before the sign.
  have hbefore : n ≤ (Text.ofChars cs).utf8.length := by
    by_contra hnot
    obtain ⟨k, hk⟩ : ∃ k, n - (Text.ofChars cs).utf8.length = k + 1 :=
      ⟨n - (Text.ofChars cs).utf8.length - 1, by omega⟩
    have hsign : 43 ∈ ((Text.ofChars cs).utf8 ++ zulu).take n := by
      rw [List.take_append, hk, zulu_eq, List.take_succ_cons]
      exact List.mem_append_right _ List.mem_cons_self
    have hkinds := mem_dateForm hform (hdate ▸ hsign)
    omega
  rw [List.take_append_of_le_length hbefore] at hdate
  have hsmall : ∀ b ∈ bytesOf date, b < 128 := fun b hb => by
    have hkinds := mem_dateForm hform hb
    omega
  obtain ⟨front, rest, rfl, hfront, hrest⟩ :=
    Text.utf8_split hsmall (hdate ▸ (List.take_append_drop n _).symm)
  rw [bytesOf_inj] at hfront
  subst hfront
  have hn : n = front.length := by
    have hlen := congrArg List.length hdate
    rw [List.length_take_of_le hbefore, bytesOf, List.length_map] at hlen
    exact hlen
  rw [List.drop_append_of_le_length hbefore, ← hrest] at h
  refine ⟨front, rest, rfl, hform, hn ▸ hlength, ?_⟩
  split at h
  · rename_i hnil
    exact absurd hnil (List.append_ne_nil_of_right_ne_nil _ (by decide))
  · obtain ⟨⟨c, offset⟩, htime, h⟩ := Option.bind_eq_some_iff.1 h
    cases h
    exact ⟨c, htime⟩

/-- Characters before the offset zero are a date alone, or they are read with an offset. -/
theorem readNumbers_zulu {cs : List Char} {s : Stamp}
    (h : readNumbers ((Text.ofChars cs).utf8 ++ zulu) = some s) :
    s.offset = none ∧ DateForm cs ∨
      ∃ o, s.offset = some o ∧ ¬ DateForm cs ∧ (o = 0 ∨ '\x00' ∈ cs) := by
  obtain ⟨date, rest, rfl, hform, hlength, c, htime⟩ := readNumbers_date h
  cases rest with
  | nil =>
    have hnone : readTime (dropCharacter zulu) = some (⟨0, 0, 0, 0, false⟩, none) := rfl
    have hnil : (Text.ofChars []).utf8 ++ zulu = zulu := rfl
    rw [hnil, hnone] at htime
    rw [List.append_nil]
    exact .inl ⟨(congrArg Prod.snd (Option.some.inj htime)).symm, hform⟩
  | cons p rest =>
    rw [Text.utf8_cons, List.append_assoc, dropCharacter_utf8Code] at htime
    obtain ⟨o, ho, hoffset⟩ := readTime_zulu htime
    refine .inr ⟨o, ho, fun hwhole => ?_, hoffset.imp_right fun hzero => ?_⟩
    · have hbytes := Text.utf8_ofChars fun b hb => by
        have hkinds := mem_dateForm hwhole hb
        omega
      rw [hbytes] at hlength
      have hwholeLength := (dateLength?_dateForm hwhole 48 48 58 48 48).symm.trans hlength
      rw [Option.some.injEq, List.length_append, List.length_cons] at hwholeLength
      omega
    · exact List.mem_append_right _ (List.mem_cons_of_mem _ (Text.mem_utf8_zero hzero))

/-- A text that ends in `Z` and is read has no offset exactly if there is nothing but a date before the
`Z`; otherwise its offset is zero, or U+0000 stands in it, where an earlier offset was cut off. -/
theorem read_zulu {u : Text} {s : Stamp} (h : read (u ++ [.char 'Z']) = .ok s) :
    (s.offset = none ↔ DateAlone u) ∧ ∀ o ∈ s.offset, o = 0 ∨ Point.char '\x00' ∈ u := by
  have hlast : (u ++ [Point.char 'Z']).getLast? = some (.char 'Z') := List.getLast?_concat ..
  rw [read, if_pos hlast, List.dropLast_concat, readNumeric] at h
  split at h
  · cases h
  obtain ⟨u', hplain, hsame⟩ := plainSeparator_append u "+00:00".toList
  rw [Text.ofString, hplain] at h
  split at h
  · cases h
  · rename_i chars hchars
    split at h
    · cases h
    · rename_i numbers hnumbers
      obtain ⟨cs, ds, rfl, hcs, hds⟩ := List.map_eq_append_iff.1 (Text.chars?_eq_some hchars).symm
      rw [← Text.ofChars] at hcs hds
      rw [ofChars_inj] at hds
      subst hcs hds
      have hzulu : (Text.ofChars "+00:00".toList).utf8 = zulu := rfl
      rw [Text.utf8_append, hzulu] at hnumbers
      obtain ⟨rfl, -⟩ := valid_of_checked (readNumbers_kept hnumbers).1 h
      -- The text is the one that is read, unless a lone half was replaced; then it is no date.
      have halone : DateAlone u ↔ DateForm cs := by
        rcases hsame with rfl | ⟨⟨j, hhalf⟩, htee, -⟩
        · refine ⟨?_, fun hform => ⟨cs, hform, rfl⟩⟩
          rintro ⟨date, hform, hdate⟩
          rw [ofChars_inj.1 hdate]
          exact hform
        · constructor
          · rintro ⟨date, -, rfl⟩
            obtain ⟨c, -, hc⟩ := List.mem_map.1 hhalf
            cases hc
          · intro hform
            obtain ⟨c, hc, htee⟩ := List.mem_map.1 htee
            have hkinds := mem_dateForm hform (List.mem_map_of_mem (f := Char.toNat) hc)
            rw [Point.char.inj htee] at hkinds
            exact absurd hkinds (by decide)
      have hzero : '\x00' ∈ cs → Point.char '\x00' ∈ u := by
        intro hmem
        have hmem : Point.char '\x00' ∈ Text.ofChars cs := List.mem_map_of_mem hmem
        rcases hsame with rfl | ⟨-, -, hrest⟩
        · exact hmem
        · exact (hrest _ hmem).resolve_right (by decide)
      rw [halone]
      rcases readNumbers_zulu hnumbers with ⟨hnone, hform⟩ | ⟨o, ho, hform, hoffset⟩
      · rw [hnone]
        exact ⟨iff_of_true rfl hform, by rintro _ ⟨⟩⟩
      · rw [ho]
        refine ⟨iff_of_false (Option.some_ne_none o) hform, fun o' ho' => ?_⟩
        rw [← Option.some.inj ho']
        exact hoffset.imp_right hzero

end Stamp

end Pressroom
