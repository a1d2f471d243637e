import Mathlib.Data.List.Count
import Pressroom.Check.Field

/-!
What passes for an email address. The rule is written as a pattern, a run of code points that are
neither white space nor `@`, then `@`, a run, a dot, a run, and the end of the line. Matching it means
trying every place at which a run may stop; what comes of that is a shape, one `@` with something
before it and a dot inside what stands behind it, and no white space. The end of the line is the one
place where the pattern is wider than the shape: a line feed at the very end of the text still passes.
-/
namespace Pressroom

/-! ### Patterns -/

/-- A piece of a pattern: one code point that passes a test, a run of at least one of them, or the end
of the last line, behind which one line feed may stand. -/
inductive Piece where
  | one (ok : Point → Bool)
  | run (ok : Point → Bool)
  | lineEnd

namespace Piece

variable {ok : Point → Bool} {next : Text → Bool} {pieces : List Piece} {p : Point} {t : Text}

/-- A run from the front of a text whose rest has to pass `next`; longer runs are tried first. -/
def matchRun (ok : Point → Bool) (next : Text → Bool) : Text → Bool
  | [] => false
  | p :: t => ok p && (matchRun ok next t || next t)

/-- Whether the pieces match from the beginning of a text on. -/
def matchAll : List Piece → Text → Bool
  | [], _ => true
  | one _ :: _, [] => false
  | one ok :: rest, p :: t => ok p && matchAll rest t
  | run ok :: rest, t => matchRun ok (matchAll rest) t
  | lineEnd :: rest, t => (t == [] || t == [.char '\n']) && matchAll rest t

/-- A part of a text that a run can take: not empty, and every code point of it passes the test. -/
def Run (ok : Point → Bool) (part : Text) : Prop := part ≠ [] ∧ ∀ p ∈ part, ok p = true

/-- Trying the runs one after the other finds one if there is one. -/
theorem matchRun_iff : matchRun ok next t = true ↔
    ∃ part rest, t = part ++ rest ∧ Run ok part ∧ next rest = true := by
  induction t with
  | nil =>
    refine ⟨nofun, ?_⟩
    rintro ⟨part, rest, hsplit, ⟨hne, -⟩, -⟩
    exact absurd (List.append_eq_nil_iff.1 hsplit.symm).1 hne
  | cons p t ih =>
    rw [matchRun, Bool.and_eq_true, Bool.or_eq_true, ih]
    constructor
    · rintro ⟨hp, ⟨part, rest, rfl, ⟨-, hpart⟩, hnext⟩ | hnext⟩
      · exact ⟨p :: part, rest, rfl, ⟨nofun, List.forall_mem_cons.2 ⟨hp, hpart⟩⟩, hnext⟩
      · exact ⟨[p], t, rfl, ⟨nofun, by simpa using hp⟩, hnext⟩
    · rintro ⟨part, rest, hsplit, ⟨hne, hpart⟩, hnext⟩
      cases part with
      | nil => exact absurd rfl hne
      | cons q part =>
        obtain ⟨rfl, rfl⟩ := List.cons.inj hsplit
        rw [List.forall_mem_cons] at hpart
        refine ⟨hpart.1, ?_⟩
        -- the run goes on behind its first code point, or it stops there
        cases part with
        | nil => exact .inr hnext
        | cons r part => exact .inl ⟨r :: part, rest, rfl, ⟨nofun, hpart.2⟩, hnext⟩

theorem matchAll_one_iff : matchAll (one ok :: pieces) t = true ↔
    ∃ p rest, t = p :: rest ∧ ok p = true ∧ matchAll pieces rest = true := by
  cases t with
  | nil => simp [matchAll]
  | cons p t => simp [matchAll]

theorem matchAll_run_iff : matchAll (run ok :: pieces) t = true ↔
    ∃ part rest, t = part ++ rest ∧ Run ok part ∧ matchAll pieces rest = true := by
  rw [matchAll, matchRun_iff]

theorem matchAll_lineEnd_iff : matchAll [lineEnd] t = true ↔ t = [] ∨ t = [.char '\n'] := by
  simp [matchAll]

end Piece

/-! ### Addresses -/

namespace Check

open Piece

variable {t name front back domain : Text}

/-- The pattern of an address. -/
def addressPieces : List Piece :=
  [.run isAddressPoint, .one (· == .char '@'), .run isAddressPoint, .one (· == .char '.'),
    .run isAddressPoint, .lineEnd]

/-- The shape of an address: no white space, one `@`, something before it, and behind it a dot with
something on each side. -/
structure AddressShape (t : Text) : Prop where
  unblank : ∀ p ∈ t, p.isBlank = false
  oneAt : t.count (.char '@') = 1
  parts : ∃ name front back, t = name ++ .char '@' :: (front ++ .char '.' :: back) ∧
    name ≠ [] ∧ front ≠ [] ∧ back ≠ []

/-- A text cut into the parts of an address. -/
def CutAt (t name front back : Text) : Prop :=
  t = name ++ .char '@' :: (front ++ .char '.' :: back) ∧
    Run isAddressPoint name ∧ Run isAddressPoint front ∧ Run isAddressPoint back

theorem isAddressPoint_iff {p : Point} :
    isAddressPoint p = true ↔ p ≠ .char '@' ∧ p.isBlank = false := by
  simp [isAddressPoint]

theorem count_at_join (name front back : Text) :
    (name ++ .char '@' :: (front ++ .char '.' :: back)).count (.char '@')
      = name.count (.char '@') + front.count (.char '@') + back.count (.char '@') + 1 := by
  simp [List.count_append]
  omega

theorem count_at_eq_zero (h : ∀ p ∈ t, isAddressPoint p = true) : t.count (.char '@') = 0 :=
  List.count_eq_zero.2 fun hmem => (isAddressPoint_iff.1 (h _ hmem)).1 rfl

theorem run_of_count (hne : t ≠ []) (hcount : t.count (.char '@') = 0)
    (hunblank : ∀ p ∈ t, p.isBlank = false) : Run isAddressPoint t := by
  refine ⟨hne, fun p hp => isAddressPoint_iff.2 ⟨?_, hunblank p hp⟩⟩
  rintro rfl
  exact List.count_eq_zero.1 hcount hp

/-- A text has the shape if it can be cut into parts that hold neither white space nor `@`. -/
theorem addressShape_iff : AddressShape t ↔ ∃ name front back, CutAt t name front back := by
  constructor
  · rintro ⟨hunblank, hone, name, front, back, rfl, hname, hfront, hback⟩
    rw [count_at_join] at hone
    refine ⟨name, front, back, rfl, run_of_count hname (by omega) ?_,
      run_of_count hfront (by omega) ?_, run_of_count hback (by omega) ?_⟩ <;>
      exact fun p hp => hunblank p (by simp [hp])
  · rintro ⟨name, front, back, rfl, hname, hfront, hback⟩
    refine ⟨?_, ?_, name, front, back, rfl, hname.1, hfront.1, hback.1⟩
    · intro p hp
      have hpart : ∀ part, Run isAddressPoint part → p ∈ part → p.isBlank = false :=
        fun part hrun hmem => (isAddressPoint_iff.1 (hrun.2 p hmem)).2
      simp only [List.mem_append, List.mem_cons] at hp
      rcases hp with hp | rfl | hp | rfl | hp
      · exact hpart name hname hp
      · decide
      · exact hpart front hfront hp
      · decide
      · exact hpart back hback hp
    · rw [count_at_join, count_at_eq_zero hname.2, count_at_eq_zero hfront.2,
        count_at_eq_zero hback.2]

/-- The pieces match what is cut into parts, and what stands behind it is nothing or a line feed. -/
theorem matchAll_cut_iff : matchAll addressPieces t = true ↔
    ∃ u tail name front back, t = u ++ tail ∧ CutAt u name front back ∧
      (tail = [] ∨ tail = [.char '\n']) := by
  simp only [addressPieces, matchAll_run_iff, matchAll_one_iff, matchAll_lineEnd_iff, beq_iff_eq]
  constructor
  · rintro ⟨name, -, rfl, hname, -, -, rfl, rfl, front, -, rfl, hfront, -, -, rfl, rfl, back, tail,
      rfl, hback, htail⟩
    exact ⟨_, tail, name, front, back, by simp, ⟨rfl, hname, hfront, hback⟩, htail⟩
  · rintro ⟨-, tail, name, front, back, rfl, ⟨rfl, hname, hfront, hback⟩, htail⟩
    exact ⟨name, .char '@' :: (front ++ .char '.' :: (back ++ tail)), by simp, hname, _, _, rfl, rfl,
      front, _, rfl, hfront, _, _, rfl, rfl, back, tail, rfl, hback, htail⟩

/-- The pattern matches a text that has the shape, with or without a line feed behind it. -/
theorem matchAll_address_iff : matchAll addressPieces t = true ↔
    AddressShape t ∨ ∃ u, t = u ++ [.char '\n'] ∧ AddressShape u := by
  rw [matchAll_cut_iff]
  constructor
  · rintro ⟨u, tail, name, front, back, rfl, hcut, rfl | rfl⟩
    · rw [List.append_nil]
      exact .inl (addressShape_iff.2 ⟨name, front, back, hcut⟩)
    · exact .inr ⟨u, rfl, addressShape_iff.2 ⟨name, front, back, hcut⟩⟩
  · rintro (hshape | ⟨u, rfl, hshape⟩)
    · obtain ⟨name, front, back, hcut⟩ := addressShape_iff.1 hshape
      exact ⟨t, [], name, front, back, (List.append_nil t).symm, hcut, .inl rfl⟩
    · obtain ⟨name, front, back, hcut⟩ := addressShape_iff.1 hshape
      exact ⟨u, _, name, front, back, rfl, hcut, .inr rfl⟩

/-! ### The check -/

/-- A dot stands inside exactly if the text can be cut at a dot into two parts that are not empty. -/
theorem hasInnerDot_iff : hasInnerDot t = true ↔
    ∃ front back, t = front ++ .char '.' :: back ∧ front ≠ [] ∧ back ≠ [] := by
  rw [hasInnerDot, List.contains_iff_mem]
  constructor
  · intro h
    cases t with
    | nil => simp at h
    | cons p t =>
      rw [List.drop_one, List.tail_cons] at h
      have hne : t ≠ [] := by rintro rfl; simp at h
      obtain ⟨before, after, hsplit⟩ := List.append_of_mem h
      refine ⟨p :: before, after ++ [t.getLast hne], ?_, nofun, by simp⟩
      have hjoin := List.dropLast_concat_getLast hne
      rw [hsplit, List.append_assoc] at hjoin
      exact congrArg (p :: ·) hjoin.symm
  · rintro ⟨front, back, rfl, hfront, hback⟩
    cases front with
    | nil => exact absurd rfl hfront
    | cons p front => simp [List.dropLast_append_of_ne_nil, List.dropLast_cons_of_ne_nil hback]

/-- Looking for the first `@` and for a dot behind it finds the shape. -/
theorem isAddress_iff : isAddress t = true ↔ AddressShape t := by
  rw [addressShape_iff]
  constructor
  · intro h
    rw [isAddress] at h
    split at h
    · cases h
    · rename_i at' domain hdrop
      have hat : at' = .char '@' := by
        have hhead := List.head?_dropWhile_not (· != Point.char '@') t
        rw [hdrop] at hhead
        simpa using hhead
      simp only [Bool.and_eq_true, Bool.not_eq_true', List.isEmpty_eq_false_iff, List.all_eq_true] at h
      obtain ⟨⟨⟨hname, hnamePoints⟩, hdomain⟩, hdot⟩ := h
      obtain ⟨front, back, rfl, hfront, hback⟩ := hasInnerDot_iff.1 hdot
      have ht := List.takeWhile_append_dropWhile (p := (· != Point.char '@')) (l := t)
      rw [hdrop, hat] at ht
      exact ⟨_, front, back, ht.symm, ⟨hname, hnamePoints⟩,
        ⟨hfront, fun p hp => hdomain p (by simp [hp])⟩, hback, fun p hp => hdomain p (by simp [hp])⟩
  · rintro ⟨name, front, back, rfl, ⟨hname, hnamePoints⟩, ⟨hfront, hfrontPoints⟩, hback, hbackPoints⟩
    have hbefore : ∀ p ∈ name, (p != Point.char '@') = true := fun p hp => by
      simpa using (isAddressPoint_iff.1 (hnamePoints p hp)).1
    have hdot := hasInnerDot_iff.2 ⟨front, back, rfl, hfront, hback⟩
    have hpoint : isAddressPoint (.char '.') = true := by decide
    rw [isAddress, List.dropWhile_append_of_pos hbefore, List.takeWhile_append_of_pos hbefore]
    simpa [hname, hdot, hpoint] using ⟨hnamePoints, hfrontPoints, hbackPoints⟩

/-- A line feed is white space, so no text with the shape ends in one. -/
theorem AddressShape.getLast?_ne (h : AddressShape t) : t.getLast? ≠ some (.char '\n') := by
  intro hlast
  have hfeed := h.unblank _ (List.mem_of_getLast? hlast)
  revert hfeed
  decide

/-- What is looked at is the text without a line feed at its end. -/
theorem isAddress_dropFinalNewline_iff : isAddress (dropFinalNewline t) = true ↔
    AddressShape t ∨ ∃ u, t = u ++ [.char '\n'] ∧ AddressShape u := by
  rw [isAddress_iff, dropFinalNewline]
  split
  · rename_i hlast
    obtain ⟨u, rfl⟩ := List.getLast?_eq_some_iff.1 hlast
    rw [List.dropLast_concat]
    refine ⟨fun h => .inr ⟨u, rfl, h⟩, ?_⟩
    rintro (h | ⟨w, hw, h⟩)
    · exact absurd hlast h.getLast?_ne
    · rwa [List.append_cancel_right hw]
  · rename_i hlast
    refine ⟨.inl, ?_⟩
    rintro (h | ⟨u, rfl, -⟩)
    · exact h
    · exact absurd List.getLast?_concat hlast

/-- A value passes for an address if it is a text that is not too long and looks like one. -/
theorem email_eq_ok_iff {v : Json} : email v = .ok () ↔
    ∃ t, v = .text t ∧ t ≠ [] ∧ t.length ≤ emailMax ∧ isAddress (dropFinalNewline t) = true := by
  constructor
  · intro h
    rw [email.eq_def] at h
    split at h
    · cases h
    · rename_i htruthy
      split at h
      · rename_i t
        split at h
        · cases h
        · rename_i hlong
          split at h
          · rename_i haddress
            exact ⟨t, rfl, by rintro rfl; exact htruthy rfl, Nat.not_lt.1 hlong, haddress⟩
          · cases h
      · cases h
  · rintro ⟨t, rfl, hne, hlength, haddress⟩
    have htruthy : (Json.text t).truthy = true := by simp [Json.truthy, hne]
    simp [email, htruthy, Nat.not_lt.2 hlength, haddress]

/-- A value passes for an address exactly if it is a text of one to a hundred code points that the
pattern matches, and it matches what has the shape of an address, or has it but for a line feed at the
very end. -/
theorem email_passes_iff (v : Json) (u : Text) :
    (email v = .ok () ↔ ∃ t, v = .text t ∧ 1 ≤ t.length ∧ t.length ≤ emailMax ∧
      matchAll addressPieces t = true) ∧
    (matchAll addressPieces u = true ↔
      AddressShape u ∨ ∃ w, u = w ++ [.char '\n'] ∧ AddressShape w) := by
  refine ⟨?_, matchAll_address_iff⟩
  simp only [email_eq_ok_iff, isAddress_dropFinalNewline_iff, matchAll_address_iff,
    Nat.one_le_iff_ne_zero, ne_eq, List.length_eq_zero_iff]

/-- An address with a line feed at its end passes, and does not have the shape. -/
theorem line_feed_passes :
    email (.string "a@b.c\n") = .ok () ∧ ¬ AddressShape (Text.ofString "a@b.c\n") :=
  ⟨by decide, fun h => absurd (h.unblank (.char '\n') (by decide)) (by decide)⟩

end Check

end Pressroom
