import Pressroom.Proofs.Text.Clean

/-!
Cleaning at a limit is a projection onto the texts that are clean at this limit: no longer than the
limit, without control characters, and without white space at either end. Three passes lead there,
and each keeps what the passes before it have reached, since a part of a text has no controls that
the text has not, and is no longer. `isClean_clean` says so. Conversely none of the passes changes a
clean text (`clean_eq_self_iff`), and with that a text that was cleaned can be cleaned again, at the
same limit or at a larger one.

Which clean text comes out is said by `clean_eq_iff`: the one that stands between white space in what
the limit leaves of the text without its controls.
-/
namespace Pressroom

namespace Text

variable {limit m : Nat} {s t : Text}

/-- A text with which nothing is wrong: short enough, no control character in it, and no white space
at its ends. -/
structure IsClean (limit : Nat) (t : Text) : Prop where
  length_le : t.length ≤ limit
  no_control : ∀ p ∈ t, ¬ (p.code ≤ 0x1F ∨ 0x7F ≤ p.code ∧ p.code ≤ 0x9F)
  head_not_blank : ∀ p, t.head? = some p → p.isBlank = false
  last_not_blank : ∀ p, t.getLast? = some p → p.isBlank = false

theorem IsClean.mono (h : t.IsClean limit) (hle : limit ≤ m) : t.IsClean m :=
  { h with length_le := h.length_le.trans hle }

theorem IsClean.withoutControls_eq (h : t.IsClean limit) : t.withoutControls = t :=
  Text.withoutControls_eq_self fun p hp => Point.isControl_eq_false_iff.2 (h.no_control p hp)

theorem IsClean.strip_eq (h : t.IsClean limit) : trimBoth Point.isBlank t = t :=
  trimBoth_eq_self_iff.2 ⟨h.head_not_blank, h.last_not_blank⟩

theorem isClean_clean (limit : Nat) (t : Text) : (t.clean limit).IsClean limit := by
  -- the ends are not blank because stripping once more would change nothing
  have hends : trimBoth Point.isBlank (t.clean limit) = t.clean limit := by
    rw [clean_eq]; exact trimBoth_trimBoth _ _
  obtain ⟨hhead, hlast⟩ := trimBoth_eq_self_iff.1 hends
  refine ⟨?_, fun p hp => ?_, hhead, hlast⟩
  · rw [clean_eq]
    exact (length_trimBoth_le _ _).trans (List.length_take_le _ _)
  · exact Point.isControl_eq_false_iff.1 (isControl_of_mem ((isInfix_clean limit t).subset hp))

/-- The clean texts are the texts that cleaning leaves as they are. -/
theorem clean_eq_self_iff : t.clean limit = t ↔ t.IsClean limit := by
  constructor
  · intro h
    exact h ▸ isClean_clean limit t
  · intro h
    rw [clean_eq, h.withoutControls_eq, List.take_of_length_le h.length_le, h.strip_eq]

/-- What comes out is the clean text that stands between white space in what the limit leaves of the
text without its controls. -/
theorem clean_eq_iff : t.clean limit = s ↔ s.IsClean limit ∧
    ∃ front back, t.withoutControls.take limit = front ++ s ++ back ∧
      (∀ p ∈ front, p.isBlank = true) ∧ ∀ p ∈ back, p.isBlank = true := by
  constructor
  · rintro rfl
    refine ⟨isClean_clean limit t, ?_⟩
    rw [clean_eq]
    exact trimBoth_parts _ _
  · rintro ⟨hs, front, back, hparts, hfront, hback⟩
    rw [clean_eq, hparts, trimBoth_between hfront hback, hs.strip_eq]

/-- Cleaning a text at a limit gives a clean text, which is one piece of the text without its controls
and which cleaning at this limit or a larger one leaves as it is. It is the only clean text between
white space in what the limit leaves. -/
theorem cleaning_projects (limit : Nat) (t : Text) :
    ((Json.text t).clean limit).IsClean limit ∧
      (Json.text t).clean limit <:+: t.withoutControls ∧
      (∀ m : Nat, limit ≤ m →
        (Json.text ((Json.text t).clean limit)).clean m = (Json.text t).clean limit) ∧
      ∀ s, (Json.text t).clean limit = s ↔ s.IsClean limit ∧
        ∃ front back, t.withoutControls.take limit = front ++ s ++ back ∧
          (∀ p ∈ front, p.isBlank = true) ∧ ∀ p ∈ back, p.isBlank = true := by
  rw [Json.clean_text]
  refine ⟨isClean_clean limit t, isInfix_clean limit t, fun m hm => ?_, fun s => clean_eq_iff⟩
  rw [Json.clean_text]
  exact clean_eq_self_iff.2 ((isClean_clean limit t).mono hm)

/-- U+001C and U+0085 are white space and controls at once: they go before the cut and leave room for
a blank, which then goes from the end. -/
theorem cleaning_projects_separators :
    4 ≤ 9 ∧ (Json.string "\x1C \u00A0a\u0085 b").clean 4 = ofString "a" ∧
      (Json.text (ofString "a")).clean 9 = ofString "a" := by
  obtain ⟨-, -, hagain, hout⟩ := cleaning_projects 4 (ofString "\x1C \u00A0a\u0085 b")
  have hclean : (ofString "a").IsClean 4 :=
    ⟨by decide, by decide, by decide, by decide⟩
  have hout := (hout (ofString "a")).2
    ⟨hclean, ofString " \u00A0", ofString " ", by decide, by decide, by decide⟩
  rw [hout] at hagain
  exact ⟨by decide, hout, hagain 9 (by decide)⟩

/-- A limit that counts back from the end cuts again each time. -/
example : ((ofString "abc").clean (-1)).clean (-1) ≠ (ofString "abc").clean (-1) := by decide

end Text

end Pressroom
