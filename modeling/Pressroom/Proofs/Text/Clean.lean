import Mathlib.Data.List.DropRight
import Pressroom.Check.Clean

/-!
What cleaning keeps of a text. The cut comes before the white space at the ends goes, so what is kept
depends on where white space stands: blanks at the front use up part of the limit, and a blank just
before the cut hides that there was more. `kept_eq_meant_iff` says when nothing is lost, and
`lt_length_kept_iff` when the kept text is seen to be too long.
-/
namespace Pressroom

/-! ### Trimming both ends -/

section Trim

variable {α : Type} {p : α → Bool} {xs ys : List α}

theorem trimBoth_eq (p : α → Bool) (xs : List α) :
    trimBoth p xs = (xs.dropWhile p).rdropWhile p := rfl

theorem trimBoth_eq_nil_iff : trimBoth p xs = [] ↔ ∀ x ∈ xs, p x = true := by
  rw [trimBoth_eq, List.rdropWhile_eq_nil_iff]
  refine ⟨fun h x hx => ?_, fun h x hx => h x (List.dropWhile_sublist p |>.subset hx)⟩
  rw [← List.takeWhile_append_dropWhile (p := p) (l := xs), List.mem_append] at hx
  exact hx.elim List.mem_takeWhile_imp (h x)

theorem rdropWhile_append_of_all (h : ∀ y ∈ ys, p y = true) (xs : List α) :
    (xs ++ ys).rdropWhile p = xs.rdropWhile p := by
  rw [List.rdropWhile, List.reverse_append, List.dropWhile_append_of_pos, List.rdropWhile]
  exact fun y hy => h y (List.mem_reverse.1 hy)

theorem rdropWhile_append_of_ne (h : ys.rdropWhile p ≠ []) (xs : List α) :
    (xs ++ ys).rdropWhile p = xs ++ ys.rdropWhile p := by
  rw [List.rdropWhile, List.rdropWhile] at *
  rw [List.reverse_append, List.dropWhile_append]
  rw [List.reverse_ne_nil_iff] at h
  rw [if_neg (by simpa using h), List.reverse_append, List.reverse_reverse]

/-- Elements that are all dropped leave no trace at the end. -/
theorem trimBoth_append_of_all (h : ∀ y ∈ ys, p y = true) (xs : List α) :
    trimBoth p (xs ++ ys) = trimBoth p xs := by
  rw [trimBoth_eq, trimBoth_eq, List.dropWhile_append]
  split
  · rename_i hall
    have hys : ys.dropWhile p = [] := List.dropWhile_eq_nil_iff.2 h
    rw [hys, List.isEmpty_iff.1 hall]
  · exact rdropWhile_append_of_all h _

/-- An element that stays makes what is kept longer by more than what was kept before. -/
theorem trimBoth_append_of_not_all (h : ¬ ∀ y ∈ ys, p y = true) (xs : List α) :
    trimBoth p xs <+: trimBoth p (xs ++ ys) ∧
      (trimBoth p xs).length < (trimBoth p (xs ++ ys)).length := by
  rw [trimBoth_eq, trimBoth_eq, List.dropWhile_append]
  split
  · rename_i hall
    have hys : (ys.dropWhile p).rdropWhile p ≠ [] := fun hnil => h (trimBoth_eq_nil_iff.1 hnil)
    rw [List.isEmpty_iff.1 hall, List.rdropWhile_nil]
    exact ⟨List.nil_prefix, List.length_pos_iff.2 hys⟩
  · have hys : ys.rdropWhile p ≠ [] := fun hnil => h (List.rdropWhile_eq_nil_iff.1 hnil)
    have hbegins := List.rdropWhile_prefix p (xs.dropWhile p)
    rw [rdropWhile_append_of_ne hys]
    refine ⟨hbegins.trans (List.prefix_append ..), ?_⟩
    have hpos := List.length_pos_iff.2 hys
    have hle := hbegins.length_le
    rw [List.length_append]
    omega

theorem length_trimBoth_le (p : α → Bool) (xs : List α) : (trimBoth p xs).length ≤ xs.length :=
  (List.rdropWhile_prefix p _).length_le.trans (List.dropWhile_sublist p).length_le

/-- Nothing is dropped exactly if neither end is. -/
theorem length_trimBoth_eq_iff : (trimBoth p xs).length = xs.length ↔
    (∀ x, xs.head? = some x → p x = false) ∧ ∀ x, xs.getLast? = some x → p x = false := by
  have hfront := (List.dropWhile_sublist (l := xs) p).length_le
  have hback := (List.rdropWhile_prefix p (xs.dropWhile p)).length_le
  rw [trimBoth_eq]
  constructor
  · intro h
    have hdrop : xs.dropWhile p = xs := (List.dropWhile_sublist p).eq_of_length (by omega)
    rw [hdrop] at h
    have hrdrop : xs.rdropWhile p = xs := (List.rdropWhile_prefix p xs).eq_of_length h
    refine ⟨fun x hx => ?_, fun x hx => ?_⟩
    · cases xs with
      | nil => cases hx
      | cons y ys =>
        cases hx
        simpa using List.dropWhile_eq_self_iff.1 hdrop (Nat.succ_pos _)
    · have hne : xs ≠ [] := by rintro rfl; cases hx
      rw [List.getLast?_eq_some_getLast hne] at hx
      cases hx
      simpa using List.rdropWhile_eq_self_iff.1 hrdrop hne
  · rintro ⟨hhead, hlast⟩
    have hdrop : xs.dropWhile p = xs := by
      cases xs with
      | nil => rfl
      | cons y ys => rw [List.dropWhile_cons_of_neg (by rw [hhead y rfl]; decide)]
    have hrdrop : xs.rdropWhile p = xs :=
      List.rdropWhile_eq_self_iff.2 fun hne => by
        rw [hlast _ (List.getLast?_eq_some_getLast hne)]; decide
    rw [hdrop, hrdrop]

theorem trimBoth_sublist (p : α → Bool) (xs : List α) : (trimBoth p xs).Sublist xs :=
  (List.rdropWhile_prefix p _).sublist.trans (List.dropWhile_sublist p)

/-- What is dropped at the two ends. -/
theorem trimBoth_parts (p : α → Bool) (xs : List α) : ∃ front back,
    xs = front ++ trimBoth p xs ++ back ∧ (∀ x ∈ front, p x = true) ∧ ∀ x ∈ back, p x = true := by
  obtain ⟨back, hback⟩ := List.rdropWhile_prefix p (xs.dropWhile p)
  refine ⟨xs.takeWhile p, back, ?_, fun x hx => List.mem_takeWhile_imp hx, ?_⟩
  · rw [List.append_assoc, trimBoth_eq, hback, List.takeWhile_append_dropWhile]
  · rw [← List.rdropWhile_eq_nil_iff]
    by_contra hne
    have hkept := rdropWhile_append_of_ne hne ((xs.dropWhile p).rdropWhile p)
    rw [hback, List.self_eq_append_right] at hkept
    exact hne hkept

/-- Nothing but what stays between the two ends counts. -/
theorem trimBoth_between {front back : List α} (hfront : ∀ x ∈ front, p x = true)
    (hback : ∀ x ∈ back, p x = true) (xs : List α) :
    trimBoth p (front ++ xs ++ back) = trimBoth p xs := by
  rw [trimBoth_append_of_all hback, trimBoth_eq, List.dropWhile_append_of_pos hfront, ← trimBoth_eq]

/-- What was trimmed stays as it is. -/
theorem trimBoth_trimBoth (p : α → Bool) (xs : List α) :
    trimBoth p (trimBoth p xs) = trimBoth p xs := by
  obtain ⟨front, back, hxs, hfront, hback⟩ := trimBoth_parts p xs
  have hsame := trimBoth_between hfront hback (trimBoth p xs)
  rw [← hsame, ← hxs]

/-- A list stays as it is exactly if neither end is dropped. -/
theorem trimBoth_eq_self_iff : trimBoth p xs = xs ↔
    (∀ x, xs.head? = some x → p x = false) ∧ ∀ x, xs.getLast? = some x → p x = false := by
  rw [← length_trimBoth_eq_iff]
  exact ⟨congrArg List.length, (trimBoth_sublist p xs).eq_of_length⟩

/-- What stays is in one piece. -/
theorem isInfix_trimBoth (p : α → Bool) (xs : List α) : trimBoth p xs <:+: xs :=
  (List.rdropWhile_prefix p _).isInfix.trans (List.dropWhile_suffix p).isInfix

end Trim

/-! ### Cleaning -/

theorem Point.isControl_eq_false_iff {p : Point} :
    p.isControl = false ↔ ¬ (p.code ≤ 0x1F ∨ 0x7F ≤ p.code ∧ p.code ≤ 0x9F) := by
  rw [Point.isControl, isControlCode, ← Bool.not_eq_true, Bool.or_eq_true, Bool.and_eq_true,
    decide_eq_true_iff, decide_eq_true_iff, decide_eq_true_iff]

/-- A value that is a text is cleaned as the text; the empty text is clean already. -/
theorem Json.clean_text (limit : Int) (t : Text) : (Json.text t).clean limit = t.clean limit := by
  cases t with
  | nil =>
    have hcut : cutAt limit ([] : Text) = [] := by rw [cutAt, List.take_nil, List.take_nil, ite_self]
    change [] = Text.strip (cutAt limit [])
    rw [hcut]
    rfl
  | cons p t => rfl

namespace Text

theorem isControl_of_mem {p : Point} {t : Text} (hp : p ∈ t.withoutControls) :
    p.isControl = false := by
  simpa using (List.mem_filter.1 hp).2

theorem withoutControls_eq_self {t : Text} (h : ∀ p ∈ t, p.isControl = false) :
    t.withoutControls = t :=
  List.filter_eq_self.2 fun p hp => by rw [h p hp]; rfl

theorem clean_eq (limit : Nat) (t : Text) :
    t.clean limit = trimBoth Point.isBlank (t.withoutControls.take limit) := by
  rw [clean, strip, cutAt, if_pos (Int.natCast_nonneg limit), Int.toNat_natCast]

/-- What cleaning leaves is one piece of the text without its controls. -/
theorem isInfix_clean (limit : Nat) (t : Text) : t.clean limit <:+: t.withoutControls := by
  rw [clean_eq]
  exact (isInfix_trimBoth _ _).trans (List.take_prefix _ _).isInfix

/-- The text that is meant: without controls, and without the white space at its two ends. -/
def meant (t : Text) : Text := strip t.withoutControls

/-- What is kept of a text for a field with a limit. One code point more than the limit is kept, so
that a check of the length can see it. -/
def kept (limit : Nat) (t : Text) : Text := t.clean (limit + 1)

theorem kept_eq (limit : Nat) (t : Text) :
    t.kept limit = trimBoth Point.isBlank (t.withoutControls.take (limit + 1)) :=
  clean_eq (limit + 1) t

theorem meant_eq (limit : Nat) (t : Text) :
    t.meant = trimBoth Point.isBlank
      (t.withoutControls.take (limit + 1) ++ t.withoutControls.drop (limit + 1)) := by
  change trimBoth Point.isBlank t.withoutControls = _
  rw [List.take_append_drop]

/-- What is kept is the beginning of what is meant. -/
theorem kept_begins (limit : Nat) (t : Text) : t.kept limit <+: t.meant := by
  rw [kept_eq, meant_eq limit]
  by_cases h : ∀ p ∈ t.withoutControls.drop (limit + 1), p.isBlank = true
  · have hsame := trimBoth_append_of_all h (t.withoutControls.take (limit + 1))
    exact ⟨[], (List.append_nil _).trans hsame.symm⟩
  · exact (trimBoth_append_of_not_all h _).1

/-- All of what is meant is kept exactly if nothing but white space stands behind the cut. -/
theorem kept_eq_meant_iff (limit : Nat) (t : Text) :
    t.kept limit = t.meant ↔ ∀ p ∈ t.withoutControls.drop (limit + 1), p.isBlank = true := by
  rw [kept_eq, meant_eq limit]
  refine ⟨fun heq => ?_, fun h => (trimBoth_append_of_all h _).symm⟩
  by_contra h
  have hlt := (trimBoth_append_of_not_all h (t.withoutControls.take (limit + 1))).2
  rw [← heq] at hlt
  exact Nat.lt_irrefl _ hlt

/-- What is kept is longer than the limit exactly if the first code point and the one just behind
the limit are there and are no white space. -/
theorem lt_length_kept_iff (limit : Nat) (t : Text) :
    limit < (t.kept limit).length ↔
      (∃ p, t.withoutControls.head? = some p ∧ p.isBlank = false) ∧
        ∃ p, t.withoutControls[limit]? = some p ∧ p.isBlank = false := by
  rw [kept_eq]
  generalize t.withoutControls = w
  have hle := length_trimBoth_le Point.isBlank (w.take (limit + 1))
  rw [List.length_take] at hle
  have hhead : (w.take (limit + 1)).head? = w.head? := by cases w <;> rfl
  have hlast : limit < w.length → (w.take (limit + 1)).getLast? = w[limit]? := by
    intro hlong
    have hat : min (limit + 1) w.length - 1 = limit := by omega
    rw [List.getLast?_eq_getElem?, List.length_take, List.getElem?_take, hat,
      if_pos (Nat.lt_succ_self _)]
  have hfull : limit < (trimBoth Point.isBlank (w.take (limit + 1))).length ↔ limit < w.length ∧
      (trimBoth Point.isBlank (w.take (limit + 1))).length = (w.take (limit + 1)).length := by
    rw [List.length_take]; omega
  rw [hfull, length_trimBoth_eq_iff, hhead]
  constructor
  · rintro ⟨hlong, hfirst, hend⟩
    rw [hlast hlong] at hend
    have hhead : w.head? = some w[0] := by rw [List.head?_eq_getElem?, List.getElem?_eq_getElem]
    exact ⟨⟨w[0], hhead, hfirst _ hhead⟩, w[limit], List.getElem?_eq_getElem hlong,
      hend _ (List.getElem?_eq_getElem hlong)⟩
  · rintro ⟨⟨p, hp, hfirst⟩, q, hq, hend⟩
    have hlong : limit < w.length := (List.getElem?_eq_some_iff.1 hq).1
    rw [hlast hlong]
    refine ⟨hlong, fun x hx => ?_, fun x hx => ?_⟩
    · rw [hp] at hx; cases hx; exact hfirst
    · rw [hq] at hx; cases hx; exact hend

/-! ### Cleaning and stripping -/

/-- Controls go before or after the white space at the ends, it makes no difference. -/
theorem meant_eq_strip (t : Text) : t.meant = strip (strip t).withoutControls := by
  obtain ⟨front, back, ht, hfront, hback⟩ := trimBoth_parts Point.isBlank t
  have hkept : t.withoutControls = withoutControls front ++ withoutControls (strip t)
      ++ withoutControls back :=
    (congrArg withoutControls ht).trans (by
      rw [withoutControls, List.filter_append, List.filter_append]; rfl)
  rw [meant, hkept]
  exact trimBoth_between (fun p hp => hfront p (List.mem_filter.1 hp).1)
    (fun p hp => hback p (List.mem_filter.1 hp).1) _

theorem meant_sublist_strip (t : Text) : t.meant.Sublist (strip t) := by
  rw [meant_eq_strip]
  exact (trimBoth_sublist _ _).trans List.filter_sublist

/-- A text that is stripped is what is meant exactly if it has no controls. -/
theorem meant_eq_strip_iff (t : Text) :
    t.meant = strip t ↔ ∀ p ∈ strip t, p.isControl = false := by
  constructor
  · intro h p hp
    rw [← h] at hp
    exact isControl_of_mem ((trimBoth_sublist _ _).subset hp)
  · intro h
    rw [meant_eq_strip, withoutControls_eq_self h]
    exact trimBoth_trimBoth _ _

theorem kept_sublist_strip (limit : Nat) (t : Text) : (t.kept limit).Sublist (strip t) :=
  (kept_begins limit t).sublist.trans (meant_sublist_strip t)

theorem kept_sublist (limit : Nat) (t : Text) : (t.kept limit).Sublist t :=
  (isInfix_clean (limit + 1) t).sublist.trans List.filter_sublist

/-- What is kept is the stripped text exactly if this has no controls and nothing but white space
stands behind the cut. -/
theorem kept_eq_strip_iff (limit : Nat) (t : Text) :
    t.kept limit = strip t ↔ (∀ p ∈ strip t, p.isControl = false) ∧
      ∀ p ∈ t.withoutControls.drop (limit + 1), p.isBlank = true := by
  rw [← meant_eq_strip_iff, ← kept_eq_meant_iff]
  constructor
  · intro h
    have hmeant : t.meant = strip t := (meant_sublist_strip t).antisymm
      (h ▸ (kept_begins limit t).sublist)
    exact ⟨hmeant, h.trans hmeant.symm⟩
  · rintro ⟨hmeant, hkept⟩
    exact hkept.trans hmeant

end Text

end Pressroom
