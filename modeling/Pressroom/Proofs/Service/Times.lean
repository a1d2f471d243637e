import Pressroom.Proofs.Service.Reach
import Pressroom.Proofs.Store.Lifecycle
import Pressroom.Proofs.Text.Clean

/-!
Times as text. What is written of a stamp is read back but for an offset of less than a second, which
comes back as none at all; what was read from any text has no such offset, so writing it and reading it
again changes nothing. A column of a table keeps the written text as it is, since a date is no number,
and the times of every row that a service gets into come from the clock, in UTC, so they are read back
as they were.
-/
namespace Pressroom

namespace Mark

/-! ### A date is no number -/

theorem isDigit_digitChar : ∀ d < 10, (Nat.digitChar d).isDigit = true := by decide

theorem isDigit_decimalDigits {w n : Nat} : ∀ c ∈ decimalDigits w n, c.isDigit = true := by
  induction w generalizing n with
  | zero => exact fun c hc => nomatch hc
  | succ w ih =>
    intro c hc
    rw [decimalDigits, List.mem_append, List.mem_singleton] at hc
    rcases hc with hc | rfl
    · exact ih c hc
    · exact isDigit_digitChar _ (Nat.mod_lt _ (by decide))

/-- No sign is taken off a digit. -/
theorem takeSign_digit {c : Char} (h : c.isDigit = true) (cs : List Char) :
    takeSign (c :: cs) = (false, c :: cs) := by
  rw [takeSign]
  · rintro rest ⟨⟩; cases h
  · rintro rest ⟨⟩; cases h

/-- No padding stands around the text of a stamp. -/
theorem trimBoth_write (s : Stamp) : trimBoth isPadding s.write = s.write := by
  have hnone : ∀ c ∈ s.write, isPadding c = false := by
    intro c hc
    have hrange := Stamp.mem_write (List.mem_map_of_mem (f := Char.toNat) hc)
    simp only [isPadding, ← Bool.not_eq_true, Bool.or_eq_true, beq_iff_eq, Bool.and_eq_true,
      decide_eq_true_eq]
    rintro (rfl | hpadding)
    · exact absurd hrange (by decide)
    · omega
  refine (trimBoth_sublist isPadding s.write).eq_of_length (length_trimBoth_eq_iff.2 ⟨?_, ?_⟩)
  · exact fun c hc => hnone c (List.mem_of_head? hc)
  · exact fun c hc => hnone c (List.mem_of_getLast? hc)

/-- The text of a stamp is no number: the dash after the year belongs to none. -/
theorem number?_iso (s : Stamp) : number? s.iso = none := by
  obtain ⟨rest, hwrite⟩ : ∃ rest, s.write = decimalDigits 4 s.year ++ '-' :: rest :=
    ⟨_, by rw [Stamp.write, List.append_assoc, List.append_assoc, List.append_assoc,
      List.append_assoc]; rfl⟩
  have hsign : takeSign s.write = (false, s.write) := by
    rw [hwrite]
    exact takeSign_digit (isDigit_digitChar _ (Nat.mod_lt _ (by decide))) _
  have hafter : s.write.dropWhile Char.isDigit = '-' :: rest := by
    rw [hwrite, List.dropWhile_append_of_pos isDigit_decimalDigits]
    rfl
  have hexponent : exponent? ('-' :: rest) = none := by
    rw [exponent?]
    rfl
  rw [number?, Stamp.iso, String.toList_ofList, trimBoth_write, hsign]
  have hpoint : ¬ some '-' = some '.' := by decide
  simp only [hafter, List.head?_cons, if_neg hpoint, hexponent, Option.map_none, ite_self]

/-- So a table keeps it as it is. -/
theorem ofText_iso (s : Stamp) : ofText s.iso = text s.iso := by
  rw [ofText, number?_iso]

/-- A time that may be missing, on its way into a table and out of it again. -/
theorem read_ofText {d : Option Stamp} (h : ∀ s ∈ d, s.Valid) :
    readOption (d.map fun s => ofText s.iso) = .ok (d.map Stamp.kept) := by
  cases d with
  | none => rfl
  | some s => rw [Option.map_some, ofText_iso, read_iso (h s rfl)]; rfl

theorem kept_option_iff (d : Option Stamp) : d.map Stamp.kept = d ↔ ∀ s ∈ d, s.Keeps := by
  cases d with
  | none => exact ⟨fun _ _ hs => (nomatch hs), fun _ => rfl⟩
  | some s => simp [Stamp.kept_eq_iff]

/-- A time that was taken from the clock is the text of a stamp that is read back. -/
theorem Clocked.written {m : Option Mark} (h : Clocked m) :
    ∃ d : Option Stamp, m = (d.map fun s => ofText s.iso) ∧ readOption m = .ok d := by
  obtain ⟨t, ht, rfl⟩ := h
  refine ⟨some (.ofInstant t), ?_, read_ofInstant ht⟩
  rw [Option.map_some, ofText_iso, ofInstant]

end Mark

namespace Entry

variable {α : Type} {r : Row α}

/-- The times of a row. -/
def times (r : Row α) : List (Option Mark) := [r.created, r.updated, r.deleted]

/-- So is every time of a row, unless it is missing. -/
theorem Timed.written (h : r.Timed) : ∀ m ∈ r.times,
    ∃ d : Option Stamp, m = (d.map fun s => Mark.ofText s.iso) ∧ Mark.readOption m = .ok d := by
  intro m hm
  rw [times, List.mem_cons, List.mem_cons, List.mem_singleton] at hm
  rcases hm with rfl | rfl | rfl
  · exact Mark.Clocked.written h.created
  · exact Mark.Clocked.written h.updated
  · rcases h.deleted with hlive | hgone
    · rw [isLive, Option.isNone_iff_eq_none] at hlive
      exact ⟨none, hlive, by rw [hlive]; rfl⟩
    · rw [hgone]; exact Mark.Clocked.written h.updated

end Entry

namespace Stamp

/-- The text of a real date and time is read as that date and time, with the offset zero if its offset is
shorter than a second, and so it is read back as it was exactly if its offset is kept. What was read of
a text is always read back as it was. A time that may be missing comes out of a table as it would be
read back, and the times that a service keeps are all read back as they were. -/
theorem text_read_back {s : Stamp} (hv : s.Valid) :
    read (Text.ofString s.iso) = .ok s.kept ∧
    (read (Text.ofString s.iso) = .ok s ↔ s.Keeps) ∧
    (∀ t s, read t = .ok s → read (Text.ofString s.iso) = .ok s) ∧
    (∀ d : Option Stamp, (∀ s ∈ d, s.Valid) →
      (Mark.readOption (d.map fun s => Mark.ofText s.iso) = .ok d ↔ ∀ s ∈ d, s.Keeps)) ∧
    ∀ {policy settings platform begin first s}, InEra begin →
      Service.start policy settings platform begin = .ok first → first.Reaches s →
      ∀ k, ∀ r ∈ s.store.rows k, ∀ m ∈ r.times,
        ∃ d : Option Stamp, m = (d.map fun s => Mark.ofText s.iso) ∧ Mark.readOption m = .ok d := by
  refine ⟨read_written hv, ?_, fun t s h => ?_, fun d hd => ?_, ?_⟩
  · rw [read_written hv, Except.ok.injEq, kept_eq_iff]
  · obtain ⟨hvalid, hkeeps⟩ := read_valid h
    exact read_iso hvalid hkeeps
  · rw [Mark.read_ofText hd, Except.ok.injEq, Mark.kept_option_iff]
  · intro policy settings platform begin first s hbegin hstart hreach k r hr
    have hs : s.Sound := hreach.sound (Service.start_sound hbegin hstart)
    exact ((hs.store.table k).times r hr).written

/-- The end of a leap day, a quarter of a second more than five and a half hours west of UTC. -/
def leapDayWest : Stamp := ⟨2024, 2, 29, 23, 59, 59, 1, some (-19800250000)⟩

/-- It is read back as it was, and so is the time at which the first administrator was created. -/
theorem text_read_back_west : leapDayWest.Valid ∧ leapDayWest.Keeps ∧
    leapDayWest.iso = "2024-02-29T23:59:59.000001-05:30:00.250000" ∧
    read (Text.ofString leapDayWest.iso) = .ok leapDayWest ∧
    ∃ first, Service.start (.ofProfile .testing .standard) .standard "" 0 = .ok first ∧
      ∃ r ∈ first.store.users, ∃ d : Option Stamp,
        r.created = (d.map fun s => Mark.ofText s.iso) ∧ Mark.readOption r.created = .ok d := by
  have hvalid : leapDayWest.Valid := by
    refine ⟨by decide, by decide, by decide, by decide, by decide, by decide, by decide, ?_⟩
    rintro o ⟨⟩
    decide
  have hkeeps : leapDayWest.Keeps := by rintro o ⟨⟩; decide
  obtain ⟨-, hback, -, -, hservices⟩ := text_read_back hvalid
  obtain ⟨first, hstart, husers⟩ :
      ∃ first, Service.start (.ofProfile .testing .standard) .standard "" 0 = .ok first ∧
        first.store.users ≠ [] := ⟨_, rfl, by decide +kernel⟩
  obtain ⟨r, hr⟩ := List.exists_mem_of_ne_nil _ husers
  exact ⟨hvalid, hkeeps, by decide +kernel, hback.2 hkeeps, first, hstart, r, hr,
    hservices inEra_zero hstart .refl .user r hr _ List.mem_cons_self⟩

/-- The beginning of 2024 at half a second east of UTC. -/
def halfSecondEast : Stamp := ⟨2024, 1, 1, 0, 0, 0, 0, some 500000⟩

/-- Its text is read as the beginning of 2024 in UTC, half a second later. -/
theorem half_second_east_lost : halfSecondEast.Valid ∧
    halfSecondEast.iso = "2024-01-01T00:00:00+00:00:00.500000" ∧
    read (Text.ofString halfSecondEast.iso) = .ok { halfSecondEast with offset := some 0 } ∧
    read (Text.ofString halfSecondEast.iso) ≠ .ok halfSecondEast := by
  have hvalid : halfSecondEast.Valid := by
    refine ⟨by decide, by decide, by decide, by decide, by decide, by decide, by decide, ?_⟩
    rintro o ⟨⟩
    decide
  have hread : read (Text.ofString halfSecondEast.iso)
      = .ok { halfSecondEast with offset := some 0 } := read_written hvalid
  refine ⟨hvalid, by decide +kernel, hread, ?_⟩
  rw [hread, ne_eq, Except.ok.injEq]
  decide

end Stamp

end Pressroom
