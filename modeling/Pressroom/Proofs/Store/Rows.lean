import Mathlib.Data.List.Nodup
import Mathlib.Data.List.Perm.Basic
import Pressroom.Store.Basic
import Pressroom.Proofs.Result
import Pressroom.Proofs.Time.Reading

/-!
Rows of one table, as long as no two of them have the same id. Finding a row by its id gives a row
of the table; changing the row with an id leaves every other row alone. A row whose times were all
taken from the clock is read without a fault, so a list shows each row that it is made of once.
-/
namespace Pressroom

namespace Store

variable {α : Type}

/-! ### Finding a row -/

theorem findRow?_eq_some {rows : List (Row α)} {deletedToo : Bool} {id : String} {r : Row α}
    (h : findRow? rows deletedToo id = some r) :
    r ∈ rows ∧ r.id = id ∧ (deletedToo = true ∨ r.isLive = true) := by
  have hp := List.find?_some h
  simp only [Bool.and_eq_true, beq_iff_eq, Bool.or_eq_true] at hp
  exact ⟨List.mem_of_find?_eq_some h, hp.1, hp.2⟩

/-- The row of a table that a live row is found as. -/
theorem findRow?_live {rows : List (Row α)} {id : String} {r : Row α}
    (h : findRow? rows false id = some r) : r ∈ rows ∧ r.id = id ∧ r.isLive = true := by
  obtain ⟨hmem, hid, hlive⟩ := findRow?_eq_some h
  exact ⟨hmem, hid, hlive.resolve_left (by decide)⟩

/-- Rows with one id are one row. -/
theorem row_unique {rows : List (Row α)} (hn : (rows.map (·.id)).Nodup) {a b : Row α}
    (ha : a ∈ rows) (hb : b ∈ rows) (h : a.id = b.id) : a = b :=
  List.inj_on_of_nodup_map hn ha hb h

/-- A row of the table is found by its id, if it may be seen. -/
theorem findRow?_of_mem {rows : List (Row α)} (hn : (rows.map (·.id)).Nodup) {deletedToo : Bool}
    {r : Row α} (hr : r ∈ rows) (hseen : deletedToo = true ∨ r.isLive = true) :
    findRow? rows deletedToo r.id = some r := by
  have hp : (r.id == r.id && (deletedToo || r.isLive)) = true := by simpa using hseen
  cases h : findRow? rows deletedToo r.id with
  | none => exact absurd hp (List.find?_eq_none.1 h r hr)
  | some x =>
    obtain ⟨hx, hid, -⟩ := findRow?_eq_some h
    rw [row_unique hn hx hr hid]

/-! ### Changing a row -/

/-- A change that keeps the id of every row. -/
def KeepsId (f : Row α → Row α) : Prop := ∀ r, (f r).id = r.id

theorem keepsId_revised (now : Instant) (change : α → α) : KeepsId (revised now change) :=
  fun _ => rfl

theorem keepsId_softDeleted (now : Instant) : KeepsId (α := α) (softDeleted now) := fun _ => rfl

theorem keepsId_restored (now : Instant) : KeepsId (α := α) (restored now) := fun _ => rfl

theorem ids_reviseRow {f : Row α → Row α} (hf : KeepsId f) (rows : List (Row α)) (id : String) :
    (reviseRow rows id f).map (·.id) = rows.map (·.id) := by
  rw [reviseRow, List.map_map]
  refine List.map_congr_left fun r _ => ?_
  simp only [Function.comp_apply]
  split
  · exact hf r
  · rfl

/-- A row after a change is the changed row or one that was there before under another id. -/
theorem mem_reviseRow {rows : List (Row α)} (hn : (rows.map (·.id)).Nodup) {r : Row α}
    (hr : r ∈ rows) {f : Row α → Row α} {x : Row α} :
    x ∈ reviseRow rows r.id f ↔ x = f r ∨ x ∈ rows ∧ x.id ≠ r.id := by
  rw [reviseRow, List.mem_map]
  constructor
  · rintro ⟨y, hy, rfl⟩
    by_cases hid : y.id = r.id
    · rw [if_pos (by simpa using hid), row_unique hn hy hr hid]; exact .inl rfl
    · rw [if_neg (by simpa using hid)]; exact .inr ⟨hy, hid⟩
  · rintro (rfl | ⟨hx, hid⟩)
    · exact ⟨r, hr, by rw [if_pos (by simp)]⟩
    · exact ⟨x, hx, by rw [if_neg (by simpa using hid)]⟩

/-- A change that keeps ids and lives is seen wherever the row is found. -/
theorem findRow?_reviseRow {f : Row α → Row α} (hf : KeepsId f)
    (hlive : ∀ r, (f r).isLive = r.isLive) (rows : List (Row α)) (deletedToo : Bool)
    (key id : String) : findRow? (reviseRow rows key f) deletedToo id
      = (findRow? rows deletedToo id).map fun r => if r.id == key then f r else r := by
  rw [findRow?, reviseRow, List.find?_map, findRow?]
  congr 2
  funext r
  simp only [Function.comp_apply]
  split
  · rw [hf, hlive]
  · rfl

/-- A row that is found by its id is found in its new form after such a change. -/
theorem findRow?_revised {rows : List (Row α)} {deletedToo : Bool} {r : Row α}
    (hr : findRow? rows deletedToo r.id = some r) (now : Instant) (change : α → α) :
    findRow? (reviseRow rows r.id (revised now change)) deletedToo r.id
      = some (revised now change r) := by
  rw [findRow?_reviseRow (keepsId_revised now change) (fun _ => rfl), hr, Option.map_some,
    if_pos (beq_self_eq_true _)]

/-- A row under an id that is new is found by it. -/
theorem findRow?_append {rows : List (Row α)} {r : Row α} (hfresh : ∀ x ∈ rows, x.id ≠ r.id)
    (hlive : r.isLive = true) (deletedToo : Bool) :
    findRow? (rows ++ [r]) deletedToo r.id = some r := by
  have hnone : findRow? rows deletedToo r.id = none :=
    List.find?_eq_none.2 fun x hx => by simp [hfresh x hx]
  rw [findRow?, List.find?_append, ← findRow?, hnone]
  simp [hlive]

/-- A new row is seen behind the others, whether deleted ones are or not. -/
theorem rowsFor_newRow (rows : List (Row α)) (deletedToo : Bool) (id : String) (data : α)
    (now : Instant) : rowsFor (rows ++ [.newRow id data now]) deletedToo
      = rowsFor rows deletedToo ++ [.newRow id data now] := by
  rw [rowsFor, List.filter_append]
  cases deletedToo <;> rfl

/-- A new id is found nowhere. -/
theorem any_id {rows : List (Row α)} {id : String} (hfresh : ∀ r ∈ rows, r.id ≠ id) :
    (rows.any fun r => r.id == id) = false := by
  rw [List.any_eq_false]
  intro r hr
  rw [beq_iff_eq]
  exact hfresh r hr

end Store

/-! ### The times of a row -/

/-- A mark that was taken from the clock, in the years 1 to 9999. -/
def Mark.Clocked (m : Option Mark) : Prop := ∃ t, InEra t ∧ m = some (.ofInstant t)

theorem Mark.clocked_ofInstant {t : Instant} (h : InEra t) :
    Mark.Clocked (some (.ofInstant t)) := ⟨t, h, rfl⟩

/-- The text of a stamp is read as the stamp, its offset as far as it is kept. -/
theorem Mark.read_iso {s : Stamp} (h : s.Valid) :
    readOption (some (text s.iso)) = .ok (some s.kept) := by
  have hne : s.iso ≠ "" := by
    intro h
    have hlen : s.iso.toList.length = 0 := by rw [h]; rfl
    rw [Stamp.iso, String.toList_ofList, Stamp.write_eq, List.length_append, List.length_cons] at hlen
    omega
  rw [readOption, read, if_neg hne, Stamp.read_written h]

/-- The mark of an instant is read as that instant. -/
theorem Mark.read_ofInstant {t : Instant} (h : InEra t) :
    readOption (some (ofInstant t)) = .ok (some (Stamp.ofInstant t)) := by
  rw [ofInstant, read_iso (Stamp.ofInstant_valid h), Stamp.kept_eq (Stamp.keeps_ofInstant t)]

theorem Mark.read_clocked {m : Option Mark} (h : Mark.Clocked m) :
    ∃ stamp, Mark.readOption m = .ok (some stamp) := by
  obtain ⟨t, ht, rfl⟩ := h
  exact ⟨_, Mark.read_ofInstant ht⟩

/-- A row whose times were all taken from the clock. A deleted row was last changed when it was
deleted. -/
structure Entry.Timed {α : Type} (r : Row α) : Prop where
  created : Mark.Clocked r.created
  updated : Mark.Clocked r.updated
  deleted : r.isLive = true ∨ r.deleted = r.updated

namespace Entry

variable {α : Type}

theorem timed_newRow {now : Instant} (h : InEra now) (id : String) (data : α) :
    (newRow id data now).Timed :=
  ⟨Mark.clocked_ofInstant h, Mark.clocked_ofInstant h, .inl rfl⟩

/-- A new row is read as the item that is new at that instant. -/
theorem read_newRow {now : Instant} (h : InEra now) (id : String) (data : α) :
    (newRow id data now).read = .ok (newItem id data now) := by
  rw [read, newRow, Mark.read_ofInstant h]
  rfl

theorem timed_revised {now : Instant} (h : InEra now) (change : α → α) {r : Row α}
    (hr : r.Timed) (hlive : r.isLive = true) : (Store.revised now change r).Timed :=
  ⟨hr.created, Mark.clocked_ofInstant h, .inl hlive⟩

theorem timed_softDeleted {now : Instant} (h : InEra now) {r : Row α} (hr : r.Timed) :
    (Store.softDeleted now r).Timed :=
  ⟨hr.created, Mark.clocked_ofInstant h, .inr rfl⟩

theorem timed_restored {now : Instant} (h : InEra now) {r : Row α} (hr : r.Timed) :
    (Store.restored now r).Timed :=
  ⟨hr.created, Mark.clocked_ofInstant h, .inl rfl⟩

/-- The time that a mark stands for, if it stands for one. -/
def stampOf (m : Option Mark) : Option Stamp := (Mark.readOption m).toOption.join

/-- The row as it is read. -/
def item (r : Row α) : Item α :=
  ⟨r.id, r.data, stampOf r.created, stampOf r.updated, stampOf r.deleted⟩

theorem item_of_read {r : Row α} {i : Item α} (h : r.read = .ok i) : r.item = i := by
  rw [read] at h
  split at h
  · cases h
  · rename_i hcreated
    split at h
    · cases h
    · rename_i hupdated
      split at h
      · cases h
      · rename_i hdeleted
        cases h
        rw [item, stampOf, stampOf, stampOf, hcreated, hupdated, hdeleted]
        rfl

/-- Reading a row changes neither its id nor its data. -/
theorem read_eq_ok {r : Row α} {item : Item α} (h : r.read = .ok item) :
    item.id = r.id ∧ item.data = r.data := by
  rw [← item_of_read h]
  exact ⟨rfl, rfl⟩

/-- Such a row is read. -/
theorem Timed.read {r : Row α} (h : r.Timed) : r.read = .ok r.item := by
  obtain ⟨created, hcreated⟩ := Mark.read_clocked h.created
  obtain ⟨updated, hupdated⟩ := Mark.read_clocked h.updated
  obtain ⟨deleted, hdeleted⟩ : ∃ deleted, Mark.readOption r.deleted = .ok deleted := by
    rcases h.deleted with hlive | hgone
    · rw [isLive, Option.isNone_iff_eq_none] at hlive
      exact ⟨none, by rw [hlive]; rfl⟩
    · exact ⟨some updated, by rw [hgone]; exact hupdated⟩
  rw [Entry.read, hcreated, hupdated, hdeleted, item, stampOf, stampOf, stampOf, hcreated,
    hupdated, hdeleted]
  rfl

/-- A new row is shown as the item that is new. -/
theorem item_newRow {now : Instant} (h : InEra now) (id : String) (data : α) :
    (newRow id data now).item = newItem id data now :=
  item_of_read (read_newRow h id data)

/-- Reading a row does not change whether it is live. -/
theorem Timed.item_isLive {r : Row α} (h : r.Timed) : r.item.isLive = r.isLive := by
  obtain ⟨updated, hupdated⟩ := Mark.read_clocked h.updated
  rcases h.deleted with hlive | hgone
  · have hnone : r.deleted = none := Option.isNone_iff_eq_none.1 hlive
    rw [isLive, isLive, item, hnone]
    rfl
  · have hstamp : stampOf r.updated = some updated := by rw [stampOf, hupdated]; rfl
    obtain ⟨t, -, hmark⟩ := h.updated
    rw [isLive, isLive, item, hgone, hstamp, hmark]
    rfl

theorem readAll_timed {rows : List (Row α)} (h : ∀ r ∈ rows, r.Timed) :
    readAll rows = .ok (rows.map item) := by
  induction rows with
  | nil => rfl
  | cons r rest ih =>
    rw [readAll, (h r List.mem_cons_self).read,
      ih fun x hx => h x (List.mem_cons_of_mem _ hx)]
    rfl

end Entry

namespace Store

variable {α : Type}

/-- What is read is a row that was found. -/
theorem readRow?_eq_some {found : Option (Row α)} {item : Item α}
    (h : readRow? found = .ok (some item)) :
    ∃ r, found = some r ∧ item.id = r.id ∧ item.data = r.data := by
  cases found with
  | none => cases h
  | some r =>
    rw [readRow?] at h
    cases hr : r.read with
    | error f => rw [hr] at h; cases h
    | ok x => rw [hr] at h; cases h; exact ⟨r, rfl, Entry.read_eq_ok hr⟩

/-- A row with the times of the clock is read. -/
theorem readRow?_timed {r : Row α} (h : r.Timed) :
    readRow? (some r) = .ok (some r.item) := by
  rw [readRow?, h.read]
  rfl

theorem readRows_timed {rows : List (Row α)} (h : ∀ r ∈ rows, r.Timed) :
    readRows rows = .ok (rows.map Entry.item) := by
  rw [readRows, Entry.readAll_timed h]
  rfl

/-- The live rows and the deleted ones, each sorted, are all rows. -/
theorem live_gone_perm (rows : List (Row α)) :
    (newestFirst (rowsFor rows false) ++
      (newestFirst (rowsFor rows true)).filter fun r => !r.isLive).Perm rows := by
  have hlive : (newestFirst (rowsFor rows false)).Perm (rows.filter fun r => r.isLive) :=
    List.mergeSort_perm ..
  have hall : (newestFirst (rowsFor rows true)).Perm rows := by
    rw [rowsFor]
    simp only [Bool.true_or, List.filter_true]
    exact List.mergeSort_perm ..
  exact (hlive.append (hall.filter _)).trans (List.filter_append_perm _ rows)

end Store

end Pressroom
