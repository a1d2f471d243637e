import Pressroom.Proofs.Service.FieldLimit
import Pressroom.Proofs.Permission.Registry
import Pressroom.Proofs.Service.Issued
import Pressroom.Proofs.Store.Lifecycle
import Pressroom.Proofs.Record.Checked

/-!
What is fit to be stored. For each kind of row `Fit` says what its data must be like: enough for the
record of the row to pass its check, and no control character where texts are cleaned. `Fit` of a
store speaks about all rows, deleted ones included; adding a row with fit data, giving a row fit data
and turning a row keep it.
-/
namespace Pressroom

/-! ### Texts without control characters -/

namespace Text

/-- No control character stands in the text. -/
def Plain (t : Text) : Prop := ∀ p ∈ t, p.isControl = false

theorem plain_kept (limit : Nat) (t : Text) : (t.kept limit).Plain :=
  fun _ hp => isControl_of_mem ((isInfix_clean (limit + 1) t).subset hp)

end Text

namespace Fresh

/-- An id is a fixed beginning and a number of twelve digits or more. -/
theorem toList_idText (n : Nat) : (idText n).toList
    = "00000000-0000-4000-8000-".toList ++ (padded '0' 12 n).toList := String.toList_append

theorem isDigit_padded {n : Nat} {c : Char} (h : c ∈ (padded '0' 12 n).toList) :
    c.isDigit = true := by
  simp only [padded, String.toList_append, String.toList_ofList, List.mem_append,
    List.mem_replicate] at h
  rcases h with ⟨-, rfl⟩ | h
  · rfl
  · rw [Nat.toString_eq_repr, Nat.toList_repr] at h
    exact Nat.isDigit_of_mem_toDigits (by decide) (by decide) h

theorem isControl_of_isDigit {c : Char} (h : c.isDigit = true) :
    (Point.char c).isControl = false := by
  simp only [Char.isDigit, Bool.and_eq_true, decide_eq_true_eq] at h
  have hlow : 48 ≤ c.toNat := h.1
  have hhigh : c.toNat ≤ 57 := h.2
  rw [Point.isControl_eq_false_iff, Point.code]
  omega

/-- An id has no control characters. -/
theorem plain_idText (n : Nat) : (Text.ofString (idText n)).Plain := by
  have hmark : ("00000000-0000-4000-8000-".toList.any fun c => (Point.char c).isControl) = false := by
    decide +kernel
  intro p hp
  obtain ⟨c, hc, rfl⟩ := List.mem_map.1 hp
  rw [toList_idText, List.mem_append] at hc
  rcases hc with hc | hc
  · exact Bool.not_eq_true _ ▸ List.any_eq_false.1 hmark c hc
  · exact isControl_of_isDigit (isDigit_padded hc)

/-- Ids have thirty-six characters as long as their numbers have twelve digits. -/
theorem length_idText {n : Nat} (h : n < 10 ^ 12) : (Text.ofString (idText n)).length = 36 := by
  have hdigits : (toString n).length ≤ 12 := by
    rw [Nat.toString_eq_repr, ← String.length_toList, Nat.toList_repr]
    exact (Nat.length_toDigits_le_iff (by decide) (by decide)).2 h
  have hpadded : (padded '0' 12 n).toList.length = 12 := by
    simp only [padded, String.toList_append, String.toList_ofList, List.length_append,
      List.length_replicate, String.length_toList]
    omega
  have hmark : "00000000-0000-4000-8000-".toList.length = 24 := by decide +kernel
  have hall : (Text.ofString (idText n)).length = (idText n).toList.length := List.length_map _
  rw [hall, toList_idText, List.length_append, hmark, hpadded]

theorem idText_ne_empty (n : Nat) : idText n ≠ "" := by
  intro h
  have hmark : "00000000-0000-4000-8000-".toList ≠ [] := by decide +kernel
  have hempty : (idText n).toList = [] := congrArg String.toList h
  rw [toList_idText, List.append_eq_nil_iff] at hempty
  exact hmark hempty.1

end Fresh

/-! ### Fit data -/

/-- The name is there and plain, the address has the form of one, there is a hash, and the
permissions are a mask of sixty-three bits. -/
structure UserData.Fit (d : UserData) : Prop where
  fullname : d.fullname ≠ ""
  plain : (Text.ofString d.fullname).Plain
  email : Check.email (.string d.email) = .ok ()
  password : d.password ≠ ""
  permissions : 0 ≤ d.permissions ∧ d.permissions ≤ Check.permissionsMax

/-- A text that may stand in a part of a post: a plain one that is not too long. The author may also
be a user, by one of the ids that have been given out. -/
def PostField.Fits (issued : Nat) (f : PostField) (t : Text) : Prop :=
  t.Plain ∧ (t.length ≤ f.limit ∨ f = .author ∧ ∃ n ≤ issued, t = Text.ofString (Fresh.idText n))

/-- Every part that is there is a text that may stand in it. -/
def PostData.Fit (issued : Nat) (d : PostData) : Prop :=
  ∀ (f : PostField) (t : String), f.stored d = some t → f.Fits issued (Text.ofString t)

/-- The owner is an address by its form, and the expiry a time after the beginning of 1970 in
sixty-four bits. -/
structure KeyData.Fit (d : KeyData) : Prop where
  owner : ∀ owner, d.owner = some owner → Check.email (.string owner) = .ok ()
  expires : ∀ n, d.expires = some n → 0 ≤ n ∧ n < 0x8000000000000000

/-- Data of any kind that is fit. `issued` is how many ids have been given out. -/
def RecordKind.Fit (issued : Nat) : (k : RecordKind) → k.Data → Prop
  | .apiKey, d => KeyData.Fit d
  | .post, d => PostData.Fit issued d
  | .user, d => UserData.Fit d

theorem RecordKind.Fit.mono {m n : Nat} (h : m ≤ n) {k : RecordKind} {d : k.Data}
    (hd : k.Fit m d) : k.Fit n d := by
  cases k with
  | apiKey | user => exact hd
  | post =>
    intro f t ht
    obtain ⟨hplain, hshort | ⟨hauthor, i, hi, hid⟩⟩ := hd f t ht
    · exact ⟨hplain, .inl hshort⟩
    · exact ⟨hplain, .inr ⟨hauthor, i, hi.trans h, hid⟩⟩

/-! ### Fit changes -/

/-- The changes of a user, as far as they are checked when they are read. -/
structure UserChanges.Fit (c : UserChanges) : Prop where
  fullname : ∀ t, c.fullname = some (some t) → t ≠ [] ∧ t.Plain
  email : ∀ t, c.email = some (some t) → Check.email (.text t) = .ok ()
  permissions : ∀ m, c.permissions = some (some m) → 0 ≤ m ∧ m ≤ Check.permissionsMax

/-- A text that is changed is the one that was there or the new one. -/
theorem Store.changedText_eq {c : Option (Option Text)} {old new : String}
    (h : ∃ part, Store.bindChange c = .ok part ∧ Store.changedPart old part = some new) :
    new = old ∨ c = some (some (Text.ofString new)) := by
  obtain ⟨part, hpart, hnew⟩ := h
  cases c with
  | none => cases hpart; exact .inl (Option.some.inj hnew).symm
  | some t =>
    obtain ⟨string, hstring, rfl⟩ := map_eq_ok.1 hpart
    have hsame : string = some new := hnew
    rw [hsame] at hstring
    exact .inr (congrArg some (Store.bindOption_eq_ok hstring).symm)

/-- Fit changes of a fit user leave a fit user. -/
theorem UserChanges.Fit.applies {c : UserChanges} {old new : UserData} (h : c.Fit)
    (happlies : Store.AppliesToUser c old new) (hold : old.Fit) : new.Fit := by
  have hname : new.fullname ≠ "" ∧ (Text.ofString new.fullname).Plain := by
    obtain hsame | hnew := Store.changedText_eq happlies.fullname
    · rw [hsame]; exact ⟨hold.fullname, hold.plain⟩
    · obtain ⟨hfilled, hplain⟩ := h.fullname _ hnew
      refine ⟨fun hempty => hfilled ?_, hplain⟩
      rw [hempty]; rfl
  refine ⟨hname.1, hname.2, ?_, by rw [happlies.password]; exact hold.password, ?_⟩
  · obtain hsame | hnew := Store.changedText_eq happlies.email
    · rw [hsame]; exact hold.email
    · exact h.email _ hnew
  · have hmask := happlies.permissions
    cases hc : c.permissions with
    | none =>
      rw [hc] at hmask
      have hsame : old.permissions = new.permissions := Option.some.inj hmask
      rw [← hsame]
      exact hold.permissions
    | some m => rw [hc] at hmask; exact h.permissions _ (hc.trans (congrArg some hmask))

/-! ### The records of fit data -/

/-- The record of an item of any kind. -/
def RecordKind.record : (k : RecordKind) → Item k.Data → Record
  | .apiKey, e => e.keyRecord
  | .post, e => e.postRecord
  | .user, e => e.userRecord

theorem Check.isBlankValue_string {s : String} (h : s ≠ "") : isBlankValue (.string s) = false := by
  cases hs : Text.ofString s with
  | nil =>
    have hempty : s = "" := Text.ofString_injective hs
    exact absurd hempty h
  | cons p t => rw [Json.string, hs]; rfl

namespace Check

/-- A check of the length lets a text through that is no longer than the limit. -/
theorem textUpTo_eq_ok {what : String} {max : Nat} {t : Text} (h : t.length ≤ max) :
    textUpTo what max (.text t) = .ok () := if_neg (Nat.not_lt.2 h)

/-- What passes for an address is not empty. -/
theorem email_ne_empty {address : String} (h : email (.string address) = .ok ()) : address ≠ "" := by
  rintro rfl
  cases h

end Check

namespace Record

theorem checkFilled_string {f : Field} {s : String} {rest : List (Field × Slot)} (h : s ≠ "")
    (hrest : checkFilled rest = .ok ()) :
    checkFilled ((f, .value (.string s)) :: rest) = .ok () := by
  have hblank : Check.isBlankValue (Slot.value (.string s)).toJson = false :=
    Check.isBlankValue_string h
  rw [checkFilled, hblank]
  exact hrest

theorem firstRefusal_cons {rule : Verdict} {rest : List Verdict} (h : rule = .ok ())
    (hrest : firstRefusal rest = .ok ()) : firstRefusal (rule :: rest) = .ok () := by
  rw [h]; exact hrest

variable {r : Record} {column : String} {check : Json → Verdict}

/-- A text that may be missing passes its check if it passes where it is there. -/
theorem checkPresent_string {v : Option String} (hslot : r.slot column = .ofString? v)
    (h : ∀ t, v = some t → check (.string t) = .ok ()) : r.checkPresent column check = .ok () := by
  rw [checkPresent, hslot]
  cases v with
  | none => rfl
  | some t => exact h t rfl

theorem checkPresent_whole {v : Option Int} (hslot : r.slot column = .ofWhole? v)
    (h : ∀ n, v = some n → check (.whole n) = .ok ()) : r.checkPresent column check = .ok () := by
  rw [checkPresent, hslot]
  cases v with
  | none => rfl
  | some n => exact h n rfl

end Record

namespace Entry

theorem userRecord_check {u : User} (hid : u.id ≠ "") (h : u.data.Fit) :
    u.userRecord.check = .ok () := by
  refine Record.check_eq_ok_iff.2 ⟨?_, rfl, ?_⟩
  · refine Record.checkFilled_string hid (Record.checkFilled_string h.fullname ?_)
    exact Record.checkFilled_string (Check.email_ne_empty h.email)
      (Record.checkFilled_string h.password rfl)
  · exact Record.firstRefusal_cons h.email
      (Record.firstRefusal_cons (Check.permissions_whole.2 h.permissions) rfl)

theorem postRecord_check {issued : Nat} {p : Post} (hid : p.id ≠ "") (h : p.data.Fit issued) :
    p.postRecord.check = .ok () := by
  have hshort : ∀ (f : PostField) (t : String), f ≠ .author → f.stored p.data = some t →
      (Text.ofString t).length ≤ f.limit := fun f t hf ht =>
    (h f t ht).2.resolve_right fun hauthor => hf hauthor.1
  have htitle : p.postRecord.checkPresent "title" Check.title = .ok () :=
    Record.checkPresent_string rfl fun t ht =>
      Check.textUpTo_eq_ok (hshort .title t (by decide) ht)
  have htype : p.postRecord.checkPresent "type" Check.postType = .ok () :=
    Record.checkPresent_string rfl fun t ht =>
      Check.textUpTo_eq_ok (hshort .type t (by decide) ht)
  exact Record.check_eq_ok_iff.2 ⟨Record.checkFilled_string hid rfl, rfl,
    Record.firstRefusal_cons htitle (Record.firstRefusal_cons htype rfl)⟩

theorem keyRecord_check {k : ApiKey} (hid : k.id ≠ "") (h : k.data.Fit) :
    k.keyRecord.check = .ok () := by
  have howner : k.keyRecord.checkPresent "owner_email" Check.email = .ok () :=
    Record.checkPresent_string rfl h.owner
  have hexpires : k.keyRecord.checkPresent "expires_at" Check.expiresAt = .ok () :=
    Record.checkPresent_whole rfl fun n hn => if_neg (Int.not_lt.2 (h.expires n hn).1)
  exact Record.check_eq_ok_iff.2 ⟨Record.checkFilled_string hid rfl, rfl,
    Record.firstRefusal_cons howner (Record.firstRefusal_cons hexpires rfl)⟩

/-- The record of an item with fit data passes its check. -/
theorem record_check {issued : Nat} {k : RecordKind} {e : Item k.Data} (hid : e.id ≠ "")
    (h : k.Fit issued e.data) : (k.record e).check = .ok () := by
  cases k with
  | apiKey => exact keyRecord_check hid h
  | post => exact postRecord_check hid h
  | user => exact userRecord_check hid h

end Entry

/-! ### Tables of fit rows -/

namespace Store

/-- All rows of a kind, deleted or not, have fit data. -/
def Fit (issued : Nat) (s : Store) (k : RecordKind) : Prop :=
  ∀ r ∈ s.rows k, k.Fit issued r.data

variable {issued : Nat} {s s' : Store} {k : RecordKind}

theorem Fit.add (h : s.Fit issued k) {d : k.Data} (hd : k.Fit issued d) (id : String)
    (now : Instant) : (s.withRows k (s.rows k ++ [.newRow id d now])).Fit issued k := by
  intro r hr
  rw [rows_withRows] at hr
  rcases List.mem_append.1 hr with hr | hr
  · exact h r hr
  · rw [List.mem_singleton.1 hr]; exact hd

theorem Fit.revise (h : s.Fit issued k) (hs : s.Keyed) {r : Row k.Data} (hr : r ∈ s.rows k)
    {f : Row k.Data → Row k.Data} (hf : k.Fit issued (f r).data) :
    (s.withRows k (reviseRow (s.rows k) r.id f)).Fit issued k := by
  intro x hx
  rw [rows_withRows] at hx
  rcases (mem_reviseRow (hs k) hr).1 hx with rfl | ⟨hx, -⟩
  · exact hf
  · exact h x hx

/-- Deleting a row and bringing it back leave its data alone. -/
theorem Fit.turn {t : Turn} {id : Text} {now : Instant} {found : Bool}
    (h : s.Fit issued t.kind) (hs : s.Keyed) (hmade : t.carryOut s id now = .ok (s', found)) :
    s'.Fit issued t.kind := by
  obtain ⟨rfl, -⟩ | ⟨-, r, hr, rfl⟩ := Turn.carryOut_eq_ok hmade
  · exact h
  · refine h.revise hs hr.mem ?_
    have hdata : (t.turned now r).data = r.data := by rw [Turn.turned]; split <;> rfl
    rw [hdata]
    exact h r hr.mem

end Store

end Pressroom
