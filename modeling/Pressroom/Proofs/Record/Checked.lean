import Pressroom.Record.Check
import Pressroom.Proofs.Check.Email
import Pressroom.Proofs.Record.RoundTrip

/-!
What passing its check says about the encoding of a record. A record is put together from any values;
only its times have to be times. The check makes sure of the kinds of the required fields, and the rules
of each kind of record make sure of the fields that they look at. Fields that no rule looks at may hold
anything, and what is encoded of such a record need not be decoded again: that is the digest of a key,
and the body and the author of a post. Where they hold texts, a record that passes fits its fields, so
it is decoded as it is kept.
-/
namespace Pressroom

/-! ### Slots as they are made -/

namespace Slot

variable {f : Field} {s s' : Slot}

/-- What a slot can be given: nothing, a stamp if the field holds times, and else any value. -/
inductive Made (f : Field) : Slot → Prop
  | absent : Made f absent
  | value {v : Json} (kind : f.kind ≠ .stamp) (filled : v ≠ .null) : Made f (value v)
  | stamp {s : Stamp} (kind : f.kind = .stamp) (valid : s.Valid) : Made f (stamp s)

/-- A slot fits its field if what stands for it outside is decoded. -/
theorem Made.fits (h : s.Made f) (hdecodes : f.Decodes s.toJson s') : s.Fits f := by
  cases h with
  | absent =>
    change f.Decodes .null s' at hdecodes
    cases hdecodes with
    | absent optional => exact .absent optional
  | @value v kind filled =>
    change f.Decodes v s' at hdecodes
    cases hdecodes with
    | absent optional => exact absurd rfl filled
    | text kind => exact .text kind
    | whole kind => exact .whole kind
    | stamp stamped => exact absurd stamped kind
  | stamp kind valid => exact .stamp kind valid

theorem Made.fits_of_holds (h : s.Made f) (hholds : f.kind.Holds s.toJson) : s.Fits f := by
  obtain ⟨s', hs'⟩ := Field.decodes_of_holds hholds
  exact h.fits hs'

end Slot

namespace Record

variable {r : Record} {f : Field} {s : Slot} {kind : RecordKind} {column : String}
  {check : Json → Verdict}

/-- A record as it is put together: each slot holds something that its field can be given. -/
def Made (r : Record) : Prop := List.Forall₂ Slot.Made r.kind.fields r.slots

theorem Made.slot (h : r.Made) (he : (f, s) ∈ r.entries) : s.Made f :=
  List.forall₂_iff_zip.1 h |>.2 he

theorem field_of_mem (he : (f, s) ∈ r.entries) : f ∈ r.kind.fields := (List.of_mem_zip he).1

/-- A record is decoded from its own value exactly if every slot fits its field. -/
theorem Made.decodes_iff (h : r.Made) : (∃ q, decode r.kind r.toJson = .ok q) ↔ r.Fits := by
  constructor
  · rintro ⟨q, hq⟩
    obtain ⟨-, -, hslots⟩ := decode_eq_ok_iff.1 hq
    have hfields := exists_slots_iff.1 ⟨_, hslots⟩
    refine List.forall₂_iff_zip.2 ⟨List.Forall₂.length_eq h, fun {f s} he => ?_⟩
    obtain ⟨s', hs'⟩ := hfields f (field_of_mem he)
    have hvalue : r.toJson.getD f.key = s.toJson :=
      getD_of_perm (List.Forall₂.length_eq h) (.refl _) he
    rw [hvalue] at hs'
    exact (h.slot he).fits hs'
  · exact fun hfits => ⟨_, decode_toJson hfits⟩

/-! ### Records from named values -/

theorem made_ofJson {v : Json} (h : f.kind = .stamp → v = .null) : (Slot.ofJson v).Made f := by
  by_cases hnull : v = .null
  · subst hnull
    exact .absent
  · have hvalue : Slot.ofJson v = .value v := by
      cases v with
      | null => exact absurd rfl hnull
      | _ => rfl
    rw [hvalue]
    exact .value (fun hkind => hnull (h hkind)) hnull

theorem readStamps_valid {given : Json} {columns : List String} {stamps : List (String × Stamp)}
    (h : readStamps given columns = .ok stamps) : ∀ p ∈ stamps, p.1 ∈ columns ∧ p.2.Valid := by
  induction columns generalizing stamps with
  | nil => cases h; exact nofun
  | cons column columns ih =>
    have hmore : ∀ {stamps : List (String × Stamp)}, readStamps given columns = .ok stamps →
        ∀ p ∈ stamps, p.1 ∈ column :: columns ∧ p.2.Valid := fun h p hp =>
      ⟨List.mem_cons_of_mem _ (ih h p hp).1, (ih h p hp).2⟩
    rw [readStamps] at h
    split at h
    · split at h
      · cases h
      · rename_i s hread
        obtain ⟨rest, hrest, rfl⟩ := map_eq_ok.1 h
        exact List.forall_mem_cons.2 ⟨⟨List.mem_cons_self, (Stamp.read_valid hread).1⟩, hmore hrest⟩
    · exact hmore h

theorem buildSlots_made {given : Json} {stamps : List (String × Stamp)} {fs : List Field}
    {slots : List Slot} (hstamps : ∀ p ∈ stamps, p.1 ∈ stampAttributes ∧ p.2.Valid)
    (hfs : ∀ f ∈ fs, f.column ∈ stampAttributes → f.kind = .stamp)
    (h : buildSlots given stamps fs = .ok slots) : List.Forall₂ Slot.Made fs slots := by
  induction fs generalizing slots with
  | nil => cases h; exact .nil
  | cons f fs ih =>
    rw [List.forall_mem_cons] at hfs
    rw [buildSlots] at h
    split at h
    · rename_i s hlookup
      obtain ⟨rest, hrest, rfl⟩ := map_eq_ok.1 h
      obtain ⟨before, after, rfl, -⟩ := List.lookup_eq_some_iff.1 hlookup
      obtain ⟨hcolumn, hvalid⟩ := hstamps _ (List.mem_append_right _ List.mem_cons_self)
      exact .cons (.stamp (hfs.1 hcolumn) hvalid) (ih hfs.2 hrest)
    · split at h
      · cases h
      · rename_i hkind
        obtain ⟨rest, hrest, rfl⟩ := map_eq_ok.1 h
        refine .cons (made_ofJson fun hstamp => ?_) (ih hfs.2 hrest)
        simpa [hstamp, Json.isNull_iff] using hkind

/-- Every record that is put together from named values is as it can be made. -/
theorem build_made {given : Json} (h : build kind given = .ok r) : r.Made := by
  have hfs : ∀ f ∈ kind.fields, f.column ∈ stampAttributes → f.kind = .stamp := by
    cases kind <;> decide
  rw [build] at h
  split at h
  · cases h
  · rename_i stamps hstamps
    dsimp only at h
    split at h
    · obtain ⟨slots, hslots, rfl⟩ := map_eq_ok.1 h
      exact buildSlots_made (readStamps_valid hstamps) hfs hslots
    · cases h

/-! ### What the check looks at -/

theorem check_eq_ok_iff : r.check = .ok () ↔ checkFilled r.requiredEntries = .ok () ∧
    checkKinds r.requiredEntries = .ok () ∧ firstRefusal r.ownRules = .ok () := by
  rw [check.eq_def]
  cases hfilled : checkFilled r.requiredEntries with
  | error c => simp
  | ok _ =>
    cases hkinds : checkKinds r.requiredEntries with
    | error f => simp
    | ok _ => cases firstRefusal r.ownRules <;> simp [Except.mapError]

theorem checkKinds_eq_ok {es : List (Field × Slot)} (h : checkKinds es = .ok ()) (he : (f, s) ∈ es) :
    ∃ s', decodeValue f.kind f.key s.toJson = .ok s' := by
  induction es with
  | nil => cases he
  | cons e es ih =>
    rw [checkKinds] at h
    split at h
    · cases h
    · rename_i s' hs'
      rcases List.mem_cons.1 he with rfl | he
      · exact ⟨s', hs'⟩
      · exact ih h he

/-- What is of a kind is decoded, and null is of none. -/
theorem decodes_of_decodeValue {v : Json} (h : decodeValue f.kind f.key v = .ok s) :
    f.Decodes v s := by
  have hfilled : v ≠ .null := by
    rintro rfl
    rw [decodeValue.eq_def] at h
    split at h <;> cases h
  rw [← Field.decodeField_eq_ok_iff, decodeField, if_neg (Json.isNull_iff.not.2 hfilled), h]

/-- A required slot of a record that passes fits. -/
theorem Made.fits_required (h : r.Made) (hkinds : checkKinds r.requiredEntries = .ok ())
    (he : (f, s) ∈ r.entries) (hrequired : f.required = true) : s.Fits f := by
  obtain ⟨s', hs'⟩ := checkKinds_eq_ok hkinds (List.mem_filter.2 ⟨he, hrequired⟩)
  exact (h.slot he).fits (decodes_of_decodeValue hs')

theorem nodup_columns (kind : RecordKind) : (kind.fields.map (·.column)).Nodup := by
  cases kind <;> decide

/-- The slot of a column is that of its field. -/
theorem slot_of_mem (h : r.kind.fields.length = r.slots.length) (he : (f, s) ∈ r.entries) :
    r.slot f.column = s := by
  have hcolumns : (r.entries.map (·.1.column)).Nodup := by
    have hfst : r.entries.map Prod.fst = r.kind.fields := List.map_fst_zip (Nat.le_of_eq h)
    have hmap : r.entries.map (·.1.column) = (r.entries.map Prod.fst).map (·.column) := by
      rw [List.map_map]; rfl
    rw [hmap, hfst]
    exact nodup_columns r.kind
  rw [slot]
  cases hfind : r.entries.find? (fun e => e.1.column == f.column) with
  | none => exact absurd (List.find?_eq_none.1 hfind _ he) (by simp)
  | some e =>
    have hcolumn : e.1.column = f.column := by simpa using List.find?_some hfind
    have hsame := List.inj_on_of_nodup_map hcolumns (List.mem_of_find?_eq_some hfind) he hcolumn
    rw [hsame]

/-- A slot that its rule looks at is absent or passes it. -/
theorem checkPresent_eq_ok (h : r.checkPresent column check = .ok ()) (hslot : r.slot column = s) :
    s = .absent ∨ check s.toJson = .ok () := by
  rw [checkPresent, hslot] at h
  cases s with
  | absent => exact .inl rfl
  | value v => exact .inr h
  | stamp t => exact .inr h

theorem firstRefusal_pair {a b : Verdict} (h : firstRefusal [a, b] = .ok ()) :
    a = .ok () ∧ b = .ok () := by
  cases a with
  | error c => cases h
  | ok _ =>
    cases b with
    | error c => cases h
    | ok _ => exact ⟨rfl, rfl⟩

end Record

namespace Check

theorem textUpTo_holds {what : String} {max : Nat} {v : Json} (h : textUpTo what max v = .ok ()) :
    ValueKind.text.Holds v := by
  cases v with
  | text t => exact ⟨t, rfl⟩
  | _ => cases h

theorem email_holds {v : Json} (h : email v = .ok ()) : ValueKind.text.Holds v := by
  obtain ⟨t, rfl, -⟩ := email_eq_ok_iff.1 h
  exact ⟨t, rfl⟩

theorem expiresAt_holds {v : Json} (h : expiresAt v = .ok ()) : ValueKind.integer.Holds v := by
  cases v with
  | whole n => exact ⟨n, rfl⟩
  | _ => cases h

end Check

namespace Record

variable {r : Record} {f : Field} {s : Slot} {kind : RecordKind} {check : Json → Verdict}

/-! ### What the check leaves open -/

/-- The optional columns that the rules of a kind look at. -/
def ruledColumns : RecordKind → List String
  | .apiKey => ["owner_email", "expires_at"]
  | .post => ["title", "type"]
  | .user => []

/-- The optional columns that no rule looks at, times aside. -/
def freeColumns : RecordKind → List String
  | .apiKey => ["key"]
  | .post => ["body", "author_id"]
  | .user => []

/-- What is there in the columns that no rule looks at is text. -/
def FreeText (r : Record) : Prop :=
  ∀ f s, (f, s) ∈ r.entries → f.column ∈ freeColumns r.kind → s = .absent ∨ ∃ t, s = .value (.text t)

theorem field_cases (hf : f ∈ kind.fields) : f.required = true ∨ f.required = false ∧
    (f.kind = .stamp ∨ f.kind = .text ∧ f.column ∈ freeColumns kind ∨
      f.column ∈ ruledColumns kind) := by
  revert f
  cases kind <;> decide

theorem Made.fits_stamp (h : r.Made) (he : (f, s) ∈ r.entries) (hrequired : f.required = false)
    (hkind : f.kind = .stamp) : s.Fits f := by
  cases h.slot he with
  | absent => exact .absent hrequired
  | value kind _ => exact absurd hkind kind
  | stamp kind valid => exact .stamp kind valid

theorem Made.fits_of_rule (h : r.Made) (he : (f, s) ∈ r.entries) (hrequired : f.required = false)
    (hrule : r.checkPresent f.column check = .ok ())
    (hholds : ∀ v, check v = .ok () → f.kind.Holds v) : s.Fits f := by
  rcases checkPresent_eq_ok hrule (slot_of_mem (List.Forall₂.length_eq h) he) with rfl | hpass
  · exact .absent hrequired
  · exact (h.slot he).fits_of_holds (hholds _ hpass)

/-- A slot that a rule looks at fits in a record that passes. -/
theorem Made.fits_ruled (h : r.Made) (hrules : firstRefusal r.ownRules = .ok ())
    (he : (f, s) ∈ r.entries) (hrequired : f.required = false)
    (hruled : f.column ∈ ruledColumns r.kind) : s.Fits f := by
  have hf := field_of_mem he
  obtain ⟨kind, slots⟩ := r
  cases kind with
  | apiKey =>
    have hfield : ∀ f ∈ RecordKind.apiKey.fields, (f.column = "owner_email" → f.kind = .text) ∧
        (f.column = "expires_at" → f.kind = .integer) := by decide
    obtain ⟨howner, hexpires⟩ := firstRefusal_pair hrules
    simp only [ruledColumns, List.mem_cons, List.not_mem_nil, or_false] at hruled
    rcases hruled with hcolumn | hcolumn
    · rw [← hcolumn] at howner
      exact h.fits_of_rule he hrequired howner fun v hv =>
        (hfield f hf).1 hcolumn ▸ Check.email_holds hv
    · rw [← hcolumn] at hexpires
      exact h.fits_of_rule he hrequired hexpires fun v hv =>
        (hfield f hf).2 hcolumn ▸ Check.expiresAt_holds hv
  | post =>
    have hfield : ∀ f ∈ RecordKind.post.fields, f.column = "title" ∨ f.column = "type" →
        f.kind = .text := by decide
    obtain ⟨htitle, htype⟩ := firstRefusal_pair hrules
    simp only [ruledColumns, List.mem_cons, List.not_mem_nil, or_false] at hruled
    have hkind := hfield f hf hruled
    rcases hruled with hcolumn | hcolumn
    · rw [← hcolumn] at htitle
      exact h.fits_of_rule he hrequired htitle fun v hv => hkind ▸ Check.textUpTo_holds hv
    · rw [← hcolumn] at htype
      exact h.fits_of_rule he hrequired htype fun v hv => hkind ▸ Check.textUpTo_holds hv
  | user => cases hruled

/-- A record that passes its check fits its fields exactly if what no rule looks at is text. -/
theorem Made.fits_iff (h : r.Made) (hcheck : r.check = .ok ()) : r.Fits ↔ r.FreeText := by
  obtain ⟨-, hkinds, hrules⟩ := check_eq_ok_iff.1 hcheck
  constructor
  · intro hfits f s he hfree
    have hkind : f.kind = .text := by
      have hall : ∀ k : RecordKind, ∀ f ∈ k.fields, f.column ∈ freeColumns k → f.kind = .text := by
        intro k; cases k <;> decide
      exact hall r.kind f (field_of_mem he) hfree
    cases fits_of_mem hfits he with
    | absent _ => exact .inl rfl
    | @text t _ => exact .inr ⟨t, rfl⟩
    | whole other => rw [hkind] at other; cases other
    | stamp other _ => rw [hkind] at other; cases other
  · intro hfree
    refine List.forall₂_iff_zip.2 ⟨List.Forall₂.length_eq h, fun {f s} he => ?_⟩
    rcases field_cases (field_of_mem he) with
      hrequired | ⟨hrequired, hstamp | ⟨htext, hcolumn⟩ | hruled⟩
    · exact h.fits_required hkinds he hrequired
    · exact h.fits_stamp he hrequired hstamp
    · rcases hfree f s he hcolumn with rfl | ⟨t, rfl⟩
      · exact .absent hrequired
      · exact .text htext
    · exact h.fits_ruled hrules he hrequired hruled

/-! ### The main statement -/

/-- A record that passes its check is decoded from its own value exactly if the columns that no rule
looks at hold texts, and equals what is decoded exactly if no stamp has an offset of less than a second
besides. A user has no such columns. -/
theorem checked_decodes_iff (r : Record) (hmade : r.Made) (hcheck : r.check = .ok ()) :
    ((∃ q, decode r.kind r.toJson = .ok q) ↔ r.FreeText) ∧
    ((∃ q, decode r.kind r.toJson = .ok q ∧ q.same r = true) ↔ r.FreeText ∧ r.Keeps) ∧
    (r.kind = .user → r.FreeText) := by
  have hfits := hmade.fits_iff hcheck
  refine ⟨hmade.decodes_iff.trans hfits, ?_, ?_⟩
  · rw [← hfits]
    constructor
    · rintro ⟨q, hq, hsame⟩
      have hr := hmade.decodes_iff.1 ⟨q, hq⟩
      obtain rfl := Except.ok.inj ((decode_toJson hr).symm.trans hq)
      exact ⟨hr, (same_kept_iff hr).1 hsame⟩
    · rintro ⟨hr, hkeeps⟩
      exact ⟨_, decode_toJson hr, (same_kept_iff hr).2 hkeeps⟩
  · intro huser f s he hfree
    rw [huser] at hfree
    cases hfree

/-- The named values of a post with a title and a body. -/
def bodyValues (body : Json) : Json :=
  .ofFields [("id", .string "x"), ("body", body), ("title", .string "t")]

/-- The post that is put together from them. -/
def bodyPost (body : Json) : Record :=
  ⟨.post, [.value (.string "x"), .absent, .absent, .absent, .absent, .value body,
    .value (.string "t"), .absent]⟩

/-- With a text for a body it passes its check, is decoded and equals what is decoded. -/
theorem checked_decodes_iff_text :
    (bodyPost (.string "b")).Made ∧ (bodyPost (.string "b")).check = .ok () ∧
      ∃ q, decode .post (bodyPost (.string "b")).toJson = .ok q ∧
        q.same (bodyPost (.string "b")) = true := by
  have hmade : (bodyPost (.string "b")).Made :=
    build_made (show build .post (bodyValues (.string "b")) = .ok _ from rfl)
  have hcheck : (bodyPost (.string "b")).check = .ok () := rfl
  have hfits : (bodyPost (.string "b")).Fits :=
    .cons (.text rfl) (.cons (.absent rfl) (.cons (.absent rfl) (.cons (.absent rfl)
      (.cons (.absent rfl) (.cons (.text rfl) (.cons (.text rfl) (.cons (.absent rfl) .nil)))))))
  have hkeeps : (bodyPost (.string "b")).Keeps := by
    rintro s hs t rfl
    simp [bodyPost] at hs
  obtain ⟨-, hsame, -⟩ := checked_decodes_iff _ hmade hcheck
  exact ⟨hmade, hcheck, hsame.2 ⟨(hmade.fits_iff hcheck).1 hfits, hkeeps⟩⟩

/-- With a number for a body it passes all the same, and is not decoded. -/
theorem number_body_passes :
    build .post (bodyValues (.whole 5)) = .ok (bodyPost (.whole 5)) ∧
      (bodyPost (.whole 5)).Made ∧ (bodyPost (.whole 5)).check = .ok () ∧
      decode .post (bodyPost (.whole 5)).toJson = .error (.notText "Body") :=
  have hbuild : build .post (bodyValues (.whole 5)) = .ok (bodyPost (.whole 5)) := rfl
  ⟨hbuild, build_made hbuild, rfl, rfl⟩

end Record

end Pressroom
