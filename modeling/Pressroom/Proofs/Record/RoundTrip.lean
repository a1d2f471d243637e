import Pressroom.Proofs.Record.Decoding
import Pressroom.Proofs.Time.Reading

/-!
Records, written and read. A record whose slots fit their fields comes back from its value and, if its
texts are joined and its numbers not too long, from its JSON text: every text, every number and every
absent slot as it was, and every stamp as it is kept. So the record that comes back equals the one
that was written exactly if no stamp has an offset of less than a second; and no record that was read
has one.
-/
namespace Pressroom

/-! ### Slots -/

namespace Slot

/-- The slot holds what its field says: a value of its kind, or nothing if the field is optional. -/
inductive Fits (f : Field) : Slot → Prop
  | absent (optional : f.required = false) : Fits f absent
  | text {t : Text} (kind : f.kind = .text) : Fits f (value (.text t))
  | whole {n : Int} (kind : f.kind = .integer) : Fits f (value (.whole n))
  | stamp {s : Stamp} (kind : f.kind = .stamp) (valid : s.Valid) : Fits f (stamp s)

/-- A text in the slot is joined, and a whole number is not too long. -/
def Writable (s : Slot) : Prop := ∀ v, s = value v → v.Legible

/-- A stamp in the slot is read back as it was. -/
def Keeps (s : Slot) : Prop := ∀ t, s = stamp t → t.Keeps

/-- The slot as it is read back. -/
def kept : Slot → Slot
  | stamp s => stamp s.kept
  | s => s

variable {f : Field} {s : Slot}

theorem isAbsent_kept (s : Slot) : s.kept.isAbsent = s.isAbsent := by
  cases s <;> rfl

theorem kept_eq (h : s.Keeps) : s.kept = s := by
  cases s with
  | absent => rfl
  | value v => rfl
  | stamp t => rw [kept, Stamp.kept_eq (h t rfl)]

/-- What stands for a slot outside is read as the slot that is kept. -/
theorem decodeField_toJson (h : s.Fits f) : Record.decodeField f s.toJson = .ok s.kept := by
  cases h with
  | absent optional => exact (Field.Decodes.absent optional).read
  | text kind => exact (Field.Decodes.text kind).read
  | whole kind => exact (Field.Decodes.whole kind).read
  | stamp kind valid => exact (Field.Decodes.stamp kind (Stamp.read_written valid)).read

/-- A slot that is read fits its field, keeps its stamp, and is writable if the value was legible. -/
theorem fits_of_decodes {v : Json} (h : f.Decodes v s) :
    s.Fits f ∧ s.Keeps ∧ (v.Legible → s.Writable) := by
  cases h with
  | absent optional => exact ⟨.absent optional, nofun, fun _ => nofun⟩
  | text kind => exact ⟨.text kind, nofun, fun hv _ heq => Slot.value.inj heq ▸ hv⟩
  | whole kind => exact ⟨.whole kind, nofun, fun hv _ heq => Slot.value.inj heq ▸ hv⟩
  | stamp kind read =>
    obtain ⟨hvalid, hkeeps⟩ := Stamp.read_valid read
    exact ⟨.stamp kind hvalid, fun _ heq => Slot.stamp.inj heq ▸ hkeeps, fun _ => nofun⟩

/-- What a writable slot writes can be read again. -/
theorem plain_encode {v : Json} (h : s.Fits f) (hw : s.Writable) (hv : s.encode = some v) :
    v.Plain := by
  cases h with
  | absent => cases hv
  | @text t kind =>
    have hlegible := hw (.text t) rfl
    cases hv
    exact .text (hlegible.1 t rfl)
  | @whole n kind =>
    have hlegible := hw (.whole n) rfl
    cases hv
    exact .whole (hlegible.2 n rfl)
  | @stamp s kind valid =>
    rw [encode, Option.some.injEq] at hv
    exact hv ▸ Json.plain_string s.iso

/-- The slot that is kept equals the slot exactly if the stamp in it, if there is one, is kept. -/
theorem same_kept_iff (h : s.Fits f) : s.kept.same s = true ↔ s.Keeps := by
  cases h with
  | absent => exact ⟨fun _ => nofun, fun _ => rfl⟩
  | @text t kind =>
    refine ⟨fun _ => nofun, fun _ => ?_⟩
    rw [kept, same, Json.same]
    exact beq_self_eq_true t
    exact nofun
  | @whole n kind =>
    refine ⟨fun _ => nofun, fun _ => ?_⟩
    rw [kept, same, Json.same.eq_def]
    exact beq_self_eq_true n
    exact nofun
  | @stamp t kind valid =>
    rw [kept, same, Stamp.same_kept_iff]
    exact ⟨fun h _ heq => Slot.stamp.inj heq ▸ h, fun h => h t rfl⟩

end Slot

/-! ### Members -/

section Members

variable {es : List (Field × Slot)} {f : Field} {s : Slot}

/-- Names and values of the fields that are present, as an object has them. -/
def memberList (es : List (Field × Slot)) : List (Text × Json) :=
  (es.filterMap Record.entryMember).map fun m => (Text.ofString m.1, m.2)

theorem mem_memberList {m : Text × Json} :
    m ∈ memberList es ↔
      ∃ e ∈ es, ∃ v, e.2.encode = some v ∧ m = (Text.ofString e.1.key, v) := by
  rw [memberList, List.mem_map]
  constructor
  · rintro ⟨n, hn, rfl⟩
    obtain ⟨e, he, hmember⟩ := List.mem_filterMap.1 hn
    obtain ⟨v, hv, rfl⟩ := Option.map_eq_some_iff.1 hmember
    exact ⟨e, he, v, hv, rfl⟩
  · rintro ⟨e, he, v, hv, rfl⟩
    refine ⟨(e.1.key, v), List.mem_filterMap.2 ⟨e, he, ?_⟩, rfl⟩
    rw [Record.entryMember, hv]
    rfl

/-- Where no key stands twice, no name does. -/
theorem nodup_memberList (hn : (es.map (·.1.key)).Nodup) :
    ((memberList es).map (·.1)).Nodup := by
  induction es with
  | nil => exact List.nodup_nil
  | cons e es ih =>
    rw [List.map_cons, List.nodup_cons] at hn
    have ih := ih hn.2
    cases hv : e.2.encode with
    | none =>
      have hskip : memberList (e :: es) = memberList es := by
        rw [memberList, List.filterMap_cons, Record.entryMember, hv]; rfl
      rwa [hskip]
    | some v =>
      have htake : memberList (e :: es) = (Text.ofString e.1.key, v) :: memberList es := by
        rw [memberList, List.filterMap_cons, Record.entryMember, hv]; rfl
      rw [htake, List.map_cons, List.nodup_cons]
      refine ⟨fun hmem => ?_, ih⟩
      obtain ⟨m, hm, hname⟩ := List.mem_map.1 hmem
      obtain ⟨e', he', v', -, rfl⟩ := mem_memberList.1 hm
      have hkey := Text.ofString_injective hname
      exact hn.1 (List.mem_map.2 ⟨e', he', hkey⟩)

/-- A field's key has the value of its slot. -/
theorem lookup_memberList (hn : (es.map (·.1.key)).Nodup) (he : (f, s) ∈ es) :
    (memberList es).lookup (Text.ofString f.key) = s.encode := by
  ext v
  rw [lookup_iff_mem (nodup_memberList hn), mem_memberList]
  constructor
  · rintro ⟨e, he', v', hv, heq⟩
    obtain ⟨hname, rfl⟩ := Prod.mk.inj heq
    have hsame : (f, s) = e :=
      List.inj_on_of_nodup_map hn he he' (Text.ofString_injective hname)
    rw [← hsame] at hv
    exact hv
  · intro hv
    exact ⟨(f, s), he, v, hv, rfl⟩

end Members

/-! ### Records -/

namespace Record

/-- Every slot fits its field. -/
def Fits (r : Record) : Prop := List.Forall₂ Slot.Fits r.kind.fields r.slots

/-- Texts are joined, and whole numbers are not too long. -/
def Writable (r : Record) : Prop := ∀ s ∈ r.slots, s.Writable

/-- Every stamp is read back as it was. -/
def Keeps (r : Record) : Prop := ∀ s ∈ r.slots, s.Keeps

/-- The record as it is read back. -/
def kept (r : Record) : Record := ⟨r.kind, r.slots.map Slot.kept⟩

theorem kept_eq {r : Record} (h : r.Keeps) : r.kept = r := by
  have hslots : r.slots.map Slot.kept = r.slots :=
    (List.map_congr_left fun s hs => Slot.kept_eq (h s hs)).trans (List.map_id' _)
  rw [kept, hslots]

theorem nodup_keys (kind : RecordKind) : (kind.fields.map (·.key)).Nodup := by
  cases kind <;> decide

variable {r : Record}

theorem entries_keys (h : r.kind.fields.length = r.slots.length) :
    r.entries.map (·.1.key) = r.kind.fields.map (·.key) := by
  have hfst : r.entries.map Prod.fst = r.kind.fields := List.map_fst_zip (Nat.le_of_eq h)
  rw [← hfst, List.map_map]
  rfl

theorem nodup_entries (h : r.kind.fields.length = r.slots.length) :
    (r.entries.map (·.1.key)).Nodup := by
  rw [entries_keys h]; exact nodup_keys r.kind

/-- In an object whose members are those of the record, in any order, each key has the value of its
slot. -/
theorem getD_of_perm {ms : List (Text × Json)} {e : Field × Slot}
    (h : r.kind.fields.length = r.slots.length) (hp : (memberList r.entries).Perm ms)
    (he : e ∈ r.entries) : (Json.object ms).getD e.1.key = e.2.toJson := by
  have hn := nodup_entries h
  have hlookup : (Json.object ms).get? e.1.key = e.2.encode :=
    (Json.lookup_perm hp (nodup_memberList hn) _).trans (lookup_memberList hn he)
  rw [Json.getD, hlookup, Slot.toJson]

/-- An entry of the record fits. -/
theorem fits_of_mem {e : Field × Slot} (h : r.Fits) (he : e ∈ r.entries) : e.2.Fits e.1 :=
  List.forall₂_iff_zip.1 h |>.2 he

theorem exists_fits {s : Slot} (h : r.Fits) (hs : s ∈ r.slots) : ∃ f, s.Fits f := by
  have hsnd : r.entries.map Prod.snd = r.slots :=
    List.map_snd_zip (Nat.le_of_eq (List.Forall₂.length_eq h).symm)
  rw [← hsnd] at hs
  obtain ⟨e, he, rfl⟩ := List.mem_map.1 hs
  exact ⟨e.1, fits_of_mem h he⟩

/-- Fields are decoded from an object in which each key has the value of its slot. -/
theorem decodeFields_fits {data : Json} {fs : List Field} {slots : List Slot}
    (hfits : List.Forall₂ Slot.Fits fs slots)
    (hvalue : ∀ e ∈ fs.zip slots, data.getD e.1.key = e.2.toJson) :
    decodeFields data fs = .ok (slots.map Slot.kept) := by
  induction hfits with
  | nil => rfl
  | @cons f s fs slots hfit _ ih =>
    have hhead := hvalue (f, s) List.mem_cons_self
    have htail := ih fun e he => hvalue e (List.mem_cons_of_mem _ he)
    rw [decodeFields, hhead, Slot.decodeField_toJson hfit]
    dsimp only
    rw [htail]
    rfl

/-- A record is decoded from any object whose members are its own, in any order. -/
theorem decode_of_perm {ms : List (Text × Json)} (h : r.Fits)
    (hp : (memberList r.entries).Perm ms) : decode r.kind (.object ms) = .ok r.kept := by
  have hvalue : ∀ e ∈ r.entries, (Json.object ms).getD e.1.key = e.2.toJson :=
    fun e he => getD_of_perm (List.Forall₂.length_eq h) hp he
  have hobject : (Json.object ms).isObject = true := rfl
  rw [decode, if_pos hobject, decodeFields_fits h hvalue]
  rfl

theorem decode_toJson (h : r.Fits) : decode r.kind r.toJson = .ok r.kept :=
  decode_of_perm h (.refl _)

/-- The text of a record is that of its members in the order of their names. -/
theorem readChars_text (h : r.Fits) (hw : r.Writable) :
    Json.readChars r.text.toList = .ok (.object (Json.sortMembers (memberList r.entries))) := by
  have hperm := Json.sortMembers_perm (memberList r.entries)
  have hplain : ∀ m ∈ Json.sortMembers (memberList r.entries), m.1.Joined ∧ m.2.Plain := by
    intro m hm
    obtain ⟨e, he, v, hv, rfl⟩ := mem_memberList.1 (hperm.mem_iff.1 hm)
    refine ⟨Text.joined_ofString _, Slot.plain_encode (fits_of_mem h he) (hw _ ?_) hv⟩
    exact (List.of_mem_zip he).2
  have hn : ((Json.sortMembers (memberList r.entries)).map (·.1)).Nodup :=
    (hperm.map _).nodup_iff.2 (nodup_memberList (nodup_entries (List.Forall₂.length_eq h)))
  rw [text, Json.render, String.toList_ofList]
  exact Json.readChars_write hplain hn

theorem decodeText_text (h : r.Fits) (hw : r.Writable) :
    decodeText r.kind r.text = .ok r.kept := by
  rw [decodeText, Json.read, readChars_text h hw]
  exact decode_of_perm h (Json.sortMembers_perm _).symm

theorem same_kept_iff (h : r.Fits) : r.kept.same r = true ↔ r.Keeps := by
  have hzip : r.kept.slots.zip r.slots = r.slots.map fun s => (s.kept, s) := by
    have hmap := List.zip_map' (f := Slot.kept) (g := id) (l := r.slots)
    rwa [List.map_id] at hmap
  have hlength : (r.kept.slots.length == r.slots.length) = true := by
    rw [kept, List.length_map, beq_self_eq_true]
  have hkind : (r.kept.kind == r.kind) = true := beq_self_eq_true r.kind
  rw [same, hkind, hlength, hzip, Bool.true_and, Bool.true_and, List.all_map, List.all_eq_true]
  refine forall₂_congr fun s hs => ?_
  obtain ⟨f, hfit⟩ := exists_fits h hs
  exact Slot.same_kept_iff hfit

/-! ### Records that were read -/

/-- Slots that are made of the values of an object fit, keep their stamps, and are writable if the
values are legible. -/
theorem fits_of_slots {data : Json} {fs : List Field} {slots : List Slot}
    (h : List.Forall₂ (fun f s => f.Decodes (data.getD f.key) s) fs slots) :
    List.Forall₂ Slot.Fits fs slots ∧ (∀ s ∈ slots, s.Keeps) ∧
      ((∀ key, (data.getD key).Legible) → ∀ s ∈ slots, s.Writable) := by
  induction h with
  | nil => exact ⟨.nil, nofun, fun _ => nofun⟩
  | @cons f s fs slots hs _ ih =>
    obtain ⟨hfit, hkeeps, hwritable⟩ := Slot.fits_of_decodes hs
    obtain ⟨hfits, hkeep, hwrite⟩ := ih
    exact ⟨.cons hfit hfits, List.forall_mem_cons.2 ⟨hkeeps, hkeep⟩,
      fun hdata => List.forall_mem_cons.2 ⟨hwritable (hdata f.key), hwrite hdata⟩⟩

/-- A record that is read from JSON text can be written and read, and nothing of it is lost. -/
theorem decodeText_eq_ok {kind : RecordKind} {x : String} (h : decodeText kind x = .ok r) :
    r.kind = kind ∧ r.Fits ∧ r.Keeps ∧ r.Writable := by
  rw [decodeText] at h
  split at h
  · cases h
  · rename_i data hread
    obtain ⟨-, rfl, hslots⟩ := decode_eq_ok_iff.1 h
    obtain ⟨hfits, hkeeps, hwritable⟩ := fits_of_slots hslots
    exact ⟨rfl, hfits, hkeeps, hwritable (Json.legible_of_read hread)⟩

/-! ### The round trip -/

/-- A record that fits its fields is read back as it is kept, from its value and from its text: what
was absent stays absent, and only an offset that is not zero and shorter than a second makes a
difference. A record that was read from any text is read back as it was. -/
theorem read_back_as_kept (r : Record) (kind : RecordKind) (x : String) :
    (r.Fits →
      decode r.kind r.toJson = .ok r.kept ∧
      (r.Writable → decodeText r.kind r.text = .ok r.kept) ∧
      r.kept.slots.map Slot.isAbsent = r.slots.map Slot.isAbsent ∧
      (r.Keeps → r.kept = r) ∧ (r.kept.same r = true ↔ r.Keeps)) ∧
    ∀ q, decodeText kind x = .ok q →
      q.kind = kind ∧ decodeText kind q.text = .ok q ∧ q.same q = true := by
  constructor
  · intro h
    have habsent : r.kept.slots.map Slot.isAbsent = r.slots.map Slot.isAbsent := by
      rw [kept, List.map_map]
      exact List.map_congr_left fun s _ => Slot.isAbsent_kept s
    exact ⟨decode_toJson h, decodeText_text h, habsent, kept_eq, same_kept_iff h⟩
  · intro q h
    obtain ⟨rfl, hfits, hkeeps, hwritable⟩ := decodeText_eq_ok h
    have htext := decodeText_text hfits hwritable
    have hsame := (same_kept_iff hfits).2 hkeeps
    rw [kept_eq hkeeps] at htext hsame
    exact ⟨rfl, htext, hsame⟩

/-- A key that was made at midnight by a clock half a second ahead of UTC. -/
def halfSecondKey : Record :=
  ⟨.apiKey, [.value (.string ""), .stamp ⟨2024, 1, 1, 0, 0, 0, 0, some 500000⟩, .absent, .absent,
    .absent, .absent, .value (.whole 0)]⟩

theorem halfSecondKey_fits : halfSecondKey.Fits := by
  have hvalid : Stamp.Valid ⟨2024, 1, 1, 0, 0, 0, 0, some 500000⟩ := by
    refine ⟨by decide, by decide, by decide, by decide, by decide, by decide, by decide, ?_⟩
    rintro o ⟨⟩
    decide
  exact .cons (.text rfl) (.cons (.stamp rfl hvalid) (.cons (.absent rfl) (.cons (.absent rfl)
    (.cons (.absent rfl) (.cons (.absent rfl) (.cons (.whole rfl) .nil))))))

theorem halfSecondKey_writable : halfSecondKey.Writable := by
  have hempty : (Json.string "").Legible := ⟨fun _ h => Json.text.inj h ▸ trivial, nofun⟩
  have hzero : (Json.whole 0).Legible := ⟨nofun, fun _ h => Json.whole.inj h ▸ by decide⟩
  intro s hs v hv
  subst hv
  simp only [halfSecondKey, List.mem_cons, Slot.value.injEq, reduceCtorEq, false_or, List.not_mem_nil,
    or_false] at hs
  rcases hs with rfl | rfl
  · exact hempty
  · exact hzero

theorem read_back_as_kept_half_second :
    decode .apiKey halfSecondKey.toJson = .ok halfSecondKey.kept ∧
      decodeText .apiKey halfSecondKey.text = .ok halfSecondKey.kept ∧
      decodeText .apiKey halfSecondKey.kept.text = .ok halfSecondKey.kept := by
  obtain ⟨hwritten, hreread⟩ := read_back_as_kept halfSecondKey .apiKey halfSecondKey.text
  obtain ⟨hvalue, htext, -⟩ := hwritten halfSecondKey_fits
  have hread := htext halfSecondKey_writable
  obtain ⟨-, hagain, -⟩ := hreread halfSecondKey.kept hread
  exact ⟨hvalue, hread, hagain⟩

/-- Such a key does not equal the key that is decoded from its own encoding. -/
theorem half_second_lost :
    halfSecondKey.Fits ∧ ∃ r, decode .apiKey halfSecondKey.toJson = .ok r ∧
      r.same halfSecondKey = false :=
  ⟨halfSecondKey_fits, _, decode_toJson halfSecondKey_fits, by decide⟩

end Record

end Pressroom
