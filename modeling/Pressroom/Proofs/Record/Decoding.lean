import Mathlib.Data.List.Forall2
import Pressroom.Record.Codec
import Pressroom.Proofs.Json.Object

/-!
What is read as a record. A field takes the value of its key: it holds a value of its kind, it holds
nothing if it is optional and the value is null or not there, and everything else is an offence. So a
value is read exactly if it is an object without an offence, and otherwise the first offence in the
order of the fields is reported. Nothing but the values of these keys counts, so other members, members
that are null and the order of the members make no difference.
-/
namespace Pressroom

/-! ### One field -/

theorem Json.isNull_iff {v : Json} : v.isNull = true ↔ v = .null := by
  cases v <;> simp [isNull]

namespace ValueKind

/-- The values of a kind: texts, whole numbers, and texts that are read as a time. -/
def Holds : ValueKind → Json → Prop
  | text, v => ∃ t, v = .text t
  | integer, v => ∃ n, v = .whole n
  | stamp, v => ∃ t s, v = .text t ∧ Stamp.read t = .ok s

/-- What is reported of a key that has a value of another kind. -/
def fault : ValueKind → String → Record.Fault
  | text => .notText
  | integer => .notInteger
  | stamp => .notStamp

end ValueKind

namespace Field

open Record

variable {f : Field} {v : Json} {s : Slot} {e : Fault}

/-- The slot that a field makes of a value. -/
inductive Decodes (f : Field) : Json → Slot → Prop
  | absent (optional : f.required = false) : Decodes f .null .absent
  | text {t : Text} (kind : f.kind = .text) : Decodes f (.text t) (.value (.text t))
  | whole {n : Int} (kind : f.kind = .integer) : Decodes f (.whole n) (.value (.whole n))
  | stamp {t : Text} {s : Stamp} (kind : f.kind = .stamp) (read : Stamp.read t = .ok s) :
      Decodes f (.text t) (.stamp s)

/-- What is wrong with a value: there is none and there should be, or it is of another kind. -/
inductive Offends (f : Field) : Json → Fault → Prop
  | missing (required : f.required = true) : Offends f .null (.missing f.key)
  | kind {v : Json} (filled : v ≠ .null) (other : ¬ f.kind.Holds v) :
      Offends f v (f.kind.fault f.key)

theorem Decodes.read (h : f.Decodes v s) : decodeField f v = .ok s := by
  cases h with
  | absent optional => simp [decodeField, Json.isNull, optional]
  | text kind => simp [decodeField, decodeValue, Json.isNull, kind]
  | whole kind => simp [decodeField, decodeValue, Json.isNull, kind]
  | stamp kind read => simp [decodeField, decodeValue, Json.isNull, kind, read]

theorem Offends.reported (h : f.Offends v e) : decodeField f v = .error e := by
  cases h with
  | missing required => simp [decodeField, Json.isNull, required]
  | kind filled other =>
    rw [decodeField, if_neg (Json.isNull_iff.not.2 filled)]
    cases hkind : f.kind <;> rw [hkind] at other
    case text =>
      cases v with
      | text t => exact absurd ⟨t, rfl⟩ other
      | _ => rfl
    case integer =>
      cases v with
      | whole n => exact absurd ⟨n, rfl⟩ other
      | _ => rfl
    case stamp =>
      cases v with
      | text t =>
        cases hread : Stamp.read t with
        | ok s => exact absurd ⟨t, s, rfl, hread⟩ other
        | error _ => simp [decodeValue, hread, ValueKind.fault]
      | _ => rfl

/-- A value that is not null is decoded exactly if it is of the kind of the field. -/
theorem decodes_of_holds (h : f.kind.Holds v) : ∃ s, f.Decodes v s := by
  cases hkind : f.kind <;> rw [hkind] at h
  case text => obtain ⟨t, rfl⟩ := h; exact ⟨_, .text hkind⟩
  case integer => obtain ⟨n, rfl⟩ := h; exact ⟨_, .whole hkind⟩
  case stamp => obtain ⟨t, s, rfl, hread⟩ := h; exact ⟨_, .stamp hkind hread⟩

/-- There is no third way. -/
theorem decodes_or_offends (f : Field) (v : Json) :
    (∃ s, f.Decodes v s) ∨ ∃ e, f.Offends v e := by
  by_cases hnull : v = .null
  · subst hnull
    cases hrequired : f.required with
    | false => exact .inl ⟨_, .absent hrequired⟩
    | true => exact .inr ⟨_, .missing hrequired⟩
  · by_cases hholds : f.kind.Holds v
    · exact .inl (decodes_of_holds hholds)
    · exact .inr ⟨_, .kind hnull hholds⟩

theorem decodeField_eq_ok_iff : decodeField f v = .ok s ↔ f.Decodes v s := by
  refine ⟨fun h => ?_, Decodes.read⟩
  rcases decodes_or_offends f v with ⟨s', hs'⟩ | ⟨e, he⟩
  · rw [hs'.read] at h
    exact Except.ok.inj h ▸ hs'
  · rw [he.reported] at h
    cases h

theorem decodeField_eq_error_iff : decodeField f v = .error e ↔ f.Offends v e := by
  refine ⟨fun h => ?_, Offends.reported⟩
  rcases decodes_or_offends f v with ⟨s, hs⟩ | ⟨e', he'⟩
  · rw [hs.read] at h
    cases h
  · rw [he'.reported] at h
    exact Except.error.inj h ▸ he'

theorem not_offends_iff : (¬ ∃ e, f.Offends v e) ↔ ∃ s, f.Decodes v s := by
  refine ⟨(decodes_or_offends f v).resolve_right, ?_⟩
  rintro ⟨s, hs⟩ ⟨e, he⟩
  have hboth := hs.read.symm.trans he.reported
  cases hboth

/-- A field decodes a value exactly if it is there in case the field is required, and of its kind in
case it is there. -/
theorem decodes_iff : (∃ s, f.Decodes v s) ↔
    (f.required = true → v ≠ .null) ∧ (v ≠ .null → f.kind.Holds v) := by
  constructor
  · rintro ⟨s, hs⟩
    cases hs with
    | absent optional => simp [optional]
    | text kind => simp [kind, ValueKind.Holds]
    | whole kind => simp [kind, ValueKind.Holds]
    | stamp kind read => simp [kind, ValueKind.Holds, read]
  · rintro ⟨hrequired, hkind⟩
    by_cases hnull : v = .null
    · subst hnull
      cases hneeds : f.required with
      | false => exact ⟨_, .absent hneeds⟩
      | true => exact absurd rfl (hrequired hneeds)
    · exact decodes_of_holds (hkind hnull)

end Field

/-! ### All fields -/

namespace Record

variable {kind : RecordKind} {data v : Json} {fs : List Field} {slots : List Slot} {r : Record}
  {e : Fault}

theorem decodeFields_eq_ok_iff : decodeFields data fs = .ok slots ↔
    List.Forall₂ (fun f s => f.Decodes (data.getD f.key) s) fs slots := by
  induction fs generalizing slots with
  | nil =>
    rw [decodeFields, Except.ok.injEq, List.forall₂_nil_left_iff]
    exact eq_comm
  | cons f fs ih =>
    rw [decodeFields, List.forall₂_cons_left_iff]
    constructor
    · intro h
      split at h
      · cases h
      · rename_i s hs
        obtain ⟨rest, hrest, rfl⟩ := map_eq_ok.1 h
        exact ⟨s, rest, Field.decodeField_eq_ok_iff.1 hs, ih.1 hrest, rfl⟩
    · rintro ⟨s, rest, hs, hrest, rfl⟩
      rw [hs.read]
      exact map_eq_ok.2 ⟨rest, ih.2 hrest, rfl⟩

/-- The first field that offends is the one that is reported. -/
theorem decodeFields_eq_error_iff : decodeFields data fs = .error e ↔
    ∃ before f after, fs = before ++ f :: after ∧
      (∀ g ∈ before, ¬ ∃ e', g.Offends (data.getD g.key) e') ∧ f.Offends (data.getD f.key) e := by
  induction fs with
  | nil => simp [decodeFields]
  | cons f fs ih =>
    rw [decodeFields]
    constructor
    · intro h
      split at h
      · rename_i he
        cases h
        exact ⟨[], f, fs, rfl, by simp, Field.decodeField_eq_error_iff.1 he⟩
      · rename_i s hs
        have hrest : decodeFields data fs = .error e := by
          cases hfields : decodeFields data fs with
          | error e' => rw [hfields] at h; cases h; rfl
          | ok slots => rw [hfields] at h; cases h
        obtain ⟨before, g, after, rfl, hbefore, hg⟩ := ih.1 hrest
        refine ⟨f :: before, g, after, rfl, List.forall_mem_cons.2 ⟨?_, hbefore⟩, hg⟩
        exact Field.not_offends_iff.2 ⟨s, Field.decodeField_eq_ok_iff.1 hs⟩
    · rintro ⟨before, g, after, hsplit, hbefore, hg⟩
      cases before with
      | nil =>
        obtain ⟨rfl, -⟩ := List.cons.inj hsplit
        rw [hg.reported]
      | cons f' before =>
        obtain ⟨rfl, rfl⟩ := List.cons.inj hsplit
        rw [List.forall_mem_cons] at hbefore
        obtain ⟨s, hs⟩ := Field.not_offends_iff.1 hbefore.1
        rw [hs.read]
        dsimp only
        rw [ih.2 ⟨before, g, after, rfl, hbefore.2, hg⟩]
        rfl

theorem decode_eq_ok_iff : decode kind data = .ok r ↔ data.isObject = true ∧ r.kind = kind ∧
    List.Forall₂ (fun f s => f.Decodes (data.getD f.key) s) kind.fields r.slots := by
  rw [decode]
  split
  · rename_i hobject
    rw [map_eq_ok, ← decodeFields_eq_ok_iff]
    constructor
    · rintro ⟨slots, hslots, rfl⟩
      exact ⟨hobject, rfl, hslots⟩
    · rintro ⟨-, rfl, hslots⟩
      exact ⟨r.slots, hslots, rfl⟩
  · rename_i hobject
    simp [hobject]

theorem decode_eq_error_iff : decode kind data = .error e ↔
    (data.isObject = false ∧ e = .notObject kind) ∨
      data.isObject = true ∧ ∃ before f after, kind.fields = before ++ f :: after ∧
        (∀ g ∈ before, ¬ ∃ e', g.Offends (data.getD g.key) e') ∧ f.Offends (data.getD f.key) e := by
  rw [decode]
  split
  · rename_i hobject
    rw [← decodeFields_eq_error_iff]
    cases hfields : decodeFields data kind.fields with
    | error e' => simp [hobject, Except.map]
    | ok slots => simp [hobject, Except.map]
  · rename_i hobject
    simp [hobject, eq_comm]

/-- The objects that are read as a record: every required key has a value that is not null, and every
value of a key that is not null is of its kind. -/
structure WellTyped (kind : RecordKind) (data : Json) : Prop where
  object : data.isObject = true
  filled : ∀ f ∈ kind.fields, f.required = true → ∃ v, data.get? f.key = some v ∧ v ≠ .null
  kinds : ∀ f ∈ kind.fields, ∀ v, data.get? f.key = some v → v ≠ .null → f.kind.Holds v

theorem exists_slots_iff : (∃ slots, List.Forall₂ (fun f s => f.Decodes (data.getD f.key) s) fs slots) ↔
    ∀ f ∈ fs, ∃ s, f.Decodes (data.getD f.key) s := by
  induction fs with
  | nil => simp
  | cons f fs ih =>
    rw [List.forall_mem_cons, ← ih]
    constructor
    · rintro ⟨slots, h⟩
      cases h with
      | cons hs hrest => exact ⟨⟨_, hs⟩, _, hrest⟩
    · rintro ⟨⟨s, hs⟩, slots, hrest⟩
      exact ⟨s :: slots, .cons hs hrest⟩

theorem wellTyped_iff : WellTyped kind data ↔
    data.isObject = true ∧ ∀ f ∈ kind.fields, ∃ s, f.Decodes (data.getD f.key) s := by
  constructor
  · rintro ⟨hobject, hfilled, hkinds⟩
    refine ⟨hobject, fun f hf => Field.decodes_iff.2 ⟨fun hrequired => ?_, fun hnull => ?_⟩⟩
    · obtain ⟨v, hv, hnull⟩ := hfilled f hf hrequired
      rwa [Json.getD_of_get? hv]
    · exact hkinds f hf _ (Json.get?_of_getD rfl hnull) hnull
  · rintro ⟨hobject, hfields⟩
    refine ⟨hobject, fun f hf hrequired => ?_, fun f hf v hv hnull => ?_⟩
    · have hfilled := (Field.decodes_iff.1 (hfields f hf)).1 hrequired
      exact ⟨_, Json.get?_of_getD rfl hfilled, hfilled⟩
    · rw [← Json.getD_of_get? hv] at hnull ⊢
      exact (Field.decodes_iff.1 (hfields f hf)).2 hnull

/-! ### What does not count -/

/-- Nothing but the values of the keys counts. -/
theorem decode_congr {other : Json} (hobject : data.isObject = other.isObject)
    (h : ∀ f ∈ kind.fields, data.getD f.key = other.getD f.key) :
    decode kind data = decode kind other := by
  have hfields : decodeFields data kind.fields = decodeFields other kind.fields := by
    generalize kind.fields = fs at h
    induction fs with
    | nil => rfl
    | cons f fs ih =>
      rw [List.forall_mem_cons] at h
      rw [decodeFields, decodeFields, h.1, ih h.2]
  rw [decode, decode, hobject, hfields]

/-- Members of other names, or that are null, do not change the value of a name. -/
theorem getD_extended {ms extra ns : List (Text × Json)} {name : String}
    (hperm : ns.Perm (ms ++ extra)) (hn : (ns.map (·.1)).Nodup)
    (hextra : ∀ m ∈ extra, m.1 = Text.ofString name → m.2 = .null) :
    (Json.object ns).getD name = (Json.object ms).getD name := by
  have hlookup := Json.lookup_perm hperm hn (Text.ofString name)
  rw [List.lookup_append] at hlookup
  rw [Json.getD, Json.getD, Json.get?, Json.get?, ← hlookup]
  cases hms : ms.lookup (Text.ofString name) with
  | some v => rfl
  | none =>
    cases hmore : extra.lookup (Text.ofString name) with
    | none => rfl
    | some v =>
      obtain ⟨before, after, rfl, -⟩ := List.lookup_eq_some_iff.1 hmore
      exact hextra _ (List.mem_append_right _ List.mem_cons_self) rfl

/-! ### Records of well-typed objects -/

/-- Exactly the well-typed objects are read as records; each slot is made of the value of its key.
Otherwise the first field that offends is reported, or that the value is no object. Members that belong
to no field, members that are null and the order of the members make no difference. -/
theorem decodes_exactly (kind : RecordKind) (data : Json) :
    ((∃ r, decode kind data = .ok r) ↔ WellTyped kind data) ∧
    (∀ r, decode kind data = .ok r → r.kind = kind ∧
      List.Forall₂ (fun f s => f.Decodes (data.getD f.key) s) kind.fields r.slots) ∧
    (∀ e, decode kind data = .error e ↔
      (data.isObject = false ∧ e = .notObject kind) ∨
        data.isObject = true ∧ ∃ before f after, kind.fields = before ++ f :: after ∧
          (∀ g ∈ before, ¬ ∃ e', g.Offends (data.getD g.key) e') ∧ f.Offends (data.getD f.key) e) ∧
    ∀ ms extra ns, data = .object ms → ns.Perm (ms ++ extra) → (ns.map (·.1)).Nodup →
      (∀ m ∈ extra, m.2 = .null ∨ ∀ f ∈ kind.fields, m.1 ≠ Text.ofString f.key) →
      decode kind (.object ns) = decode kind data := by
  refine ⟨?_, fun r h => (decode_eq_ok_iff.1 h).2, fun e => decode_eq_error_iff, ?_⟩
  · rw [wellTyped_iff, ← exists_slots_iff]
    constructor
    · rintro ⟨r, hr⟩
      obtain ⟨hobject, -, hslots⟩ := decode_eq_ok_iff.1 hr
      exact ⟨hobject, r.slots, hslots⟩
    · rintro ⟨hobject, slots, hslots⟩
      exact ⟨⟨kind, slots⟩, decode_eq_ok_iff.2 ⟨hobject, rfl, hslots⟩⟩
  · rintro ms extra ns rfl hperm hn hextra
    refine decode_congr rfl fun f hf => getD_extended hperm hn fun m hm hname => ?_
    exact (hextra m hm).resolve_right fun hother => hother f hf hname

/-- A post with a title, and its members in another order with one of no field and one that is null. -/
def note : List (Text × Json) :=
  [(Text.ofString "ID", .string "n"), (Text.ofString "Title", .string "t")]

def noteExtra : List (Text × Json) :=
  [(Text.ofString "Mood", .bool true), (Text.ofString "Body", .null)]

theorem decodes_exactly_note :
    WellTyped .post (.object note) ∧
      decode .user (.object note) = .error (.missing "Fullname") ∧
      decode .post (.object (noteExtra ++ note.reverse)) = decode .post (.object note) ∧
      ∃ r, decode .post (.object note) = .ok r ∧ r.kind = .post ∧
        List.Forall₂ (fun f s => f.Decodes ((Json.object note).getD f.key) s)
          RecordKind.post.fields r.slots := by
  obtain ⟨hread, hslots, -, hsame⟩ := decodes_exactly .post (.object note)
  obtain ⟨-, -, hreport, -⟩ := decodes_exactly .user (.object note)
  have hnote : ∃ r, decode .post (.object note) = .ok r := ⟨_, rfl⟩
  obtain ⟨r, hr⟩ := hnote
  have hperm : (noteExtra ++ note.reverse).Perm (note ++ noteExtra) :=
    List.perm_append_comm.trans ((List.reverse_perm note).append_right noteExtra)
  refine ⟨hread.1 ⟨r, hr⟩, ?_, ?_, r, hr, hslots r hr⟩
  · refine (hreport _).2 (.inr ⟨rfl, RecordKind.user.fields.take 4, .mandatory "fullname" "Fullname" .text,
      RecordKind.user.fields.drop 5, rfl, ?_, .missing rfl⟩)
    intro g hg
    rw [Field.not_offends_iff]
    simp only [RecordKind.fields, List.take, List.mem_cons, List.not_mem_nil, or_false] at hg
    rcases hg with rfl | rfl | rfl | rfl
    · exact ⟨_, .text rfl⟩
    all_goals exact ⟨_, .absent rfl⟩
  · refine hsame note noteExtra _ rfl hperm (by decide) ?_
    simp only [noteExtra, List.forall_mem_cons, List.not_mem_nil, false_imp_iff, implies_true, and_true]
    exact ⟨.inr (by decide), .inl trivial⟩

end Record

end Pressroom
