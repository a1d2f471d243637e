import Pressroom.TypeScript.Interface
import Pressroom.Proofs.Record.RoundTrip

/-!
What an interface says of the records of its kind. The members are read off the text, line by line,
and what is read are the fields of the kind in their order. So three walks over one table meet: the
encoder leaves out the slots that are absent, which gives a part of the members in their order; the
decoder wants the fields that have no question mark; and a field of each kind holds values of the type
that is shown for it.
-/
namespace Pressroom

namespace TypeScript

/-! ### Reading an interface -/

/-- Whether a character belongs to the name of a member: it ends before the question mark or colon. -/
def inName (c : Char) : Bool := c != '?' && c != ':'

/-- What stands behind the name of a member: whether the member is required, and the rest. -/
def readMark : List Char → Bool × List Char
  | '?' :: cs => (false, cs)
  | cs => (true, cs)

/-- A colon, a blank, a type and a semicolon. -/
def readType? : List Char → Option String
  | ':' :: ' ' :: cs =>
    if cs.getLast? = some ';' then some (String.ofList cs.dropLast) else none
  | _ => none

/-- The member on a line. Lines that show a member begin with two blanks. -/
def readMember? : List Char → Option Member
  | ' ' :: ' ' :: cs =>
    let (required, rest) := readMark (cs.dropWhile inName)
    (readType? rest).map fun type => ⟨String.ofList (cs.takeWhile inName), required, type⟩
  | _ => none

/-- The members that a text declares, in the order of its lines. -/
def declared (text : String) : List Member := (text.toList.splitOn '\n').filterMap readMember?

/-- A member that can be read back: no character of its name ends the name, and there is no line
break in its name or its type. -/
structure Member.Plain (m : Member) : Prop where
  name : ∀ c ∈ m.name.toList, inName c = true
  nameLine : '\n' ∉ m.name.toList
  typeLine : '\n' ∉ m.type.toList

/-- The question mark of a member that may be absent. -/
def mark (m : Member) : List Char := if m.required then [] else ['?']

/-- The line of a member. -/
def line (m : Member) : List Char :=
  ' ' :: ' ' :: (m.name.toList ++ (mark m ++ ':' :: ' ' :: (m.type.toList ++ [';'])))

theorem toList_renderMember (m : Member) : (renderMember m).toList = line m ++ ['\n'] := by
  have hmark : (if m.required then "" else "?").toList = mark m := by
    rw [mark]; split <;> rfl
  have hmargin : "  ".toList = [' ', ' '] := rfl
  have hcolon : ": ".toList = [':', ' '] := rfl
  have hend : ";\n".toList = [';', '\n'] := rfl
  simp only [renderMember, String.toList_append, hmark, hmargin, hcolon, hend, line,
    List.append_assoc, List.cons_append, List.nil_append]

theorem not_mem_line {m : Member} (h : m.Plain) : '\n' ∉ line m := by
  have hmark : '\n' ∉ mark m := by rw [mark]; split <;> decide
  simp [line, h.nameLine, h.typeLine, hmark]

theorem readMark_append (m : Member) (cs : List Char) :
    readMark (mark m ++ ':' :: cs) = (m.required, ':' :: cs) := by
  rw [mark]
  cases m.required <;> rfl

theorem readType?_append (type : List Char) :
    readType? (':' :: ' ' :: (type ++ [';'])) = some (String.ofList type) := by
  rw [readType?, List.getLast?_concat, if_pos rfl, List.dropLast_concat]

/-- The line of a member shows the member. -/
theorem readMember?_line {m : Member} (h : m.Plain) : readMember? (line m) = some m := by
  obtain ⟨name, required, type⟩ := m
  -- The name ends at the mark or at the colon, neither of which is in a name.
  have hcut : ∃ c rest, inName c = false ∧
      mark ⟨name, required, type⟩ ++ ':' :: ' ' :: (type.toList ++ [';']) = c :: rest := by
    cases required <;> exact ⟨_, _, by decide, rfl⟩
  obtain ⟨c, rest, hc, hrest⟩ := hcut
  have hstop : ¬ inName c = true := by rw [hc]; decide
  have htake : (name.toList ++ c :: rest).takeWhile inName = name.toList := by
    rw [List.takeWhile_append_of_pos h.name, List.takeWhile_cons_of_neg hstop, List.append_nil]
  have hdrop : (name.toList ++ c :: rest).dropWhile inName = c :: rest := by
    rw [List.dropWhile_append_of_pos h.name, List.dropWhile_cons_of_neg hstop]
  rw [line, readMember?, hrest, htake, hdrop, ← hrest, readMark_append]
  simp only [readType?_append, Option.map_some, String.ofList_toList]

/-- The lines of several members, one below the other, and what comes after them. -/
theorem splitOn_lines {ms : List Member} (h : ∀ m ∈ ms, m.Plain) (rest : List Char) :
    ((ms.flatMap fun m => line m ++ ['\n']) ++ rest).splitOn '\n'
      = ms.map line ++ rest.splitOn '\n' := by
  induction ms with
  | nil => rfl
  | cons m ms ih =>
    obtain ⟨hm, hms⟩ := List.forall_mem_cons.1 h
    rw [List.flatMap_cons, List.append_assoc, List.append_assoc, List.singleton_append,
      List.splitOn_append_cons_self_of_not_mem (not_mem_line hm), ih hms, List.map_cons,
      List.cons_append]

theorem plain_members (kind : RecordKind) : ∀ m ∈ members kind, m.Plain := by
  have hparts : ((members kind).all fun m => m.name.toList.all inName &&
      !m.name.toList.contains '\n' && !m.type.toList.contains '\n') = true := by
    cases kind <;> decide +kernel
  intro m hm
  have hm := List.all_eq_true.1 hparts m hm
  simp only [Bool.and_eq_true, Bool.not_eq_true', List.contains_eq_mem, decide_eq_false_iff_not,
    List.all_eq_true] at hm
  obtain ⟨⟨hname, hnameLine⟩, htypeLine⟩ := hm
  exact ⟨hname, hnameLine, htypeLine⟩

/-- The line that an interface begins with. -/
def heading (name : String) : List Char :=
  'e' :: ("xport interface ".toList ++ name.toList ++ " \x7b".toList)

theorem not_mem_heading {name : String} (h : '\n' ∉ name.toList) : '\n' ∉ heading name := by
  simp only [heading, List.mem_cons, List.mem_append, not_or]
  exact ⟨by decide, ⟨by decide, h⟩, by decide⟩

/-- An interface is its heading, the lines of its members and a closing brace. -/
theorem toList_renderInterface (kind : RecordKind) (name : String) :
    (renderInterface kind name).toList =
      heading (if name = "" then interfaceName kind else name) ++
        '\n' :: (((members kind).flatMap fun m => line m ++ ['\n']) ++ ['\x7d', '\n']) := by
  have hopen : "export interface ".toList = 'e' :: "xport interface ".toList := rfl
  have hbreak : " \x7b\n".toList = " \x7b".toList ++ ['\n'] := rfl
  have hclose : "\x7d\n".toList = ['\x7d', '\n'] := rfl
  have hlines : (String.join ((members kind).map renderMember)).toList =
      (members kind).flatMap fun m => line m ++ ['\n'] := by
    rw [String.toList_join, List.flatMap_map]
    exact List.flatMap_congr fun m _ => toList_renderMember m
  unfold renderInterface heading
  simp only [String.toList_append, hopen, hbreak, hclose, hlines, List.append_assoc,
    List.cons_append, List.nil_append]

/-- An interface declares the members of its kind, under whatever name it stands on one line. -/
theorem declared_renderInterface (kind : RecordKind) {name : String}
    (h : '\n' ∉ name.toList) :
    declared (renderInterface kind name) = members kind := by
  have hname : '\n' ∉ (if name = "" then interfaceName kind else name).toList := by
    split
    · cases kind <;> decide
    · exact h
  have hread : ((members kind).map line).filterMap readMember? = members kind := by
    rw [List.filterMap_map]
    refine (List.filterMap_congr fun m hm => ?_).trans List.filterMap_some
    exact readMember?_line (plain_members kind m hm)
  rw [declared, toList_renderInterface,
    List.splitOn_append_cons_self_of_not_mem (not_mem_heading hname),
    splitOn_lines (plain_members kind), List.filterMap_cons_none rfl, List.filterMap_append, hread]
  exact List.append_nil _

/-! ### Values of a type -/

/-- The values in JSON that a type of an interface stands for. A time is a text, whatever type is shown
for it. -/
inductive OfType : String → Json → Prop
  | string (t : Text) : OfType "string" (.text t)
  | number (n : Int) : OfType "number" (.whole n)
  | date (t : Text) : OfType "Date" (.text t)
  | any (t : Text) : OfType "any" (.text t)

/-- The types that may be shown for a kind of values. -/
def typesOf : ValueKind → List String
  | .text => ["string"]
  | .integer => ["number"]
  | .stamp => ["string", "Date", "any"]

theorem memberType_mem_typesOf (kind : RecordKind) :
    ∀ f ∈ kind.fields, memberType f ∈ typesOf f.kind := by
  cases kind <;> decide +kernel

/-- Values of a kind are of each type that may be shown for it. -/
theorem ofType_of_holds {k : ValueKind} {type : String} {v : Json} (htype : type ∈ typesOf k)
    (h : k.Holds v) : OfType type v := by
  cases k with
  | text =>
    obtain ⟨t, rfl⟩ := h
    rw [List.mem_singleton.1 htype]
    exact .string t
  | integer =>
    obtain ⟨n, rfl⟩ := h
    rw [List.mem_singleton.1 htype]
    exact .number n
  | stamp =>
    obtain ⟨t, -, rfl, -⟩ := h
    simp only [typesOf, List.mem_cons, List.not_mem_nil, or_false] at htype
    rcases htype with rfl | rfl | rfl
    exacts [.string t, .date t, .any t]

/-- What stands for a slot outside is of the kind of the field. -/
theorem holds_of_fits {f : Field} {s : Slot} {v : Json} (h : s.Fits f) (hv : s.encode = some v) :
    f.kind.Holds v := by
  cases h with
  | absent => cases hv
  | text kind => cases hv; rw [kind]; exact ⟨_, rfl⟩
  | whole kind => cases hv; rw [kind]; exact ⟨_, rfl⟩
  | stamp kind valid => cases hv; rw [kind]; exact ⟨_, _, rfl, Stamp.read_written valid⟩

/-! ### Members of a record -/

section Encoded

variable {r : Record} (h : r.Fits)

include h in
theorem exists_entry {f : Field} (hf : f ∈ r.kind.fields) : ∃ s, (f, s) ∈ r.entries ∧ s.Fits f := by
  have hfst : r.entries.map Prod.fst = r.kind.fields :=
    List.map_fst_zip (Nat.le_of_eq (List.Forall₂.length_eq h))
  rw [← hfst] at hf
  obtain ⟨e, he, rfl⟩ := List.mem_map.1 hf
  exact ⟨e.2, he, Record.fits_of_mem h he⟩

include h in
/-- A field's key has the value of its slot in the object of a record. -/
theorem get?_toJson {f : Field} {s : Slot} (he : (f, s) ∈ r.entries) :
    r.toJson.get? f.key = s.encode :=
  lookup_memberList (Record.nodup_entries (List.Forall₂.length_eq h)) he

include h in
/-- Encoding leaves out some of the fields and keeps the order. -/
theorem names_sublist :
    r.toJson.names.Sublist ((members r.kind).map fun m => Text.ofString m.name) := by
  have hpart : ∀ es : List (Field × Slot),
      ((memberList es).map (·.1)).Sublist (es.map fun e => Text.ofString e.1.key) := by
    intro es
    induction es with
    | nil => exact .slnil
    | cons e es ih =>
      cases hv : e.2.encode with
      | none =>
        rw [memberList, List.filterMap_cons_none (by rw [Record.entryMember, hv]; rfl)]
        exact ih.cons _
      | some v =>
        rw [memberList, List.filterMap_cons_some (b := (e.1.key, v))
          (by rw [Record.entryMember, hv]; rfl)]
        exact ih.cons_cons _
  have hkeys : r.entries.map (fun e => Text.ofString e.1.key) =
      (members r.kind).map fun m => Text.ofString m.name := by
    have hentries := Record.entries_keys (List.Forall₂.length_eq h)
    have hnames := congrArg (List.map Text.ofString) hentries
    rw [List.map_map, List.map_map] at hnames
    rw [members, List.map_map]
    exact hnames
  rw [← hkeys]
  exact hpart r.entries

end Encoded

/-- A slot with as little in it as the field allows. -/
def leastSlot (f : Field) : Slot :=
  if f.required then
    match f.kind with
    | .text => .value (.text [])
    | .integer => .value (.whole 0)
    | .stamp => .stamp ⟨1970, 1, 1, 0, 0, 0, 0, none⟩
  else .absent

theorem leastSlot_fits (f : Field) : (leastSlot f).Fits f := by
  have hvalid : Stamp.Valid ⟨1970, 1, 1, 0, 0, 0, 0, none⟩ :=
    ⟨by decide, by decide, by decide, by decide, by decide, by decide, by decide, nofun⟩
  rw [leastSlot]
  split
  · split
    · exact .text ‹_›
    · exact .whole ‹_›
    · exact .stamp ‹_› hvalid
  · exact .absent (Bool.eq_false_iff.2 ‹_›)

/-- The record of a kind in which everything that may be absent is absent. -/
def leastRecord (kind : RecordKind) : Record := ⟨kind, kind.fields.map leastSlot⟩

theorem leastRecord_fits (kind : RecordKind) : (leastRecord kind).Fits :=
  List.forall₂_map_right_iff.2 (List.forall₂_same.2 fun f _ => leastSlot_fits f)

/-! ### The interface and the records -/

theorem mem_members {kind : RecordKind} {m : Member} :
    m ∈ members kind ↔ ∃ f ∈ kind.fields, m = ⟨f.key, f.required, memberType f⟩ := by
  rw [members, List.mem_map]
  exact exists_congr fun f => and_congr_right fun _ => eq_comm

/-- The object of a record has every required member, and each member it has is of its type. -/
theorem toJson_typed {r : Record} (h : r.Fits) {m : Member} (hm : m ∈ members r.kind) :
    (m.required = true → r.toJson.get? m.name ≠ none) ∧
      ∀ v, r.toJson.get? m.name = some v → OfType m.type v := by
  obtain ⟨f, hf, rfl⟩ := mem_members.1 hm
  obtain ⟨s, he, hfits⟩ := exists_entry h hf
  dsimp only
  rw [get?_toJson h he]
  refine ⟨fun hrequired hnone => ?_, fun v hv => ?_⟩
  · cases hfits with
    | absent optional => rw [hrequired] at optional; cases optional
    | _ => cases hnone
  · exact ofType_of_holds (memberType_mem_typesOf r.kind f hf) (holds_of_fits hfits hv)

/-- What is read as a record has every required member, and it is of its type. -/
theorem decoded_typed {kind : RecordKind} {data : Json} {r : Record}
    (h : Record.decode kind data = .ok r) {m : Member} (hm : m ∈ members kind)
    (hrequired : m.required = true) : ∃ v, data.get? m.name = some v ∧ OfType m.type v := by
  obtain ⟨f, hf, rfl⟩ := mem_members.1 hm
  obtain ⟨-, -, hslots⟩ := Record.decode_eq_ok_iff.1 h
  obtain ⟨hneeds, hkind⟩ := Field.decodes_iff.1 (Record.exists_slots_iff.1 ⟨_, hslots⟩ f hf)
  have hthere := hneeds hrequired
  exact ⟨_, Json.get?_of_getD rfl hthere,
    ofType_of_holds (memberType_mem_typesOf kind f hf) (hkind hthere)⟩

/-- What an object does not have is absent in the record that is read from it. -/
theorem absent_of_decoded {kind : RecordKind} {data : Json} {r : Record}
    (h : Record.decode kind data = .ok r) {m : Member} (hm : m ∈ members kind)
    (hnone : data.get? m.name = none) : r.toJson.get? m.name = none := by
  obtain ⟨f, hf, rfl⟩ := mem_members.1 hm
  obtain ⟨-, rfl, hslots⟩ := Record.decode_eq_ok_iff.1 h
  have hfits : r.Fits := (Record.fits_of_slots hslots).1
  obtain ⟨s, he, -⟩ := exists_entry hfits hf
  have hdecodes : f.Decodes (data.getD f.key) s := List.forall₂_zip hslots he
  rw [Json.getD, hnone, Option.getD_none] at hdecodes
  cases hdecodes
  exact get?_toJson hfits he

/-- The record with the least in it has no member that may be absent. -/
theorem leastRecord_lacks {kind : RecordKind} {m : Member} (hm : m ∈ members kind)
    (hoptional : m.required = false) : (leastRecord kind).toJson.get? m.name = none := by
  obtain ⟨f, hf, rfl⟩ := mem_members.1 hm
  have he : (f, leastSlot f) ∈ (leastRecord kind).entries := by
    have hzip := List.zip_map' (f := id) (g := leastSlot) (l := kind.fields)
    rw [List.map_id] at hzip
    rw [Record.entries, leastRecord]
    dsimp only
    rw [hzip]
    exact List.mem_map.2 ⟨f, hf, rfl⟩
  have hslot : leastSlot f = .absent := if_neg (Bool.eq_false_iff.1 hoptional)
  rw [get?_toJson (leastRecord_fits kind) he, hslot]
  rfl

/-- The members that the text of an interface declares, and the records of its kind. In the object of a
record stand some of the members, in their order; every one without a question mark is among them, and
each has a value of its type. The members with a question mark are those that are missing in the object
of some record that was decoded, and no object is decoded as a record without all others, with values of
their types. -/
theorem interface_describes_records (kind : RecordKind) :
    ((declared (renderInterface kind "")).map (·.name)).Nodup ∧
    (∀ r : Record, r.kind = kind → r.Fits →
      r.toJson.names.Sublist
        ((declared (renderInterface kind "")).map fun m => Text.ofString m.name) ∧
      ∀ m ∈ declared (renderInterface kind ""),
        (m.required = true → r.toJson.get? m.name ≠ none) ∧
          ∀ v, r.toJson.get? m.name = some v → OfType m.type v) ∧
    (∀ m ∈ declared (renderInterface kind ""),
      m.required = false ↔
        ∃ data r, Record.decode kind data = .ok r ∧ r.toJson.get? m.name = none) ∧
    ∀ data r, Record.decode kind data = .ok r → ∀ m ∈ declared (renderInterface kind ""),
      m.required = true → ∃ v, data.get? m.name = some v ∧ OfType m.type v := by
  rw [declared_renderInterface kind (by decide)]
  refine ⟨?_, ?_, fun m hm => ⟨fun hoptional => ?_, ?_⟩, fun data r h m hm => decoded_typed h hm⟩
  · rw [members, List.map_map]
    exact Record.nodup_keys kind
  · rintro r rfl h
    exact ⟨names_sublist h, fun m hm => toJson_typed h hm⟩
  · have hread := Record.decode_toJson (leastRecord_fits kind)
    exact ⟨_, _, hread, absent_of_decoded hread hm (leastRecord_lacks hm hoptional)⟩
  · rintro ⟨data, r, h, hnone⟩
    obtain ⟨-, rfl, hslots⟩ := Record.decode_eq_ok_iff.1 h
    have htyped := toJson_typed (Record.fits_of_slots hslots).1 hm
    exact Bool.eq_false_iff.2 fun hrequired => htyped.1 hrequired hnone

theorem interface_describes_half_second_key :
    (⟨"ID", true, "string"⟩ : Member) ∈ declared (renderInterface .apiKey "") ∧
      (⟨"CreatedAt", false, "string"⟩ : Member) ∈ declared (renderInterface .apiKey "") ∧
      Record.halfSecondKey.toJson.names.Sublist
        ((declared (renderInterface .apiKey "")).map fun m => Text.ofString m.name) ∧
      (∃ v, Record.halfSecondKey.toJson.get? "ID" = some v ∧ OfType "string" v) ∧
      ∃ data r, Record.decode .apiKey data = .ok r ∧ r.toJson.get? "CreatedAt" = none := by
  have hmembers : declared (renderInterface .apiKey "") = members .apiKey :=
    declared_renderInterface .apiKey (by decide)
  have hid : (⟨"ID", true, "string"⟩ : Member) ∈ declared (renderInterface .apiKey "") :=
    hmembers ▸ List.mem_cons_self
  have hcreated : (⟨"CreatedAt", false, "string"⟩ : Member) ∈
      declared (renderInterface .apiKey "") := hmembers ▸ List.mem_cons_of_mem _ List.mem_cons_self
  obtain ⟨-, hencoded, hoptional, hdecoded⟩ := interface_describes_records .apiKey
  obtain ⟨hnames, -⟩ := hencoded Record.halfSecondKey rfl Record.halfSecondKey_fits
  have hread := Record.decode_toJson Record.halfSecondKey_fits
  exact ⟨hid, hcreated, hnames, hdecoded _ _ hread _ hid rfl, (hoptional _ hcreated).1 rfl⟩

end TypeScript

end Pressroom
