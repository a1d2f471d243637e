import Pressroom.Json.Writer
import Pressroom.Time.Iso

/-!
Records of the content store and the table that describes them. Every kind of record is a row of
fields; a field has an external name, the kind of its values, and says whether it is required and
whether it is kept secret. A record holds one slot for each field, in the order of the table.
-/
namespace Pressroom

/-- What a field holds. -/
inductive ValueKind where
  | text
  | integer
  | stamp
  deriving DecidableEq

/-- The description of a field: the column it is kept in, its key outside, and what it holds.
`memberType` overrides the type that interfaces show. -/
structure Field where
  column : String
  key : String
  kind : ValueKind
  required : Bool
  secret : Bool
  memberType : Option String

namespace Field

def optional (column key : String) (kind : ValueKind) : Field :=
  ⟨column, key, kind, false, false, none⟩

def mandatory (column key : String) (kind : ValueKind) : Field :=
  ⟨column, key, kind, true, false, none⟩

def hidden (f : Field) : Field := { f with secret := true }

def shownAs (f : Field) (memberType : String) : Field := { f with memberType := some memberType }

end Field

/-- The kinds of records. -/
inductive RecordKind where
  | apiKey
  | post
  | user
  deriving DecidableEq

namespace RecordKind

def name : RecordKind → String
  | apiKey => "ApiKey"
  | post => "Post"
  | user => "User"

/-- The fields of each kind, in order. A key holds the digest of its token, and a user the hash of
the password. -/
def fields : RecordKind → List Field
  | apiKey =>
    [.mandatory "id" "ID" .text,
      .optional "created_at" "CreatedAt" .stamp,
      .optional "updated_at" "UpdatedAt" .stamp,
      .optional "deleted_at" "DeletedAt" .stamp,
      (Field.optional "key" "Key" .text).hidden,
      .optional "owner_email" "OwnerEmail" .text,
      .optional "expires_at" "ExpiresAt" .integer]
  | post =>
    [.mandatory "id" "ID" .text,
      .optional "created_at" "CreatedAt" .stamp,
      .optional "updated_at" "UpdatedAt" .stamp,
      .optional "deleted_at" "DeletedAt" .stamp,
      .optional "type" "Type" .text,
      .optional "body" "Body" .text,
      .optional "title" "Title" .text,
      .optional "author_id" "AuthorID" .text]
  | user =>
    [.mandatory "id" "ID" .text,
      (Field.optional "created_at" "CreatedAt" .stamp).shownAs "Date",
      (Field.optional "updated_at" "UpdatedAt" .stamp).shownAs "Date",
      (Field.optional "deleted_at" "DeletedAt" .stamp).shownAs "any",
      .mandatory "fullname" "Fullname" .text,
      .mandatory "email" "Email" .text,
      (Field.mandatory "password" "Password" .text).hidden,
      .mandatory "permissions" "Permissions" .integer]

end RecordKind

/-- What one field of a record holds. Absent is not the same as an empty text or zero. -/
inductive Slot where
  | absent
  | value (v : Json)
  | stamp (s : Stamp)

namespace Slot

/-- The slot for a value; null counts as absent. -/
def ofJson : Json → Slot
  | .null => absent
  | v => value v

/-- The slot for a string that may be missing. -/
def ofString? : Option String → Slot
  | none => absent
  | some s => value (.string s)

def ofWhole? : Option Int → Slot
  | none => absent
  | some n => value (.whole n)

def ofStamp? : Option Stamp → Slot
  | none => absent
  | some s => stamp s

/-- The value that stands for a slot outside; an absent slot is left out. -/
def encode : Slot → Option Json
  | absent => none
  | value v => some v
  | stamp s => some (.string s.iso)

/-- The slot as a value, null when absent. -/
def toJson (s : Slot) : Json := s.encode.getD .null

def isAbsent : Slot → Bool
  | absent => true
  | _ => false

/-- Equality of slots: values as values, stamps as times. -/
def same : Slot → Slot → Bool
  | absent, absent => true
  | value v, value w => v.same w
  | stamp s, stamp t => s.same t
  | _, _ => false

end Slot

/-- A record: one slot for each field of its kind. -/
structure Record where
  kind : RecordKind
  slots : List Slot

namespace Record

/-- The fields with their slots. -/
def entries (r : Record) : List (Field × Slot) := r.kind.fields.zip r.slots

/-- The slot of a column. -/
def slot (r : Record) (column : String) : Slot :=
  match r.entries.find? fun e => e.1.column == column with
  | some e => e.2
  | none => .absent

/-- External name and value of one entry, if it is present. -/
def entryMember (e : Field × Slot) : Option (String × Json) :=
  e.2.encode.map fun v => (e.1.key, v)

/-- Names and values of the fields that are present. -/
def members (r : Record) : List (String × Json) := r.entries.filterMap entryMember

/-- The same without secret fields. -/
def publicMembers (r : Record) : List (String × Json) :=
  (r.entries.filter fun e => !e.1.secret).filterMap entryMember

def toJson (r : Record) : Json := .ofFields r.members

def publicJson (r : Record) : Json := .ofFields r.publicMembers

/-- The record as JSON text, its members in the order of their names. -/
def text (r : Record) : String :=
  (Json.object (Json.sortMembers (r.members.map fun m => (Text.ofString m.1, m.2)))).render

/-- Whether the record has been deleted: it has a time of deletion. -/
def isDeleted (r : Record) : Bool := !(r.slot "deleted_at").isAbsent

/-- Equality of records of one kind, slot by slot. -/
def same (a b : Record) : Bool :=
  a.kind == b.kind && a.slots.length == b.slots.length
    && (a.slots.zip b.slots).all fun p => p.1.same p.2

end Record

end Pressroom
