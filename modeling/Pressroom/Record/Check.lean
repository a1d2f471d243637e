import Pressroom.Record.Codec
import Pressroom.Check.Field

/-!
Whether a record is fit to be kept: its required fields are filled and of their kinds, and its
kind's own rules hold. Also whether a key has expired.
-/
namespace Pressroom

namespace Record

/-- What a record is refused for. -/
inductive Objection where
  | complaint (c : Complaint)
  | fault (f : Fault)

def Objection.message : Objection → String
  | complaint c => c.message
  | fault f => f.message

/-- The required fields with their slots. -/
def requiredEntries (r : Record) : List (Field × Slot) := r.entries.filter fun e => e.1.required

/-- Every required field is filled. -/
def checkFilled : List (Field × Slot) → Verdict
  | [] => .ok ()
  | e :: rest =>
    if Check.isBlankValue e.2.toJson then .error (.missing e.1.key) else checkFilled rest

/-- Every required field holds a value of its kind. -/
def checkKinds : List (Field × Slot) → Except Fault Unit
  | [] => .ok ()
  | e :: rest =>
    match decodeValue e.1.kind e.1.key e.2.toJson with
    | .error f => .error f
    | .ok _ => checkKinds rest

/-- Applies a check to a column that is present. -/
def checkPresent (r : Record) (column : String) (check : Json → Verdict) : Verdict :=
  match r.slot column with
  | .absent => .ok ()
  | s => check s.toJson

/-- The rules of each kind beyond its required fields, in order. -/
def ownRules (r : Record) : List Verdict :=
  match r.kind with
  | .apiKey =>
    [r.checkPresent "owner_email" Check.email, r.checkPresent "expires_at" Check.expiresAt]
  | .post => [r.checkPresent "title" Check.title, r.checkPresent "type" Check.postType]
  | .user =>
    [Check.email (r.slot "email").toJson, Check.permissions (r.slot "permissions").toJson]

/-- The first verdict that refuses, if one does. -/
def firstRefusal : List Verdict → Verdict
  | [] => .ok ()
  | .ok () :: rest => firstRefusal rest
  | .error c :: _ => .error c

/-- Checks a record. -/
def check (r : Record) : Except Objection Unit :=
  match checkFilled r.requiredEntries with
  | .error c => .error (.complaint c)
  | .ok () =>
    match checkKinds r.requiredEntries with
    | .error f => .error (.fault f)
    | .ok () => (firstRefusal r.ownRules).mapError .complaint

/-- Whether one amount is at most another. NaN is at most nothing. -/
def atMost : Json.Amount → Json.Amount → Bool
  | .whole m, .whole n => m ≤ n
  | .whole m, .real x => x.compareWhole? m == some .gt || x.compareWhole? m == some .eq
  | .real x, .whole n => x.compareWhole? n == some .lt || x.compareWhole? n == some .eq
  | .real x, .real y => Binary.le x y

/-- Whether a key has expired at a time; none if its expiry is no number. -/
def expired? (r : Record) (now : Json.Amount) : Option Bool :=
  match r.slot "expires_at" with
  | .absent => some false
  | s => s.toJson.amount?.map (atMost · now)

end Record

end Pressroom
