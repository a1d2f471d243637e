import Pressroom.Record.Basic
import Pressroom.Text.Blank

/-!
Rows of the store. A row is an id, its data, and the times at which it was created, last changed and
deleted; a row with a time of deletion is deleted but stays. In the table the times are kept as
text. A text that reads as a number is kept as that number.
-/
namespace Pressroom

/-- A time as a table keeps it. -/
inductive Mark where
  | text (s : String)
  | number (x : Binary)
  deriving DecidableEq

namespace Mark

/-- Spaces that may stand around a number. -/
def isPadding (c : Char) : Bool := c == ' ' || (9 ≤ c.toNat && c.toNat ≤ 13)

/-- Takes a sign off the front; true means minus. -/
def takeSign : List Char → Bool × List Char
  | '-' :: rest => (true, rest)
  | '+' :: rest => (false, rest)
  | rest => (false, rest)

def digitsValue (cs : List Char) : Nat := cs.foldl (fun n c => 10 * n + (c.toNat - '0'.toNat)) 0

/-- The power of ten that an exponent writes: zero if there is none. -/
def exponent? : List Char → Option Int
  | [] => some 0
  | c :: rest =>
    let (negative, digits) := takeSign rest
    if (c == 'e' || c == 'E') && !digits.isEmpty && digits.all Char.isDigit then
      some (Binary.signed negative (digitsValue digits))
    else none

/-- The number that a text writes, padding aside. -/
def number? (s : String) : Option Binary :=
  let (negative, cs) := takeSign (trimBoth isPadding s.toList)
  let whole := cs.takeWhile Char.isDigit
  let rest := cs.dropWhile Char.isDigit
  let fraction := if rest.head? = some '.' then rest.tail.takeWhile Char.isDigit else []
  let rest := if rest.head? = some '.' then rest.tail.dropWhile Char.isDigit else rest
  if whole.isEmpty && fraction.isEmpty then none
  else
    (exponent? rest).map fun power =>
      .ofDecimal negative (digitsValue (whole ++ fraction)) (power - fraction.length)

/-- What a table keeps of a text. -/
def ofText (s : String) : Mark :=
  match number? s with
  | some x => number x
  | none => text s

/-- The mark of an instant: its text in UTC. -/
def ofInstant (t : Instant) : Mark := text (Stamp.ofInstant t).iso

/-- The order of marks: numbers come before texts, and texts go by their characters. -/
def le : Mark → Mark → Bool
  | number x, number y => Binary.le x y
  | number _, text _ => true
  | text _, number _ => false
  | text s, text t => s ≤ t

/-- The same with missing marks, which come first. -/
def leOption : Option Mark → Option Mark → Bool
  | none, _ => true
  | some _, none => false
  | some m, some n => le m n

/-- Why a mark is no time. -/
inductive Fault where
  | notTime (fault : Stamp.Fault)
  | notText

/-- The time that a mark stands for. The empty text and zero stand for none. -/
def read : Mark → Except Fault (Option Stamp)
  | text s =>
    if s = "" then .ok none
    else match Stamp.read (Text.ofString s) with
      | .ok stamp => .ok (some stamp)
      | .error f => .error (.notTime f)
  | number x => if x.isZero then .ok none else .error .notText

/-- The same for a mark that may be missing. -/
def readOption : Option Mark → Except Fault (Option Stamp)
  | none => .ok none
  | some m => m.read

end Mark

/-- A row with data of type `α` and times of type `τ`. -/
structure Entry (τ α : Type) where
  id : String
  data : α
  created : Option τ
  updated : Option τ
  deleted : Option τ
  deriving DecidableEq

/-- A row as a table keeps it. -/
abbrev Row (α : Type) := Entry Mark α

/-- A row as it is read. -/
abbrev Item (α : Type) := Entry Stamp α

namespace Entry

variable {τ α : Type}

/-- Whether the row has not been deleted. -/
def isLive (e : Entry τ α) : Bool := e.deleted.isNone

/-- A row that is new at an instant. -/
def newRow (id : String) (data : α) (now : Instant) : Row α :=
  ⟨id, data, some (.ofInstant now), some (.ofInstant now), none⟩

/-- The same as an item. -/
def newItem (id : String) (data : α) (now : Instant) : Item α :=
  ⟨id, data, some (.ofInstant now), some (.ofInstant now), none⟩

/-- Reads the times of a row, in order. -/
def read (r : Row α) : Except Mark.Fault (Item α) :=
  match Mark.readOption r.created with
  | .error f => .error f
  | .ok created =>
    match Mark.readOption r.updated with
    | .error f => .error f
    | .ok updated =>
      match Mark.readOption r.deleted with
      | .error f => .error f
      | .ok deleted => .ok ⟨r.id, r.data, created, updated, deleted⟩

/-- Reads several rows, one after the other. -/
def readAll : List (Row α) → Except Mark.Fault (List (Item α))
  | [] => .ok []
  | r :: rest =>
    match r.read with
    | .error f => .error f
    | .ok item => (readAll rest).map (item :: ·)

end Entry

/-! ### What the tables hold -/

/-- A user. `password` is the hash of the password. -/
structure UserData where
  fullname : String
  email : String
  password : String
  permissions : Int
  deriving DecidableEq

/-- A post. Each part of it may be missing. -/
structure PostData where
  type : Option String
  body : Option String
  title : Option String
  author : Option String
  deriving DecidableEq

/-- An API key: the digest of its token, whose key it is, and when it expires. -/
structure KeyData where
  digest : Option String
  owner : Option String
  expires : Option Int
  deriving DecidableEq

abbrev User := Item UserData
abbrev Post := Item PostData
abbrev ApiKey := Item KeyData

namespace Entry

/-- The slots that every kind of record begins with. -/
def slots {α : Type} (e : Item α) : List Slot :=
  [.value (.string e.id), .ofStamp? e.created, .ofStamp? e.updated, .ofStamp? e.deleted]

/-- The record of a user. -/
def userRecord (e : User) : Record :=
  ⟨.user, e.slots ++ [.value (.string e.data.fullname), .value (.string e.data.email),
    .value (.string e.data.password), .value (.whole e.data.permissions)]⟩

/-- The record of a post. -/
def postRecord (e : Post) : Record :=
  ⟨.post, e.slots ++ [.ofString? e.data.type, .ofString? e.data.body, .ofString? e.data.title,
    .ofString? e.data.author]⟩

/-- The record of a key. -/
def keyRecord (e : ApiKey) : Record :=
  ⟨.apiKey, e.slots ++ [.ofString? e.data.digest, .ofString? e.data.owner,
    .ofWhole? e.data.expires]⟩

end Entry

end Pressroom
