import Pressroom.Store.Entry
import Pressroom.Schema.Layout

/-!
The store: three tables of rows, in the order in which the rows came, and the schema they live
under. Rows are changed or deleted only through the operations of each table; a request that fails
changes nothing.
-/
namespace Pressroom

/-- Why the store cannot do what it is asked. -/
inductive StoreFault where
  | unreachable
  | noTable (name : String)
  | tooLarge
  | unencodable
  | conflict
  | unreadable (fault : Mark.Fault)
  | unknownColumns (noun : String) (names : List String)

def StoreFault.message : StoreFault → String
  | unreachable => "unable to open database file"
  | noTable name => s!"no such table: {name}"
  | tooLarge => "number too large"
  | unencodable => "surrogates not allowed"
  | conflict => "constraint failed"
  | unreadable (.notTime f) => f.message
  | unreadable .notText => "not a text"
  | unknownColumns noun names => s!"Cannot update {noun} columns: " ++ ", ".intercalate names

/-- The outcome of asking the store. -/
abbrev StoreResult (α : Type) := Except StoreFault α

structure Store where
  schema : Schema
  reachable : Bool
  users : List (Row UserData)
  posts : List (Row PostData)
  keys : List (Row KeyData)

namespace Store

/-- A store without tables. -/
def blank : Store := ⟨.empty, true, [], [], []⟩

/-- Opens the store for a table. -/
def need (s : Store) (table : String) : StoreResult Unit :=
  if !s.reachable then .error .unreachable
  else if !s.schema.hasTable table then .error (.noTable table)
  else .ok ()

/-- A text on its way into the store: it must have no lone half. -/
def bind (t : Text) : StoreResult String :=
  match t.string? with
  | some s => .ok s
  | none => .error .unencodable

def bindOption : Option Text → StoreResult (Option String)
  | none => .ok none
  | some t => (bind t).map some

/-- A number on its way into the store: it must fit into sixty-four bits with a sign. -/
def bindWhole (n : Int) : StoreResult Int :=
  if -0x8000000000000000 ≤ n && n < 0x8000000000000000 then .ok n else .error .tooLarge

def bindWholeOption : Option Int → StoreResult (Option Int)
  | none => .ok none
  | some n => (bindWhole n).map some

/-- The texts that count as equal when case does not matter: ASCII letters of both cases are the
same, and what follows U+0000 is not looked at beyond its length. -/
def noCaseSame (a b : String) : Bool :=
  let front := fun (s : String) => (s.toList.takeWhile (· != '\x00')).map Char.toLower
  a.utf8ByteSize == b.utf8ByteSize && front a == front b

/-- Equality of texts under a collation. -/
def sameUnder : Collation → String → String → Bool
  | .exact, a, b => a == b
  | .noCase, a, b => noCaseSame a b

/-! ### Tables -/

section Table

variable {α : Type}

/-- The row with an id; deleted rows only if they are wanted. -/
def findRow? (rows : List (Row α)) (deletedToo : Bool) (id : String) : Option (Row α) :=
  rows.find? fun r => r.id == id && (deletedToo || r.isLive)

/-- The rows that are not deleted, or all of them. -/
def rowsFor (rows : List (Row α)) (deletedToo : Bool) : List (Row α) :=
  rows.filter fun r => deletedToo || r.isLive

/-- Rows in the order of their creation; rows of one time stay in the order in which they came. -/
def oldestFirst (rows : List (Row α)) : List (Row α) :=
  rows.mergeSort fun a b => Mark.leOption a.created b.created

/-- Rows with the latest creation first; rows of one time stay in the order in which they came. -/
def newestFirst (rows : List (Row α)) : List (Row α) :=
  rows.mergeSort fun a b => Mark.leOption b.created a.created

/-- Changes the row with an id. -/
def reviseRow (rows : List (Row α)) (id : String) (change : Row α → Row α) : List (Row α) :=
  rows.map fun r => if r.id == id then change r else r

/-- A row with new data. -/
def revised (now : Instant) (change : α → α) (r : Row α) : Row α :=
  { r with data := change r.data, updated := some (.ofInstant now) }

/-- A row after its deletion. -/
def softDeleted (now : Instant) (r : Row α) : Row α :=
  { r with deleted := some (.ofInstant now), updated := some (.ofInstant now) }

/-- A row that is live again. -/
def restored (now : Instant) (r : Row α) : Row α :=
  { r with deleted := none, updated := some (.ofInstant now) }

/-- Reads rows for an answer. -/
def readRows (rows : List (Row α)) : StoreResult (List (Item α)) :=
  (Entry.readAll rows).mapError .unreadable

/-- Reads the row that was found, if one was. -/
def readRow? : Option (Row α) → StoreResult (Option (Item α))
  | none => .ok none
  | some r => (r.read.mapError .unreadable).map some

end Table

end Store

end Pressroom
