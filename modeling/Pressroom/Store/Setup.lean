import Pressroom.Store.Users
import Pressroom.Secret.Password

/-!
Setting the store up: the missing tables are created, and if there are no users at all, an
administrator is added. Also the ways in which a store is damaged from outside.
-/
namespace Pressroom

namespace Store

/-- The address and the password of the first administrator. -/
structure Seed where
  email : String
  password : String

/-- Why a store cannot be set up. -/
inductive SetupFault where
  | store (fault : StoreFault)
  | password (fault : Password.Fault)

/-- The mask of an administrator. -/
def seedPermissions : Int := 1

/-- The first administrator. -/
def seedUser (seed : Seed) : Except SetupFault UserData :=
  match Password.hash (Text.ofString seed.password) with
  | .error f => .error (.password f)
  | .ok hash => .ok ⟨"Administrator", seed.email, hash, seedPermissions⟩

/-- Creates the tables and indexes that are missing. -/
def createMissing (s : Store) : StoreResult Store :=
  if !s.reachable then .error .unreachable
  else match s.schema.carryOutAll? Schema.Startup.statements with
    | none => .error .conflict
    | some schema => .ok { s with schema }

/-- Sets the store up. `freshId` is the id that a new administrator gets; the answer says whether
it was used. The tables stay even if the administrator cannot be added. -/
def setUp (s : Store) (freshId : String) (now : Instant) (seed : Seed) :
    Store × Except SetupFault Bool :=
  match s.createMissing with
  | .error f => (s, .error (.store f))
  | .ok s =>
    if !s.users.isEmpty then (s, .ok false)
    else match seedUser seed with
      | .error f => (s, .error f)
      | .ok data => ({ s with users := [.newRow freshId data now] }, .ok true)

/-! ### Damage -/

/-- Drops a table and its rows. -/
def dropTable (s : Store) (name : String) : StoreResult Store :=
  if !s.reachable then .error .unreachable
  else match s.schema.carryOut? (.dropTable name) with
    | none => .error (.noTable name)
    | some schema =>
      .ok { s with
        schema
        users := if name = "users" then [] else s.users
        posts := if name = "posts" then [] else s.posts
        keys := if name = "api_keys" then [] else s.keys }

/-- Takes all rows out of a table. -/
def wipe (s : Store) (name : String) : StoreResult Store := do
  s.need name
  return { s with
    users := if name = "users" then [] else s.users
    posts := if name = "posts" then [] else s.posts
    keys := if name = "api_keys" then [] else s.keys }

/-- The times of a row. -/
inductive TimeColumn where
  | created
  | updated
  | deleted

/-- A row with one of its times overwritten. -/
def overwrite {α : Type} (column : TimeColumn) (m : Option Mark) (r : Row α) : Row α :=
  match column with
  | .created => { r with created := m }
  | .updated => { r with updated := m }
  | .deleted => { r with deleted := m }

/-- Overwrites a time of a row with any text. A user who comes back to life by it must not have the
address of a live user. -/
def setTime (s : Store) (table id : String) (column : TimeColumn) (value : Option String) :
    StoreResult Store := do
  s.need table
  let m := value.map Mark.ofText
  let users := reviseRow s.users id (overwrite column m)
  if table = "users" then
    if users.any fun r => r.id == id && r.isLive && s.emailClash id r.data.email then
      .error .conflict
    else return { s with users }
  else if table = "posts" then
    return { s with posts := reviseRow s.posts id (overwrite column m) }
  else return { s with keys := reviseRow s.keys id (overwrite column m) }

end Store

end Pressroom
