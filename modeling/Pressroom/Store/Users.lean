import Pressroom.Store.Basic

/-!
The table of users. Live users have different addresses, as the schema compares them; a deleted user
keeps the address, and cannot come back while a live user has it.
-/
namespace Pressroom

/-- What a new user is made of. A part that is missing is refused by the store. -/
structure NewUser where
  fullname : Option Text
  email : Option Text
  password : Option Text
  permissions : Option Int

/-- Changes of a user: none leaves a part alone, and a part cannot be taken away. -/
structure UserChanges where
  fullname : Option (Option Text)
  email : Option (Option Text)
  permissions : Option (Option Int)

namespace UserChanges

def none : UserChanges := ⟨.none, .none, .none⟩

def isEmpty (c : UserChanges) : Bool :=
  c.fullname.isNone && c.email.isNone && c.permissions.isNone

end UserChanges

namespace Store

/-- Whether a live user other than the one with this id has an address. -/
def emailClash (s : Store) (id email : String) : Bool :=
  match s.schema.liveUnique? "users" "email" with
  | none => false
  | some collation =>
    s.users.any fun r => r.isLive && r.id != id && sameUnder collation r.data.email email

/-- The data of a new user, unless a part is missing. -/
def bindUser (n : NewUser) : StoreResult UserData := do
  let fullname ← bindOption n.fullname
  let email ← bindOption n.email
  let password ← bindOption n.password
  let permissions ← bindWholeOption n.permissions
  match fullname, email, password, permissions with
  | some fullname, some email, some password, some permissions =>
    .ok ⟨fullname, email, password, permissions⟩
  | _, _, _, _ => .error .conflict

/-- Adds a user under a new id. -/
def createUser (s : Store) (id : String) (now : Instant) (n : NewUser) :
    StoreResult (Store × User) := do
  s.need "users"
  let data ← bindUser n
  if (s.users.any fun r => r.id == id) || s.emailClash id data.email then .error .conflict
  else
    .ok ({ s with users := s.users ++ [.newRow id data now] }, .newItem id data now)

/-- The user with an id. -/
def user? (s : Store) (id : Text) (deletedToo : Bool) : StoreResult (Option User) := do
  s.need "users"
  let id ← bind id
  readRow? (findRow? s.users deletedToo id)

/-- The user with an address in any ASCII case, the latest of them if there are several. -/
def userByEmail? (s : Store) (email : Text) (deletedToo : Bool) : StoreResult (Option User) := do
  s.need "users"
  let email ← bind email
  let found := (rowsFor s.users deletedToo).filter fun r => noCaseSame r.data.email email
  readRow? (newestFirst found).head?

/-- The users, oldest first. -/
def listUsers (s : Store) (deletedToo : Bool) : StoreResult (List User) := do
  s.need "users"
  readRows (oldestFirst (rowsFor s.users deletedToo))

def countUsers (s : Store) (deletedToo : Bool) : StoreResult Nat := do
  s.need "users"
  return (rowsFor s.users deletedToo).length

/-- A part after a change; none if it would be taken away. -/
def changedPart {β : Type} (old : β) : Option (Option β) → Option β
  | none => some old
  | some new => new

/-- A change on its way into the store. -/
def bindChange : Option (Option Text) → StoreResult (Option (Option String))
  | none => .ok none
  | some t => (bindOption t).map some

/-- Changes parts of a live user, and says whether there is one. Without changes it only looks. -/
def updateUser (s : Store) (id : Text) (now : Instant) (c : UserChanges) :
    StoreResult (Store × Bool) := do
  if c.isEmpty then
    let found ← s.user? id false
    return (s, found.isSome)
  s.need "users"
  let fullname ← bindChange c.fullname
  let email ← bindChange c.email
  let permissions ← (match c.permissions with
    | none => .ok none
    | some p => (bindWholeOption p).map some)
  let id ← bind id
  match findRow? s.users false id with
  | none => return (s, false)
  | some r =>
    match changedPart r.data.fullname fullname, changedPart r.data.email email,
      changedPart r.data.permissions permissions with
    | some fullname, some email, some permissions =>
      if s.emailClash id email then .error .conflict
      else
        let change := fun (u : UserData) => { u with fullname, email, permissions }
        return ({ s with users := reviseRow s.users id (revised now change) }, true)
    | _, _, _ => .error .conflict

/-- Gives a live user a new password hash, and says whether there is one. -/
def updatePassword (s : Store) (id : Text) (now : Instant) (password : Option Text) :
    StoreResult (Store × Bool) := do
  s.need "users"
  let password ← bindOption password
  let id ← bind id
  match findRow? s.users false id, password with
  | none, _ => return (s, false)
  | some _, none => .error .conflict
  | some _, some password =>
    let change := fun (u : UserData) => { u with password }
    return ({ s with users := reviseRow s.users id (revised now change) }, true)

/-- Deletes a live user, and says whether there was one. -/
def deleteUser (s : Store) (id : Text) (now : Instant) : StoreResult (Store × Bool) := do
  s.need "users"
  let id ← bind id
  match findRow? s.users false id with
  | none => return (s, false)
  | some _ => return ({ s with users := reviseRow s.users id (softDeleted now) }, true)

/-- Brings a deleted user back, and says whether there was one. -/
def restoreUser (s : Store) (id : Text) (now : Instant) : StoreResult (Store × Bool) := do
  s.need "users"
  let id ← bind id
  match findRow? s.users true id with
  | none => return (s, false)
  | some r =>
    if r.isLive then return (s, false)
    else if s.emailClash id r.data.email then .error .conflict
    else return ({ s with users := reviseRow s.users id (restored now) }, true)

end Store

end Pressroom
