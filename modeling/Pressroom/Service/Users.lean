import Pressroom.Service.Basic
import Pressroom.Check.Field

/-!
Handlers for users. All of them are for administrators.
-/
namespace Pressroom

namespace Service

open Web

def userReply (status : Nat) (u : User) : Reply := .json status u.userRecord.publicJson

def userNotFound : Reply := .error 404 "User not found"

def emailInUse : Reply := .error 409 "Email is already in use"

/-- The words that a parameter can be switched on with. -/
def isYes (word : String) : Bool := ["1", "true", "yes"].contains (lowerCase word)

/-- The users, with the deleted ones if they are wanted. -/
def listUsers (s : Service) (v : Visit) : Service × Reply :=
  s.guarded v Registry.adminName fun _ =>
    let deletedToo := isYes ((v.request.query.lookup "include_deleted").getD "")
    match s.store.listUsers deletedToo with
    | .error _ => (s, .failure)
    | .ok users => (s, .json 200 (.list (users.map fun u => u.userRecord.publicJson)))

/-- A live user. -/
def getUser (s : Service) (v : Visit) : Service × Reply :=
  s.guarded v Registry.adminName fun _ =>
    match s.store.user? v.key false with
    | .error _ => (s, .failure)
    | .ok none => (s, userNotFound)
    | .ok (some u) => (s, userReply 200 u)

/-- A name as it is stored: texts are cleaned. One code point more than allowed is kept so that the
check can see it. -/
def tidyName : Json → Json
  | .text t => .text (t.clean (Check.fullnameMax + 1))
  | v => v

/-- An address as it is stored: without the white space around it. -/
def tidyEmail : Json → Json
  | .text t => .text (Text.strip t)
  | v => v

/-- The text in a value that has been checked to be one. -/
def textOf : Json → Text
  | .text t => t
  | _ => []

/-- The number in a value that has been checked to be one. -/
def wholeOf : Json → Int
  | .whole n => n
  | _ => 0

/-- What a new user is to be. -/
structure NewAccount where
  fullname : Text
  email : Text
  password : Text
  permissions : Int
  deriving DecidableEq

/-- Reads and checks what a new user is to be. -/
def readAccount (data : Json) : Except Complaint NewAccount := do
  Check.requiredFields data ["Fullname", "Email", "Password"]
  let fullname := tidyName (data.getD "Fullname")
  let email := tidyEmail (data.getD "Email")
  let password := data.getD "Password"
  let permissions := (data.get? "Permissions").getD (.whole 0)
  Check.fullname fullname
  Check.email email
  Check.password password
  Check.permissions permissions
  return ⟨textOf fullname, textOf email, textOf password, wholeOf permissions⟩

/-- Whether a live user other than the one with this id has an address. -/
def emailTaken (s : Store) (email : Text) (except : Option String) : StoreResult Bool :=
  (s.userByEmail? email false).map fun found =>
    match found with
    | none => false
    | some u => some u.id != except

/-- Adds a user with a hashed password. -/
def addAccount (s : Service) (v : Visit) (a : NewAccount) : Service × Reply :=
  let failed := Reply.error 500 "Failed to create user"
  match Password.hash a.password with
  | .error _ => (s, failed)
  | .ok hash =>
    match s.addUser v.now
      ⟨some a.fullname, some a.email, some (Text.ofString hash), some a.permissions⟩ with
    | (s, .error .conflict) => (s, emailInUse)
    | (s, .error _) => (s, failed)
    | (s, .ok user) => (s, userReply 201 user)

/-- Adds a user. -/
def createUser (s : Service) (v : Visit) : Service × Reply :=
  s.guarded v Registry.adminName fun _ =>
    match v.request.object? with
    | none => (s, notObject)
    | some data =>
      match readAccount data with
      | .error c => (s, refusal c)
      | .ok account =>
        match emailTaken s.store account.email none with
        | .error _ => (s, .failure)
        | .ok true => (s, emailInUse)
        | .ok false => s.addAccount v account

/-- Why the changes of a user are refused. -/
inductive ChangeFault where
  | complaint (c : Complaint)
  | emailInUse
  | nothing
  | store

def ChangeFault.reply : ChangeFault → Reply
  | complaint c => refusal c
  | emailInUse => Service.emailInUse
  | nothing => .error 400 "No updatable fields supplied"
  | store => .failure

/-- A change of the name: none if it is not sent. -/
def readName (data : Json) : Except ChangeFault (Option (Option Text)) :=
  match data.get? "Fullname" with
  | none => .ok none
  | some v =>
    match Check.fullname (tidyName v) with
    | .error c => .error (.complaint c)
    | .ok () => .ok (some (some (textOf (tidyName v))))

/-- A change of the address of the user with an id. -/
def readEmail (s : Store) (id : String) (data : Json) : Except ChangeFault (Option (Option Text)) :=
  match data.get? "Email" with
  | none => .ok none
  | some v =>
    match Check.email (tidyEmail v) with
    | .error c => .error (.complaint c)
    | .ok () =>
      let email := textOf (tidyEmail v)
      match emailTaken s email (some id) with
      | .error _ => .error .store
      | .ok true => .error .emailInUse
      | .ok false => .ok (some (some email))

/-- A change of the permissions. -/
def readPermissions (data : Json) : Except ChangeFault (Option (Option Int)) :=
  match data.get? "Permissions" with
  | none => .ok none
  | some v =>
    match Check.permissions v with
    | .error c => .error (.complaint c)
    | .ok () => .ok (some (some (wholeOf v)))

/-- A new password: none if it is not sent or null. -/
def readPassword (data : Json) : Except ChangeFault (Option Text) :=
  let v := data.getD "Password"
  if v.isNull then .ok none
  else match Check.password v with
    | .error c => .error (.complaint c)
    | .ok () => .ok (some (textOf v))

/-- The changes of a user and the new password, all of them fit. -/
def readUserChanges (s : Store) (id : String) (data : Json) :
    Except ChangeFault (UserChanges × Option Text) := do
  let fullname ← readName data
  let email ← readEmail s id data
  let permissions ← readPermissions data
  let password ← readPassword data
  let changes : UserChanges := ⟨fullname, email, permissions⟩
  if changes.isEmpty && password.isNone then .error .nothing
  return (changes, password)

/-- Why changes that are fit cannot be stored. -/
def storeFailure : StoreFault → Reply
  | .conflict => emailInUse
  | _ => .error 500 "Failed to update user"

/-- Stores the changes of a user, if there are any. -/
def storeChanges (s : Store) (v : Visit) (changes : UserChanges) : Except Reply Store :=
  if changes.isEmpty then .ok s
  else match s.updateUser v.key v.now changes with
    | .error f => .error (storeFailure f)
    | .ok (s, _) => .ok s

/-- Stores a new password, if there is one. -/
def storeNewPassword (s : Store) (v : Visit) (password : Option Text) : Except Reply Store :=
  match password with
  | none => .ok s
  | some password =>
    match Password.hash password with
    | .error _ => .error (.error 500 "Failed to update user")
    | .ok hash =>
      match s.updatePassword v.key v.now (some (Text.ofString hash)) with
      | .error f => .error (storeFailure f)
      | .ok (s, _) => .ok s

/-- Changes a live user. The password comes last, so the other changes stay when it cannot be
stored. -/
def changeUser (s : Service) (v : Visit) (data : Json) : Service × Reply :=
  match readUserChanges s.store v.id data with
  | .error f => (s, f.reply)
  | .ok (changes, password) =>
    match storeChanges s.store v changes with
    | .error reply => (s, reply)
    | .ok store =>
      let s := { s with store }
      match storeNewPassword store v password with
      | .error reply => (s, reply)
      | .ok store =>
        let s := { s with store }
        match store.user? v.key false with
        | .ok (some u) => (s, userReply 200 u)
        | _ => (s, .failure)

/-- Changes the parts of a live user that are sent. -/
def updateUser (s : Service) (v : Visit) : Service × Reply :=
  s.guarded v Registry.adminName fun _ =>
    match v.request.object? with
    | none => (s, notObject)
    | some data =>
      match s.store.user? v.key false with
      | .error _ => (s, .failure)
      | .ok none => (s, userNotFound)
      | .ok (some _) => s.changeUser v data

/-- Deletes a live user other than the caller. -/
def deleteUser (s : Service) (v : Visit) : Service × Reply :=
  s.guarded v Registry.adminName fun caller =>
    if v.id = caller.user.id then (s, .error 400 "You cannot delete your own account")
    else match s.store.deleteUser v.key v.now with
      | .error _ => (s, .failure)
      | .ok (_, false) => (s, userNotFound)
      | .ok (store, true) => ({ s with store }, .success)

end Service

end Pressroom
