import Pressroom.Service.Basic

/-!
Handlers for logging in and out, for the secret that guards writes, and for the password of the user
who is logged in.
-/
namespace Pressroom

namespace Service

open Web

/-- The longest address that a login looks at. -/
def loginEmailLimit : Int := 100

/-- The answer that names who is logged in. -/
def loggedIn (user : User) : Reply :=
  .json 200 (.ofFields [("success", .bool true), ("user", user.userRecord.publicJson)])

/-- The value of a field of a login: from a JSON object, else from a form. A field that is not there
is empty. -/
def loginField (r : Request) (name : String) : Json :=
  match r.object? with
  | some data => (data.get? name).getD (.string "")
  | none => .string ((r.form.lookup name).getD "")

/-- Logs in by address and password. Whoever is logged in already stays so. -/
def login (s : Service) (v : Visit) : Reply :=
  match s.sessionUser v.session with
  | some user => loggedIn user
  | none =>
    let email := (loginField v.request "email").clean loginEmailLimit
    let password := loginField v.request "password"
    if email.isEmpty || !password.truthy then .error 400 "Email and password are required"
    else match Account.authenticate s.store email password with
      | .error _ => .error 500 "Login failed"
      | .ok none => .error 401 "Invalid email or password"
      | .ok (some user) =>
        (loggedIn user).withSession (v.session.login user.id v.request.agent)

/-- Logs out. -/
def logout (s : Service) (v : Visit) : Reply :=
  match s.sessionUser v.session with
  | none => .success
  | some _ => Reply.success.withSession v.session.logout

/-- Gives the secret of the session, which is made up if there is none yet. -/
def csrfToken (s : Service) (v : Visit) : Service × Reply :=
  let answer := fun (secret : String) => Reply.json 200 (.ofFields [("csrf_token", .string secret)])
  match v.session.secret with
  | some secret => (s, answer secret)
  | none =>
    let secret := s.fresh.nextSecret
    ({ s with fresh := s.fresh.usedSecret },
      (answer secret).withSession { v.session with secret := some secret })

/-- Tells callers who they are and what they may do. -/
def whoami (s : Service) (v : Visit) : Reply :=
  match s.caller v with
  | .error reply => reply
  | .ok caller =>
    .json 200 (.ofFields [("user", caller.user.userRecord.publicJson),
      ("permissions", .list ((s.registry.namesFor caller.user.data.permissions).map .string)),
      ("via_api_key", .bool caller.byKey)])

/-- What a change of password asks for. -/
structure PasswordChange where
  current : Json
  new : Json
  confirm : Json

/-- Reads a change of password; fields that are not there are empty. -/
def readPasswordChange (r : Request) : PasswordChange :=
  let field := fun (name : String) => ((r.object?.getD .null).get? name).getD (.string "")
  ⟨field "current_password", field "new_password", field "confirm_password"⟩

/-- What is wrong with a change of password whoever asks for it. -/
def PasswordChange.fault? (c : PasswordChange) : Option String :=
  if !c.current.truthy || !c.new.truthy || !c.confirm.truthy then some "All fields are required"
  else if !c.new.same c.confirm then some "New passwords do not match"
  else match Check.password c.new with
    | .error complaint => some complaint.message
    | .ok () => none

/-- The answer when a change of password fails for a reason that nobody foresaw. -/
def passwordFailure : Reply := .error 500 "Failed to change password"

/-- Stores a new password for a user. -/
def storePassword (s : Service) (v : Visit) (user : User) (new : Json) : Service × Reply :=
  match new with
  | .text t =>
    match Password.hash t with
    | .error _ => (s, passwordFailure)
    | .ok hash =>
      match s.store.updatePassword (Text.ofString user.id) v.now (some (Text.ofString hash)) with
      | .error _ => (s, passwordFailure)
      | .ok (store, _) =>
        ({ s with store }, .json 200 (.ofFields [("success", .bool true),
          ("message", .string "Password changed successfully")]))
  | _ => (s, passwordFailure)

/-- Changes the password of the user who is logged in and knows the current one. -/
def changePassword (s : Service) (v : Visit) : Service × Reply :=
  match s.sessionUser v.session with
  | none => (s, .error 401 "Authentication required")
  | some user =>
    let change := readPasswordChange v.request
    match change.fault? with
    | some message => (s, .error 400 message)
    | none =>
      match change.current with
      | .text current =>
        if Password.check current user.data.password then s.storePassword v user change.new
        else (s, .error 400 "Current password is incorrect")
      | _ => (s, passwordFailure)

end Service

end Pressroom
