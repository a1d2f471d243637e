import Pressroom.Service.Handle
import Pressroom.Proofs.Result

/-!
Logging in. A login finds somebody logged in already, refuses without touching the session, or finds
the live user whose address and password were sent and starts a session for that user; nothing else
answers with success.
-/
namespace Pressroom

open Web

/-- Somebody is authenticated by an address that is stored and the password that belongs to it. -/
theorem Account.authenticate_eq_ok {s : Store} {email : Text} {password : Json} {user : User} :
    authenticate s email password = .ok (some user) ↔
      s.userByEmail? email false = .ok (some user) ∧
        ∃ p, password = .text p ∧ Password.check p user.data.password = true := by
  rw [authenticate]
  cases s.userByEmail? email false with
  | error f => exact ⟨(nomatch ·), fun h => nomatch h.1⟩
  | ok found =>
    cases found with
    | none => exact ⟨(nomatch ·), fun h => nomatch h.1⟩
    | some x =>
      dsimp only
      constructor
      · intro h
        split at h
        · rename_i p
          split at h
          · rename_i hright; cases h; exact ⟨rfl, p, rfl, hright⟩
          · cases h
        · cases h
      · rintro ⟨hx, p, rfl, hright⟩
        cases hx
        dsimp only
        rw [if_pos hright]

namespace Service

variable {s : Service} {v : Visit} {r : Request} {user : User}

/-- The address that a login looks for. -/
def loginEmail (r : Request) : Text := (loginField r "email").clean loginEmailLimit

theorem loginField_object {data : Json} (h : r.object? = some data) (name : String) :
    loginField r name = (data.get? name).getD (.string "") := by
  rw [loginField, h]

theorem sessionUser_none {session : Session} (h : session.user = none) :
    s.sessionUser session = none := by
  rw [sessionUser, h]

/-- How a login can end. -/
inductive LoginEnds (s : Service) (v : Visit) : Reply → Prop
  | already (user : User) (h : s.sessionUser v.session = some user) : LoginEnds s v (loggedIn user)
  | refused (reply : Reply) (unknown : s.sessionUser v.session = none) (h : reply.status ≠ 200)
      (session : reply.session = none) : LoginEnds s v reply
  | known (user : User) (unknown : s.sessionUser v.session = none)
      (h : Account.authenticate s.store (loginEmail v.request) (loginField v.request "password")
        = .ok (some user)) :
      LoginEnds s v ((loggedIn user).withSession (v.session.login user.id v.request.agent))

theorem login_ends (s : Service) (v : Visit) : LoginEnds s v (s.login v) := by
  rw [login]
  split
  · rename_i user h; exact .already user h
  · rename_i hnone
    dsimp only
    split
    · exact .refused _ hnone (by decide) rfl
    · split
      · exact .refused _ hnone (by decide) rfl
      · exact .refused _ hnone (by decide) rfl
      · rename_i user h; exact .known user hnone h

/-- The answer to an address and a password, by what becomes of them. -/
def loginAnswer (v : Visit) : Except Account.LoginFault (Option User) → Reply
  | .error _ => .error 500 "Login failed"
  | .ok none => .error 401 "Invalid email or password"
  | .ok (some user) => (loggedIn user).withSession (v.session.login user.id v.request.agent)

theorem login_sent (hnone : s.sessionUser v.session = none) (hemail : loginEmail v.request ≠ [])
    (hpassword : (loginField v.request "password").truthy = true) :
    s.login v = loginAnswer v
      (Account.authenticate s.store (loginEmail v.request) (loginField v.request "password")) := by
  have hsent : ¬ ((loginEmail v.request).isEmpty ||
      !(loginField v.request "password").truthy) = true := by
    simp only [hpassword, Bool.not_true, Bool.or_false, List.isEmpty_iff]
    exact hemail
  rw [login, hnone]
  exact if_neg hsent

/-- Whoever sends an address and the password that belongs to it is logged in. -/
theorem login_known (hnone : s.sessionUser v.session = none) (hemail : loginEmail v.request ≠ [])
    (hpassword : (loginField v.request "password").truthy = true)
    (h : Account.authenticate s.store (loginEmail v.request) (loginField v.request "password")
      = .ok (some user)) :
    s.login v = (loggedIn user).withSession (v.session.login user.id v.request.agent) := by
  rw [login_sent hnone hemail hpassword, h, loginAnswer]

/-- A login finds nobody logged in, is sent an address and a password, and by these it authenticates
a user. -/
structure Authenticates (s : Service) (v : Visit) (user : User) : Prop where
  unknown : s.sessionUser v.session = none
  email : loginEmail v.request ≠ []
  password : (loginField v.request "password").truthy = true
  found : Account.authenticate s.store (loginEmail v.request) (loginField v.request "password")
    = .ok (some user)

theorem Authenticates.answer (h : s.Authenticates v user) :
    s.login v = (loggedIn user).withSession (v.session.login user.id v.request.agent) :=
  login_known h.unknown h.email h.password h.found

/-- A login starts a session only for a user whom it authenticates. -/
theorem authenticates_of_session {session : Session} (h : (s.login v).session = some session) :
    ∃ user, s.Authenticates v user ∧ session = v.session.login user.id v.request.agent := by
  rw [login] at h
  split at h
  · cases h
  · rename_i hnone
    dsimp only at h
    split at h
    · cases h
    · rename_i hsent
      simp only [Bool.or_eq_true, not_or, Bool.not_eq_true', Bool.not_eq_false,
        List.isEmpty_iff] at hsent
      split at h
      · cases h
      · cases h
      · rename_i user hfound
        exact ⟨user, ⟨hnone, hsent.1, hsent.2, hfound⟩, (Option.some.inj h).symm⟩

/-- An address that no live user has is refused. -/
theorem login_unknown (hnone : s.sessionUser v.session = none) (hemail : loginEmail v.request ≠ [])
    (hpassword : (loginField v.request "password").truthy = true)
    (h : s.store.userByEmail? (loginEmail v.request) false = .ok none) :
    s.login v = .error 401 "Invalid email or password" := by
  rw [login_sent hnone hemail hpassword, Account.authenticate, h, loginAnswer]

end Service

end Pressroom
