import Pressroom.Proofs.Access.Mediation

/-!
Writes that another page makes a client send. Such a page cannot read the secret of the session, so a
write on the authority of the session should carry it. It has to, unless the request presents a
token: then the secret is not asked for, whatever the token is, although logging out and changing the
password go by the session even so. `forges_iff` shows that this is the only gap.
-/
namespace Pressroom

open Web

namespace Web

/-- What `GET` leads to answers no method that writes. -/
theorem asked_answered : ∀ r ∈ Route.table, r.endpoint.isAsked = true →
    ∀ method ∈ Service.writeMethods, method ∉ r.answered := by
  decide +kernel

theorem find_write {path : List Char} {method id : String} {e : Endpoint}
    (h : find path method = .handler e id) (hwrite : method ∈ Service.writeMethods) :
    e.isAsked = false := by
  rw [Bool.eq_false_iff]
  intro hasked
  rcases find_handler h with ⟨rfl, hmethod⟩ | ⟨r, hr, rfl, hanswered⟩
  · have hapart : ∀ m ∈ fileMethods, m ∉ Service.writeMethods := by decide
    exact hapart method hmethod hwrite
  · exact asked_answered r hr hasked method hwrite hanswered

end Web

namespace Service

variable {s m : Service} {now : Instant} {r : Request} {e : Endpoint} {v : Visit}

/-- For whom the handler of a request acts, and whether by a key. Logging in and out and changing the
password go by the session; everything else goes by the key if one is presented. -/
def actor? (s : Service) (now : Instant) (r : Request) : Option Caller :=
  match s.arrival? now r with
  | none => none
  | some (_, e, v) =>
    match e with
    | .login | .logout | .changePassword => (s.sessionUser v.session).map fun user => ⟨user, false⟩
    | _ => (s.caller v).toOption

/-- Handling a request changes a table or the session of the client. -/
def Changes (s : Service) (now : Instant) (r : Request) : Prop :=
  (s.handle now r).1.store ≠ s.store ∨ (s.handle now r).2.cookie ≠ .keep

/-- Handling a request changes something on the authority of the session, and the request does not
carry the secret of the session. -/
def Forges (s : Service) (now : Instant) (r : Request) : Prop :=
  s.Changes now r ∧ (∃ user, s.actor? now r = some ⟨user, false⟩) ∧
    hasSecret r (Cookie.sessionAt r.cookie now) = false

/-- Whoever presents a key acts by the key. -/
theorem caller_byKey {token : String} {c : Caller}
    (htoken : v.request.headerFilled? keyHeader = some token) (h : s.caller v = .ok c) :
    c.byKey = true := by
  rw [caller, htoken] at h
  dsimp only at h
  split at h
  · cases h
  · split at h
    · cases h
    · cases h
    · cases h
    · cases h; rfl

theorem caller_not_by_session {token : String}
    (htoken : v.request.headerFilled? keyHeader = some token) (user : User) :
    (s.caller v).toOption ≠ some ⟨user, false⟩ := by
  intro h
  cases hc : s.caller v with
  | error reply => rw [hc] at h; cases h
  | ok c =>
    rw [hc] at h
    have hkey := caller_byKey htoken hc
    rw [Option.some.inj h] at hkey
    cases hkey

/-- A write without the secret gets to a handler only if it presents a token. -/
theorem arrival?_without_secret (hcsrf : s.policy.csrf = true) (hwrite : r.method ∈ writeMethods)
    (hlogin : ∀ id, find r.target.path r.method ≠ .handler .login id)
    (hsecret : hasSecret r (Cookie.sessionAt r.cookie now) = false)
    (h : s.arrival? now r = some (m, e, v)) : ∃ token, r.headerFilled? keyHeader = some token := by
  obtain ⟨-, -, -, hforged, hfound, -, -⟩ := arrival?_eq_some h
  cases htoken : r.headerFilled? keyHeader with
  | some token => exact ⟨token, rfl⟩
  | none =>
    have hother : isLogin (.handler e v.id) = false := by
      cases e <;> first | rfl | exact absurd hfound (hlogin v.id)
    have hneeds : needsSecret s.policy r (find r.target.path r.method) = true := by
      rw [needsSecret, hcsrf, htoken, hfound, hother]
      simpa using hwrite
    rw [forged?, hneeds, hsecret] at hforged
    cases hforged

/-- The handlers that go by the session although a token is presented. -/
def GoesBySession (e : Endpoint) : Prop := e = .logout ∨ e = .changePassword

/-- A write goes by the session although a token is presented only when logging out or changing the
password. -/
theorem goesBySession_of_actor (hwrite : r.method ∈ writeMethods)
    (hlogin : ∀ id, find r.target.path r.method ≠ .handler .login id) {token : String}
    (htoken : r.headerFilled? keyHeader = some token) (h : s.arrival? now r = some (m, e, v))
    {user : User} (hactor : s.actor? now r = some ⟨user, false⟩) : GoesBySession e := by
  have hfound := arrival?_found h
  have hasked := find_write hfound hwrite
  rw [actor?, h] at hactor
  dsimp only at hactor
  rw [← (arrival?_visit h).2.1] at htoken
  have hbyKey := caller_not_by_session (s := s) htoken user
  cases e
  case files | health | version | csrfToken | whoami | listPosts | trash | getPost | listUsers | getUser
      | listKeys => cases hasked
  case login => exact absurd hfound (hlogin v.id)
  case logout => exact .inl rfl
  case changePassword => exact .inr rfl
  all_goals exact absurd hactor hbyKey

theorem actor?_of_session (h : s.arrival? now r = some (m, e, v)) (he : GoesBySession e)
    {user : User} (huser : s.sessionUser (Cookie.sessionAt r.cookie now) = some user) :
    s.actor? now r = some ⟨user, false⟩ := by
  have hvisit : s.sessionUser v.session = some user := by
    rw [← huser, sessionUser, sessionUser, (arrival?_visit h).2.2]
  rw [actor?, h]
  rcases he with rfl | rfl <;> exact congrArg (Option.map _) hvisit

theorem logout_changes (h : s.arrival? now r = some (m, .logout, v)) {user : User}
    (huser : s.sessionUser (Cookie.sessionAt r.cookie now) = some user) : s.Changes now r := by
  have hvisit : m.sessionUser v.session = some user := by
    rw [← huser, sessionUser, sessionUser, (arrival?_visit h).2.2, (arrival?_same h).store]
  right
  rw [handle, answer_arrived h, dispatch, logout, hvisit]
  intro hkeep
  cases hkeep

/-- Where writes are to carry the secret of the session, a write other than a login changes something
on the authority of the session without it if and only if it presents a token, which may be any text,
and logs the client out or makes a change of its password that is carried out. -/
theorem forges_iff (hcsrf : s.policy.csrf = true) (hwrite : r.method ∈ writeMethods)
    (hlogin : ∀ id, find r.target.path r.method ≠ .handler .login id) :
    s.Forges now r ↔
      hasSecret r (Cookie.sessionAt r.cookie now) = false ∧
      (∃ token, r.headerFilled? keyHeader = some token) ∧
      ∃ m e v user, s.arrival? now r = some (m, e, v) ∧
        s.sessionUser (Cookie.sessionAt r.cookie now) = some user ∧
        (e = .logout ∨ e = .changePassword ∧ s.Changes now r) := by
  constructor
  · rintro ⟨hchanges, ⟨user, hactor⟩, hsecret⟩
    cases h : s.arrival? now r with
    | none => rw [actor?, h] at hactor; cases hactor
    | some arrival =>
      obtain ⟨m, e, v⟩ := arrival
      -- Only a token that is presented lets the write through, and few handlers ignore the token.
      obtain ⟨token, htoken⟩ := arrival?_without_secret hcsrf hwrite hlogin hsecret h
      have hsession := goesBySession_of_actor hwrite hlogin htoken h hactor
      have huser : s.sessionUser (Cookie.sessionAt r.cookie now) = some user := by
        have hmapped : (s.sessionUser v.session).map (fun user => (⟨user, false⟩ : Caller))
            = some ⟨user, false⟩ := by
          rw [← hactor, actor?, h]
          rcases hsession with rfl | rfl <;> rfl
        obtain ⟨found, hfound, hsame⟩ := Option.map_eq_some_iff.1 hmapped
        cases hsame
        rw [← hfound, sessionUser, sessionUser, (arrival?_visit h).2.2]
      refine ⟨hsecret, ⟨token, htoken⟩, m, e, v, user, rfl, huser, ?_⟩
      exact hsession.imp_right fun he => ⟨he, hchanges⟩
  · rintro ⟨hsecret, -, m, e, v, user, h, huser, hwhat⟩
    rcases hwhat with rfl | ⟨rfl, hchanges⟩
    · exact ⟨logout_changes h huser, ⟨user, actor?_of_session h (.inl rfl) huser⟩, hsecret⟩
    · exact ⟨hchanges, ⟨user, actor?_of_session h (.inr rfl) huser⟩, hsecret⟩

/-! ### A token that is none -/

/-- A request to log out with a token that is none and without the secret, sent by a client that the
first administrator is logged in with. -/
def forgedLogout : Request :=
  ⟨"POST", ⟨defaultHost, "/api/logout".toList, []⟩, [(keyHeader, "x")], false,
    some ⟨Session.empty.login (Fresh.idText 1) "", 0⟩, none⟩

theorem forgedLogout_arrives :
    ∃ first m v user, start (.ofProfile .production .standard) .standard "" 0 = .ok first ∧
      first.policy.csrf = true ∧ first.arrival? 0 forgedLogout = some (m, .logout, v) ∧
      first.sessionUser (Cookie.sessionAt forgedLogout.cookie 0) = some user := by
  obtain ⟨first, hstart, hcsrf, hfound, hknown⟩ :
      ∃ first, start (.ofProfile .production .standard) .standard "" 0 = .ok first ∧
        first.policy.csrf = true ∧
        (first.arrival? 0 forgedLogout).map (·.2.1) = some .logout ∧
        (first.sessionUser (Cookie.sessionAt forgedLogout.cookie 0)).isSome = true :=
    ⟨_, rfl, rfl, by decide +kernel, by decide +kernel⟩
  obtain ⟨⟨m, e, v⟩, harrival, rfl⟩ := Option.map_eq_some_iff.1 hfound
  obtain ⟨user, huser⟩ := Option.isSome_iff_exists.1 hknown
  exact ⟨first, m, v, user, hstart, hcsrf, harrival, huser⟩

theorem forgedLogout_is_write : forgedLogout.method ∈ writeMethods ∧
    (∀ id, find forgedLogout.target.path forgedLogout.method ≠ .handler .login id) ∧
    hasSecret forgedLogout (Cookie.sessionAt forgedLogout.cookie 0) = false := by
  have hfound : find forgedLogout.target.path forgedLogout.method = .handler .logout "" := by
    decide +kernel
  refine ⟨by decide, fun id h => ?_, by decide +kernel⟩
  cases hfound.symm.trans h

/-- The client is logged out on its own authority, although nothing shows that it wants to be. -/
theorem forges_logout :
    ∃ first, start (.ofProfile .production .standard) .standard "" 0 = .ok first ∧
      first.policy.csrf = true ∧ forgedLogout.method ∈ writeMethods ∧
      (∀ id, find forgedLogout.target.path forgedLogout.method ≠ .handler .login id) ∧
      first.Forges 0 forgedLogout := by
  obtain ⟨first, m, v, user, hstart, hcsrf, harrival, huser⟩ := forgedLogout_arrives
  obtain ⟨hwrite, hlogin, hsecret⟩ := forgedLogout_is_write
  exact ⟨first, hstart, hcsrf, hwrite, hlogin, logout_changes harrival huser,
    ⟨user, actor?_of_session harrival (.inl rfl) huser⟩, hsecret⟩

/-- The condition is met by that request. -/
theorem forges_iff_logout :
    ∃ first, start (.ofProfile .production .standard) .standard "" 0 = .ok first ∧
      first.policy.csrf = true ∧ forgedLogout.method ∈ writeMethods ∧
      (∃ token, forgedLogout.headerFilled? keyHeader = some token) ∧
      first.Forges 0 forgedLogout := by
  obtain ⟨first, m, v, user, hstart, hcsrf, harrival, huser⟩ := forgedLogout_arrives
  obtain ⟨hwrite, hlogin, hsecret⟩ := forgedLogout_is_write
  have htoken : ∃ token, forgedLogout.headerFilled? keyHeader = some token :=
    ⟨"x", by decide +kernel⟩
  exact ⟨first, hstart, hcsrf, hwrite, htoken, (forges_iff hcsrf hwrite hlogin).2
    ⟨hsecret, htoken, m, .logout, v, user, harrival, huser, .inl rfl⟩⟩

end Service

end Pressroom
