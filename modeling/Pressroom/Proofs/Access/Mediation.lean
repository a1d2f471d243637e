import Pressroom.Proofs.Service.Reach
import Pressroom.Proofs.Store.Lookup

/-!
The guard of the handlers. Every handler that asks for a permission first finds out who is asking: by
the token of a key if one is presented, else by the session. Whoever is not known or lacks the
permission is refused, and the refusal tells nothing of what was asked. So every change of the tables
is made by somebody who may make it.
-/
namespace Pressroom

open Web

/-- The permission that a handler asks for, if it asks for one. -/
def Web.Endpoint.permission? : Endpoint → Option String
  | .trash => some Service.viewPosts
  | .createPost | .updatePost | .deletePost | .restorePost => some Service.editPosts
  | .listUsers | .getUser | .createUser | .updateUser | .deleteUser | .listKeys | .createKey
  | .deleteKey => some Registry.adminName
  | _ => none

/-- The permission that a route asks for by its path and its methods: users and keys are for
administrators, the deleted posts for those who may view them, and the posts are open to everyone
who only reads. -/
def Web.Route.permission? (r : Route) : Option String :=
  match r.pieces with
  | .fixed "api" :: .fixed "users" :: _ | .fixed "api" :: .fixed "keys" :: _ =>
    some Registry.adminName
  | .fixed "posts" :: .fixed "trash" :: _ => some Service.viewPosts
  | .fixed "posts" :: _ => if r.methods = ["GET"] then none else some Service.editPosts
  | _ => none

theorem Web.Route.permission?_eq :
    ∀ r ∈ Route.table, r.endpoint.permission? = r.permission? := by
  decide +kernel

/-- Whether a mask carries the bit of a permission, or that of administrators. -/
def Registry.Allows (r : Registry) (mask : Int) (name : String) : Prop :=
  carries mask adminBit = true ∨ ∃ bit, r.bit? name = some bit ∧ carries mask bit = true

theorem Registry.allows_of_has {r : Registry} {mask : Int} {name : String}
    (h : r.has mask name = .ok true) : r.Allows mask name := by
  rw [has] at h
  split at h
  · rename_i hadmin; exact .inl hadmin
  · obtain ⟨bit, hbit, hcarries⟩ := map_eq_ok.1 h
    exact .inr ⟨bit, valueOf_eq_ok_iff.1 hbit, hcarries⟩

theorem Registry.has_eq_false {r : Registry} {mask : Int} {name : String}
    (hknown : ∃ bit, r.bit? name = some bit) (h : ¬ r.Allows mask name) :
    r.has mask name = .ok false := by
  obtain ⟨bit, hbit⟩ := hknown
  rw [Allows, not_or] at h
  have hlacks : ¬ carries mask bit = true := fun hcarries => h.2 ⟨bit, hbit, hcarries⟩
  rw [has, if_neg h.1, valueOf_eq_ok_iff.2 hbit]
  exact congrArg Except.ok (Bool.eq_false_iff.2 hlacks)

/-- A registry that knows the permissions of the handlers knows whatever a handler asks for. -/
theorem Registry.Standard.knows {r : Registry} (h : r.Standard) {e : Endpoint} {permission : String}
    (hguard : e.permission? = some permission) : ∃ bit, r.bit? permission = some bit := by
  cases e <;> cases hguard
  case trash => exact ⟨_, h.viewPosts⟩
  case createPost | updatePost | deletePost | restorePost => exact ⟨_, h.editPosts⟩
  all_goals exact ⟨_, h.admin⟩

/-- A token is only ever resolved to a live user of the store. -/
theorem Account.resolve_hasUser {s : Store} {token : String} {reached : Int → Bool} {user : User}
    (h : resolve s token reached = .ok (.ok user)) : s.HasUser user := by
  rw [resolve] at h
  split at h
  · cases h
  · split at h
    · cases h
    · cases h
    · split at h
      · cases h
      · rw [ownerOf] at h
        split at h
        · cases h
        · split at h
          · cases h
          · split at h
            · cases h
            · cases h
            · rename_i hfound; cases h; exact Store.userByEmail?_hasUser hfound

namespace Service

open Store

variable {s m : Service} {now : Instant} {r : Request} {e : Endpoint} {v : Visit}
  {permission : String}

/-! ### Who is asking -/

/-- Who is behind a request: the live owner of the key whose token it presents, or the live user of
the session if it presents none. -/
def sender? (s : Service) (now : Instant) (r : Request) : StoreResult (Option User) :=
  match r.headerFilled? keyHeader with
  | some token => (Account.resolve s.store token (Account.reachedAt now)).map Except.toOption
  | none => .ok (s.sessionUser (Cookie.sessionAt r.cookie now))

/-- What the guard makes of the sender: it lets the sender through, or refuses. -/
inductive Meets : StoreResult (Option User) → Except Reply Caller → Prop
  | known (user : User) (byKey : Bool) : Meets (.ok (some user)) (.ok ⟨user, byKey⟩)
  | unknown (reply : Reply) (h : reply.status = 401) : Meets (.ok none) (.error reply)
  | broken (fault : StoreFault) : Meets (.error fault) (.error .failure)

/-- The guard knows the sender and nobody else. -/
theorem caller_meets (hv : v.now = now ∧ v.request = r ∧
    v.session.user = (Cookie.sessionAt r.cookie now).user) :
    Meets (s.sender? now r) (s.caller v) := by
  obtain ⟨rfl, rfl, huser⟩ := hv
  have hsession : s.sessionUser (Cookie.sessionAt v.request.cookie v.now)
      = s.sessionUser v.session := by
    rw [sessionUser, sessionUser, huser]
  rw [sender?, caller, hsession]
  cases v.request.headerFilled? keyHeader with
  | none =>
    cases s.sessionUser v.session with
    | none => exact .unknown _ rfl
    | some user => exact .known user false
  | some token =>
    dsimp only
    by_cases hlike : (!Account.isTokenLike token) = true
    · rw [if_pos hlike, Account.resolve, if_pos hlike]
      exact .unknown _ rfl
    · rw [if_neg hlike]
      cases Account.resolve s.store token (Account.reachedAt v.now) with
      | error fault => exact .broken fault
      | ok answer =>
        cases answer with
        | error why => cases why <;> exact .unknown _ rfl
        | ok user => exact .known user true

/-- Whoever is behind a request is a live user of the store. -/
theorem sender?_hasUser {user : User} (h : s.sender? now r = .ok (some user)) :
    s.store.HasUser user := by
  rw [sender?] at h
  split at h
  · obtain ⟨answer, hanswer, huser⟩ := map_eq_ok.1 h
    cases answer with
    | error why => cases huser
    | ok found => cases huser; exact Account.resolve_hasUser hanswer
  · have h := Except.ok.inj h
    rw [sessionUser] at h
    split at h
    · cases h
    · split at h
      · rename_i hfound; cases h; exact user?_hasUser hfound
      · cases h

/-! ### Guarded handlers -/

/-- A handler that asks for a permission does nothing but what its guard lets through, and behind
the guard it looks neither at the cookie nor at the session. -/
theorem dispatch_guarded (s : Service) (h : e.permission? = some permission) :
    ∃ action : Visit → Caller → Service × Reply,
      (∀ v, s.dispatch e v = s.guarded v permission (action v)) ∧
      ∀ v cookie session,
        action { v with request := { v.request with cookie }, session } = action v := by
  cases e <;> cases h <;> exact ⟨_, fun _ => rfl, fun _ _ _ => rfl⟩

theorem permitted_same (h : SameButCounts s m) (v : Visit) (permission : String) :
    m.permitted v permission = s.permitted v permission := by
  simp only [permitted, caller, sessionUser, h.store, h.registry]

/-- The guard looks at the headers, the session and the clock, and at nothing else. -/
theorem permitted_congr {v v' : Visit} (hnow : v'.now = v.now)
    (hheaders : v'.request.headers = v.request.headers) (hsession : v'.session = v.session) :
    s.permitted v' permission = s.permitted v permission := by
  simp only [permitted, caller, sessionUser, Request.headerFilled?, Request.header?, hnow, hheaders,
    hsession]

section Permitted

variable (hv : v.now = now ∧ v.request = r ∧
  v.session.user = (Cookie.sessionAt r.cookie now).user)
include hv

theorem permitted_unknown (h : s.sender? now r = .ok none) (permission : String) :
    ∃ reply, s.permitted v permission = .error reply ∧ reply.status = 401 := by
  have hmeets := caller_meets (s := s) hv
  rw [h] at hmeets
  rw [permitted]
  generalize s.caller v = caller at hmeets
  cases hmeets with
  | unknown reply hstatus => exact ⟨reply, rfl, hstatus⟩

theorem permitted_lacking {user : User} (h : s.sender? now r = .ok (some user))
    (hlacks : s.registry.has user.data.permissions permission = .ok false) :
    ∃ reply, s.permitted v permission = .error reply ∧ reply.status = 403 := by
  have hmeets := caller_meets (s := s) hv
  rw [h] at hmeets
  rw [permitted]
  generalize s.caller v = caller at hmeets
  cases hmeets with
  | known user byKey =>
    dsimp only
    rw [hlacks]
    exact ⟨_, rfl, rfl⟩

theorem permitted_broken {fault : StoreFault} (h : s.sender? now r = .error fault)
    (permission : String) : s.permitted v permission = .error .failure := by
  have hmeets := caller_meets (s := s) hv
  rw [h] at hmeets
  rw [permitted]
  generalize s.caller v = caller at hmeets
  cases hmeets with
  | broken => rfl

/-- Whoever gets through the guard is the sender, and has the permission. -/
theorem permitted_granted {caller : Caller} (h : s.permitted v permission = .ok caller) :
    s.sender? now r = .ok (some caller.user) ∧
      s.registry.has caller.user.data.permissions permission = .ok true := by
  have hmeets := caller_meets (s := s) hv
  rw [permitted] at h
  generalize s.caller v = answer at hmeets h
  generalize s.sender? now r = sender at hmeets ⊢
  cases hmeets with
  | known user byKey =>
    dsimp only at h
    split at h
    · cases h
    · cases h
    · rename_i hgranted; cases h; exact ⟨rfl, hgranted⟩
  | unknown reply hstatus => cases h
  | broken fault => cases h

end Permitted

/-! ### Refusals -/

/-- A request for a handler is refused: the answer has this status, the tables are left alone, and
with any other target and content the answer of this handler would have been the same. -/
structure Refused (s : Service) (now : Instant) (r : Request) (e : Endpoint) (status : Nat) :
    Prop where
  status : (s.handle now r).2.status = status
  store : (s.handle now r).1.store = s.store
  blind : ∀ target content m v, s.arrival? now { r with target, content } = some (m, e, v) →
    (s.handle now { r with target, content }).2 = (s.handle now r).2

/-- What the guard does not let through is refused. -/
theorem refused_of_permitted (harrival : s.arrival? now r = some (m, e, v))
    (hguard : e.permission? = some permission) {reply : Reply}
    (h : s.permitted v permission = .error reply) : s.Refused now r e reply.status := by
  have hdispatch : ∀ {m v}, SameButCounts s m → s.permitted v permission = .error reply →
      m.dispatch e v = (m, reply) := by
    intro m v hsame h
    obtain ⟨action, haction, -⟩ := dispatch_guarded m hguard
    rw [haction, guarded, permitted_same hsame, h]
  have hsame := arrival?_same harrival
  have hmine := hdispatch hsame h
  obtain ⟨hleft, hstatus⟩ := handle_arrived harrival
  refine ⟨by rw [hstatus, hmine], by rw [hleft, hmine]; exact hsame.store, ?_⟩
  intro target content m' v' harrival'
  have hsame' := arrival?_same harrival'
  obtain ⟨hnow, hrequest, -⟩ := arrival?_visit harrival
  obtain ⟨hnow', hrequest', -⟩ := arrival?_visit harrival'
  have hsession : v'.session = v.session :=
    (arrival?_session harrival').trans (arrival?_session harrival).symm
  have htheirs := hdispatch hsame' ((permitted_congr (hnow'.trans hnow.symm)
    (by rw [hrequest', hrequest]) hsession).trans h)
  rw [handle, handle, answer_arrived harrival, answer_arrived harrival', hmine, htheirs, hsession]
  dsimp only
  rw [hsame.policy, hsame'.policy]
  rfl

/-! ### Requests with a key -/

theorem forged?_of_key {token : String} (h : r.headerFilled? keyHeader = some token) (p : Policy)
    (found : Found) (session : Session) : forged? p r found session = none := by
  rw [forged?, needsSecret, h]
  simp

theorem looksAtSession_of_key {token : String} (h : r.headerFilled? keyHeader = some token)
    (hguard : e.permission? = some permission) : looksAtSession e r = false := by
  cases e <;> cases hguard <;> simp only [looksAtSession, h] <;> rfl

/-- With a key, whatever cookie comes along makes no difference. -/
theorem handle_cookie (harrival : s.arrival? now r = some (m, e, v))
    (hguard : e.permission? = some permission) {token : String}
    (htoken : r.headerFilled? keyHeader = some token) (cookie : Option Cookie) :
    s.handle now { r with cookie } = s.handle now r := by
  -- With a key no guard on the way asks for the session, so the request arrives with any cookie.
  obtain ⟨counted, hcount, hsecure, -, hfound, hlogin, hv⟩ := arrival?_eq_some harrival
  have htoken' : ({ r with cookie } : Request).headerFilled? keyHeader = some token := htoken
  have harrival' := arrival?_of_found (r := { r with cookie }) hcount hsecure
    (forged?_of_key htoken' ..) hfound hlogin
  rw [looksAtSession_of_key htoken' hguard, if_neg Bool.false_ne_true] at harrival'
  rw [looksAtSession_of_key htoken hguard, if_neg Bool.false_ne_true] at hv
  -- Neither the guard of the handler nor what is behind it looks at the session then.
  obtain ⟨action, haction, hblind⟩ := dispatch_guarded m hguard
  have hpermitted : m.permitted ⟨now, { r with cookie }, Cookie.sessionAt cookie now, v.id⟩ permission
      = m.permitted v permission := by
    rw [hv, permitted, permitted, caller, caller]
    dsimp only
    rw [htoken, htoken']
  have hdispatch : m.dispatch e ⟨now, { r with cookie }, Cookie.sessionAt cookie now, v.id⟩
      = m.dispatch e v := by
    rw [haction, haction, guarded, guarded, hpermitted, ← hblind v cookie (Cookie.sessionAt cookie now),
      hv]
  have hsession : v.session = Cookie.sessionAt r.cookie now := by rw [hv]
  rw [handle, handle, answer_arrived harrival, answer_arrived harrival', hdispatch, hsession]
  dsimp only
  rw [withSeen_self, withSeen_self]
  rfl

/-! ### Changes -/

/-- Somebody who may do what the handler of a request does is behind the request. -/
def Authorized (s : Service) (now : Instant) (r : Request) : Prop :=
  ∃ m e v permission user, s.arrival? now r = some (m, e, v) ∧ e.permission? = some permission ∧
    s.sender? now r = .ok (some user) ∧ s.store.HasUser user ∧
    s.registry.Allows user.data.permissions permission

/-- The user of the session has changed the own password, and nothing else has happened. -/
def ChangesOwnPassword (s : Service) (now : Instant) (r : Request) (s' : Store) : Prop :=
  ∃ m v user row password, s.arrival? now r = some (m, .changePassword, v) ∧
    s.sessionUser (Cookie.sessionAt r.cookie now) = some user ∧
    findRow? s.store.users false row.id = some row ∧ user.id = row.id ∧
    s' = { s.store with
      users := reviseRow s.store.users row.id (revised now fun u => { u with password }) }

theorem dispatch_unguarded (hguard : e.permission? = none) (he : e ≠ .changePassword) (s : Service)
    (v : Visit) : (s.dispatch e v).1.store = s.store := by
  cases e <;> cases hguard
  case files | health | version | csrfToken | whoami | listPosts | getPost =>
    exact asked_store rfl s v
  case login | logout => rfl
  case changePassword => exact absurd rfl he

theorem guarded_changes (harrival : s.arrival? now r = some (m, e, v))
    (hguard : e.permission? = some permission) :
    (m.dispatch e v).1.store = s.store ∨ s.Authorized now r := by
  have hsame := arrival?_same harrival
  obtain ⟨action, haction, -⟩ := dispatch_guarded m hguard
  cases hpermitted : s.permitted v permission with
  | error reply =>
    left
    rw [haction, guarded, permitted_same hsame, hpermitted]
    exact hsame.store
  | ok caller =>
    right
    obtain ⟨hsender, hgranted⟩ := permitted_granted (arrival?_visit harrival) hpermitted
    exact ⟨m, e, v, permission, caller.user, harrival, hguard, hsender, sender?_hasUser hsender,
      Registry.allows_of_has hgranted⟩

theorem changePassword_changes (harrival : s.arrival? now r = some (m, .changePassword, v)) :
    (m.changePassword v).1.store = s.store ∨
      s.ChangesOwnPassword now r (m.changePassword v).1.store := by
  have hsame := arrival?_same harrival
  obtain ⟨hnow, -, hsession⟩ := arrival?_visit harrival
  cases hchange : m.changePassword v with
  | mk t reply =>
    rcases changePassword_eq hchange with rfl | ⟨user, row, password, huser, hrow, hid, rfl, -⟩
    · exact .inl hsame.store
    · refine .inr ⟨m, v, user, row, password, harrival, ?_, ?_, hid, ?_⟩
      · rw [← huser, sessionUser, sessionUser, hsession, hsame.store]
      · rw [← hsame.store]; exact hrow
      · rw [← hnow, ← hsame.store]

theorem handle_changes (s : Service) (now : Instant) (r : Request) :
    (s.handle now r).1.store = s.store ∨ s.Authorized now r ∨
      s.ChangesOwnPassword now r (s.handle now r).1.store := by
  cases harrival : s.arrival? now r with
  | none => exact .inl (handle_turned_away harrival).store
  | some arrival =>
    obtain ⟨m, e, v⟩ := arrival
    rw [(handle_arrived harrival).1]
    cases hguard : e.permission? with
    | some permission => exact (guarded_changes harrival hguard).imp_right .inl
    | none =>
      by_cases he : e = .changePassword
      · subst he; exact (changePassword_changes harrival).imp_right .inr
      · left; rw [dispatch_unguarded hguard he]; exact (arrival?_same harrival).store

/-! ### Mediation -/

/-- A route that asks for a permission answers nobody who lacks it: a sender who is not known is
refused with 401, and one who is known but lacks the permission with 403, whatever the request asks
for; with a key the cookie makes no difference. So every change of the tables is made by somebody
who may make it, apart from users who change their own password. -/
theorem guards_mediate (hknown : s.registry.Standard) (now : Instant) (r : Request) :
    (∀ route ∈ Route.table, ∀ permission, route.permission? = some permission →
      ∀ m v, s.arrival? now r = some (m, route.endpoint, v) →
        (∀ token cookie, r.headerFilled? keyHeader = some token →
          s.handle now { r with cookie } = s.handle now r) ∧
        (s.sender? now r = .ok none → s.Refused now r route.endpoint 401) ∧
        (∀ user, s.sender? now r = .ok (some user) → s.store.HasUser user ∧
          (¬ s.registry.Allows user.data.permissions permission →
            s.Refused now r route.endpoint 403)) ∧
        ∀ fault, s.sender? now r = .error fault → s.Refused now r route.endpoint 500) ∧
    ((s.handle now r).1.store = s.store ∨ s.Authorized now r ∨
      s.ChangesOwnPassword now r (s.handle now r).1.store) := by
  refine ⟨fun route hroute permission hpermission m v harrival => ?_, handle_changes s now r⟩
  have hguard := (Route.permission?_eq route hroute).trans hpermission
  have hv := arrival?_visit harrival
  refine ⟨fun token cookie htoken => handle_cookie harrival hguard htoken cookie, fun h => ?_,
    fun user h => ⟨sender?_hasUser h, fun hdenied => ?_⟩, fun fault h => ?_⟩
  · obtain ⟨reply, hpermitted, hstatus⟩ := permitted_unknown hv h permission
    exact hstatus ▸ refused_of_permitted harrival hguard hpermitted
  · have hlacks := Registry.has_eq_false (hknown.knows hguard) hdenied
    obtain ⟨reply, hpermitted, hstatus⟩ := permitted_lacking hv h hlacks
    exact hstatus ▸ refused_of_permitted harrival hguard hpermitted
  · exact refused_of_permitted harrival hguard (permitted_broken hv h permission)

/-- Nobody deletes a post without saying who they are. -/
theorem guards_mediate_stranger :
    ∃ first, start (.ofProfile .testing .standard) .standard "" 0 = .ok first ∧
      first.registry.Standard ∧ first.Refused 0 (strangerRequest "DELETE") .deletePost 401 := by
  obtain ⟨first, hstart, hfound, hsender⟩ :
      ∃ first, start (.ofProfile .testing .standard) .standard "" 0 = .ok first ∧
        (first.arrival? 0 (strangerRequest "DELETE")).map (·.2.1) = some .deletePost ∧
        first.sender? 0 (strangerRequest "DELETE") = .ok none :=
    ⟨_, rfl, by decide +kernel, rfl⟩
  have hknown := (start_sound inEra_zero hstart).registry
  have hroute : ⟨[.fixed "posts", .id], ["DELETE"], .deletePost⟩ ∈ Route.table := by
    simp [Route.table]
  obtain ⟨⟨m, e, v⟩, harrival, rfl⟩ := Option.map_eq_some_iff.1 hfound
  obtain ⟨-, hrefused, -⟩ :=
    (guards_mediate hknown 0 _).1 _ hroute Service.editPosts (by decide +kernel) m v harrival
  exact ⟨first, hstart, hknown, hrefused hsender⟩

end Service

end Pressroom
