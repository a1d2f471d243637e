import Pressroom.Service.Run
import Pressroom.Proofs.Service.Arrival
import Pressroom.Proofs.Service.Effect
import Pressroom.Proofs.Service.Login

/-!
What becomes of a session. Three handlers send one back: logging in puts a user into it, logging out
takes the user out, and the secret that guards writes leaves the user alone. So the user whom the
cookie of a client names changes by a login that authenticates another, or goes away.
-/
namespace Pressroom

open Web

/-- The handlers that send a session back. -/
def Web.Endpoint.sendsSession : Endpoint → Bool
  | .login | .logout | .csrfToken => true
  | _ => false

namespace Service

open Store

variable {s m : Service} {now : Instant} {r : Request} {e : Endpoint} {v : Visit}

/-! ### Answers without a session -/

theorem guarded_session {permission : String} {action : Caller → Service × Reply}
    (h : ∀ caller, (action caller).2.session = none) :
    (s.guarded v permission action).2.session = none :=
  guarded_cases (motive := fun r => r.2.session = none)
    (fun _ hrefused => (permitted_refuses hrefused).session) fun caller _ => h caller

theorem storePassword_session (user : User) (new : Json) :
    (s.storePassword v user new).2.session = none := by
  cases new with
  | text new =>
    rw [storePassword]
    repeat' split
    all_goals rfl
  | _ => rfl

theorem changePassword_session : (s.changePassword v).2.session = none := by
  rw [changePassword]
  split
  · rfl
  · dsimp only
    repeat' split
    all_goals first | rfl | exact storePassword_session _ _

theorem storeFailure_session (f : StoreFault) : (storeFailure f).session = none := by
  cases f <;> rfl

theorem storeChanges_session {store : Store} {changes : UserChanges} {reply : Reply}
    (h : storeChanges store v changes = .error reply) : reply.session = none := by
  rw [storeChanges] at h
  split at h
  · cases h
  · split at h <;> cases h
    exact storeFailure_session _

theorem storeNewPassword_session {store : Store} {password : Option Text} {reply : Reply}
    (h : storeNewPassword store v password = .error reply) : reply.session = none := by
  cases password with
  | none => cases h
  | some password =>
    rw [storeNewPassword] at h
    split at h
    · cases h; rfl
    · split at h <;> cases h
      exact storeFailure_session _

theorem changeUser_session (data : Json) : (s.changeUser v data).2.session = none := by
  rw [changeUser]
  split
  · rename_i f _; cases f <;> rfl
  · split
    · rename_i h; exact storeChanges_session h
    · dsimp only
      split
      · rename_i h; exact storeNewPassword_session h
      · split <;> rfl

/-- The handlers other than these three send none. -/
theorem dispatch_session_none (he : e.sendsSession = false) :
    (s.dispatch e v).2.session = none := by
  cases e <;> try cases he
  case files => rfl
  case health => rw [dispatch, health]; dsimp only; split <;> rfl
  case version => rfl
  case whoami =>
    rw [dispatch, whoami]
    dsimp only
    split
    · rename_i hrefused; exact (caller_refuses hrefused).session
    · rfl
  case changePassword => exact changePassword_session
  case listUsers => exact guarded_session fun _ => by dsimp only; split <;> rfl
  case listKeys => exact guarded_session fun _ => by dsimp only; split <;> rfl
  case listPosts => rw [dispatch, listPosts]; dsimp only; split <;> rfl
  case getPost => rw [dispatch, getPost]; split <;> rfl
  case createUser =>
    refine guarded_session fun _ => ?_
    split
    · rfl
    · split
      · rfl
      · split
        · rfl
        · rfl
        · rw [addAccount]
          repeat' split
          all_goals rfl
  case updateUser =>
    refine guarded_session fun _ => ?_
    repeat' split
    all_goals first | rfl | exact changeUser_session _
  case createKey =>
    refine guarded_session fun _ => ?_
    split
    · rename_i h; exact (readNewKey_eq_error h).1
    · split <;> rfl
  all_goals
    refine guarded_session fun _ => ?_
    repeat' split
    all_goals rfl

/-! ### The user of a session -/

/-- A session that is sent back names the user of the session that came, or nobody, or whom a login
has authenticated. -/
theorem dispatch_session_user {session : Session} (h : (s.dispatch e v).2.session = some session) :
    session.user = none ∨ session.user = v.session.user ∨
      e = .login ∧ ∃ user, s.Authenticates v user ∧ session.user = some user.id := by
  by_cases he : e.sendsSession = false
  · rw [dispatch_session_none he] at h; cases h
  · cases e <;> try exact absurd rfl he
    case login =>
      obtain ⟨user, hauth, rfl⟩ := authenticates_of_session h
      exact .inr (.inr ⟨rfl, user, hauth, rfl⟩)
    case logout =>
      rw [dispatch, logout] at h
      dsimp only at h
      split at h <;> cases h
      exact .inl rfl
    case csrfToken =>
      rw [dispatch, csrfToken] at h
      dsimp only at h
      split at h <;> cases h
      exact .inr (.inl rfl)

/-- The session of a request is that of its cookie, or an empty one. -/
theorem sessionAt_cases (cookie : Option Cookie) (now : Instant) :
    Cookie.sessionAt cookie now = .empty ∨
      ∃ c, cookie = some c ∧ Cookie.sessionAt cookie now = c.session := by
  cases cookie with
  | none => exact .inl rfl
  | some c =>
    rw [Cookie.sessionAt]
    split
    · exact .inr ⟨c, rfl, rfl⟩
    · exact .inl rfl

theorem sessionAt_user (cookie : Option Cookie) (now : Instant) :
    (Cookie.sessionAt cookie now).user = none ∨
      (Cookie.sessionAt cookie now).user = cookie.bind (·.session.user) := by
  obtain h | ⟨c, rfl, h⟩ := sessionAt_cases cookie now
  · rw [h]; exact .inl rfl
  · rw [h]; exact .inr rfl

/-- Looking for its user leaves an empty session empty. -/
theorem look_empty (agent : String) : Session.empty.look agent = .empty := rfl

theorem issue_user (session : Session) (now : Instant) :
    (Cookie.issue session now).bind (·.session.user) = session.user := by
  rw [Cookie.issue]
  split
  · rename_i h; rw [h]; rfl
  · rfl

end Service

/-! ### Clients -/

namespace Client

open Service

variable (c : Client) (s : Service) (now : Instant) (r : Request) (showSecret : Bool)

/-- The user whom the cookie of a client names. -/
def names : Option String := c.cookie.bind (·.session.user)

/-- After an answer the cookie names whom it named before, or nobody, or whom a login has
authenticated. -/
theorem after_names :
    (c.after (s.handle now (c.send r showSecret)).2).names = none ∨
      (c.after (s.handle now (c.send r showSecret)).2).names = c.names ∨
      ∃ m v user, s.arrival? now (c.send r showSecret) = some (m, .login, v) ∧
        m.Authenticates v user := by
  cases harrival : s.arrival? now (c.send r showSecret) with
  | none =>
    rw [names, after, handle_keeps harrival]
    exact .inr (.inl rfl)
  | some arrival =>
    obtain ⟨m, e, v⟩ := arrival
    have hcame : v.session.user = none ∨ v.session.user = c.names := by
      rw [(arrival?_visit harrival).2.2]
      exact sessionAt_user c.cookie now
    rw [names, after, handle_sends harrival]
    cases hsent : (withSeen (Cookie.sessionAt (c.send r showSecret).cookie now) v.session
        (m.dispatch e v).2).session with
    | none => exact .inr (.inl rfl)
    | some session =>
      dsimp only
      rw [issue_user]
      obtain hreply | ⟨-, rfl, -⟩ := withSeen_session hsent
      · obtain hnone | hsame | ⟨rfl, user, hauth, -⟩ := dispatch_session_user hreply
        · exact .inl hnone
        · rw [hsame]; exact hcame.imp_right .inl
        · exact .inr (.inr ⟨m, v, user, rfl, hauth⟩)
      · exact hcame.imp_right .inl

/-- After a login that authenticates a user the cookie names this user, and the answer is a
success. -/
theorem after_login_names {m : Service} {v : Visit} {user : User}
    (harrival : s.arrival? now (c.send r showSecret) = some (m, .login, v))
    (h : m.Authenticates v user) :
    (c.after (s.handle now (c.send r showSecret)).2).names = some user.id ∧
      (s.handle now (c.send r showSecret)).2.status = 200 := by
  have hreply : (m.dispatch .login v).2
      = (loggedIn user).withSession (v.session.login user.id v.request.agent) := h.answer
  refine ⟨?_, ?_⟩
  · rw [names, after, handle_sends harrival, hreply, withSeen, if_neg (by simp [Reply.withSession])]
    exact issue_user (v.session.login user.id v.request.agent) now
  · rw [(handle_arrived harrival).2, hreply]
    rfl

/-- After a logout the cookie names somebody exactly if it did so before and the service did not know
this user then: in that case the session is left as it is. -/
theorem after_logout_names {id user : String}
    (hfound : find r.target.path r.method = .handler .logout id)
    (hok : (s.handle now (c.send r showSecret)).2.status = 200) :
    (c.after (s.handle now (c.send r showSecret)).2).names = some user ↔
      c.names = some user ∧ s.sessionUser (Cookie.sessionAt c.cookie now) = none := by
  have hsent : find (c.send r showSecret).target.path (c.send r showSecret).method
      = .handler .logout id := hfound
  obtain ⟨m, v, harrival⟩ := arrives_of_ok hsent hok
  have huser : m.sessionUser v.session = s.sessionUser (Cookie.sessionAt c.cookie now) :=
    sessionUser_arrived harrival
  rw [names, after, handle_sends harrival, dispatch, logout, huser]
  cases s.sessionUser (Cookie.sessionAt c.cookie now) with
  | some known =>
    dsimp only
    rw [withSeen, if_neg (by simp [Reply.withSession]), Reply.withSession]
    dsimp only
    rw [issue_user]
    constructor
    · intro h; cases h
    · rintro ⟨-, h⟩; cases h
  | none =>
    dsimp only
    cases hseen : (withSeen (Cookie.sessionAt (c.send r showSecret).cookie now) v.session
        Reply.success).session with
    | none => exact ⟨fun h => ⟨h, rfl⟩, And.left⟩
    | some session =>
      -- The cookie is replaced after all, by one that differs in how fresh the login is.
      obtain hreply | ⟨-, rfl, hlooked⟩ := withSeen_session hseen
      · cases hreply
      · have hsame : v.session.user = c.names := by
          rw [(arrival?_visit harrival).2.2]
          obtain hempty | ⟨cookie, hcookie, hcounts⟩ :=
            sessionAt_cases (c.send r showSecret).cookie now
          · rw [arrival?_session harrival, hempty, look_empty, ite_self] at hlooked
            exact absurd rfl hlooked
          · rw [hcounts, names]
            have hcookie : c.cookie = some cookie := hcookie
            rw [hcookie]; rfl
        dsimp only
        rw [issue_user, hsame]
        exact ⟨fun h => ⟨h, rfl⟩, And.left⟩

end Client

/-! ### Runs -/

namespace Run

open Service

variable {run : Run} {name : String} {r : Request} {showSecret : Bool}

/-- A request as a client sends it. -/
def sent (run : Run) (name : String) (r : Request) (showSecret : Bool) : Request :=
  (run.client name).send r showSecret

/-- What the client gets for it. -/
def answer (run : Run) (name : String) (r : Request) (showSecret : Bool) : Response :=
  (run.service.handle run.clock (run.sent name r showSecret)).2

theorem lookup_filter_ne {sender : String} (h : name ≠ sender) (clients : List (String × Client)) :
    (clients.filter fun p => p.1 != sender).lookup name = clients.lookup name := by
  induction clients with
  | nil => rfl
  | cons p rest ih =>
    obtain ⟨key, c⟩ := p
    by_cases hkey : key = sender
    · have hname : (name == key) = false := by rw [hkey]; simpa using h
      rw [List.filter_cons_of_neg (by simpa using hkey), ih, List.lookup_cons, hname]
    · rw [List.filter_cons_of_pos (by simpa using hkey), List.lookup_cons, List.lookup_cons, ih]

theorem client_step_self : (run.step (.request name r showSecret)).1.client name
    = (run.client name).after (run.answer name r showSecret) := by
  rw [step, client]
  dsimp only [setClient]
  rw [List.lookup_cons, beq_self_eq_true]
  rfl

theorem client_step_other {sender : String} (h : name ≠ sender) :
    (run.step (.request sender r showSecret)).1.client name = run.client name := by
  have hname : (name == sender) = false := by simpa using h
  rw [step, client]
  dsimp only [setClient]
  rw [List.lookup_cons, hname]
  dsimp only
  rw [lookup_filter_ne h]
  rfl

/-- A client is authenticated as a user by the login that it sends. -/
def SignsIn (run : Run) (name : String) (r : Request) (showSecret : Bool) (user : User) : Prop :=
  ∃ m v, run.service.arrival? run.clock (run.sent name r showSecret) = some (m, .login, v) ∧
    m.Authenticates v user

/-- It is told so, and its cookie names the user from then on. -/
theorem SignsIn.names {user : User} (h : run.SignsIn name r showSecret user) :
    ((run.step (.request name r showSecret)).1.client name).names = some user.id ∧
      (run.answer name r showSecret).status = 200 := by
  obtain ⟨m, v, harrival, hauth⟩ := h
  rw [client_step_self]
  exact (run.client name).after_login_names run.service run.clock r showSecret harrival hauth

/-- Whatever else happens, its cookie names nobody whom it did not name before. -/
theorem names_kept {e : Event} (h : ∀ r showSecret user, e = .request name r showSecret →
      ¬ run.SignsIn name r showSecret user) {user : String}
    (hnames : ((run.step e).1.client name).names = some user) :
    (run.client name).names = some user := by
  cases e with
  | call c => exact hnames
  | request sender r showSecret =>
    by_cases hsender : name = sender
    · subst hsender
      rw [client_step_self] at hnames
      obtain hnone | hsame | ⟨m, v, user, harrival, hauth⟩ :=
        (run.client name).after_names run.service run.clock r showSecret
      · cases hnames.symm.trans hnone
      · exact hsame.symm.trans hnames
      · exact absurd ⟨m, v, harrival, hauth⟩ (h r showSecret user rfl)
    · rwa [client_step_other hsender] at hnames

end Run

end Pressroom
