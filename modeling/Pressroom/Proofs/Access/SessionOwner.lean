import Pressroom.Proofs.Access.Logout

/-!
Whose session it is. The cookie of a client names a user because a login of this client authenticated
the user, and the last such login decides: what other clients send and what is called from inside
leaves the cookie alone. `session_stands_for_login` follows a run back from a request that is treated
as one of a user to that login. What the session is worth is decided by the store at the moment of
the request: it stands for the live user with that id, as the store has the user then.
-/
namespace Pressroom

open Web Service

namespace Service

variable {s : Service} {v : Visit} {user : User}

/-- A visit is treated as one of a user: the session stands for the user, or the guard lets the visit
through as one of the user. -/
def Treats (s : Service) (v : Visit) (user : User) : Prop :=
  s.sessionUser v.session = some user ∨ ∃ byKey, s.caller v = .ok ⟨user, byKey⟩

/-- Without a key there is only the session to go by. -/
theorem Treats.session (h : s.Treats v user) (hkey : v.request.headerFilled? keyHeader = none) :
    s.sessionUser v.session = some user := by
  obtain h | ⟨byKey, h⟩ := h
  · exact h
  · rw [caller, hkey] at h
    dsimp only at h
    split at h
    · rename_i known hknown; cases h; exact hknown
    · cases h

/-- A session that names a user stands for the live user whom the store finds under this id. -/
theorem sessionUser_eq_some {session : Session} {id : String} (h : session.user = some id) :
    s.sessionUser session = some user ↔ s.store.user? (Text.ofString id) false = .ok (some user) := by
  rw [sessionUser, h]
  dsimp only
  constructor
  · intro hfound
    split at hfound
    · rename_i hread; rw [hread, hfound]
    · cases hfound
  · intro hread
    rw [hread]

theorem sessionUser_hasUser {session : Session} (h : s.sessionUser session = some user) :
    s.store.HasUser user :=
  Store.user?_hasUser ((sessionUser_eq_some (sessionUser_names h)).1 h)

end Service

namespace Run

variable {run : Run} {name : String} {r : Request} {showSecret : Bool} {user : User}

/-- Whom the session of a client stands for at this moment. -/
def StandsFor (run : Run) (name : String) (user : User) : Prop :=
  run.service.sessionUser (Cookie.sessionAt (run.client name).cookie run.clock) = some user

theorem StandsFor.names (h : run.StandsFor name user) :
    (run.client name).names = some user.id := by
  have hnames := sessionUser_names h
  obtain hnone | hsame := sessionAt_user (run.client name).cookie run.clock
  · cases hnone.symm.trans hnames
  · exact hsame.symm.trans hnames

/-! ### The login behind a session -/

/-- The user whom a login authenticates is live, as the store has the user then, and the password
that was sent is the one that is stored. -/
theorem SignsIn.right (h : run.SignsIn name r showSecret user) :
    run.service.store.HasUser user ∧
      ∃ p, loginField (run.sent name r showSecret) "password" = .text p ∧
        Password.check p user.data.password = true := by
  obtain ⟨m, v, harrival, hauth⟩ := h
  obtain ⟨hfound, p, hp, hright⟩ := Account.authenticate_eq_ok.1 hauth.found
  have hlive := Store.userByEmail?_hasUser hfound
  rw [(arrival?_same harrival).store] at hlive
  rw [(arrival?_visit harrival).2.1] at hp
  exact ⟨hlive, p, hp, hright⟩

/-- An event is no login by which a client is authenticated. -/
def IsNoSignIn (name : String) (run : Run) (e : Event) : Prop :=
  ∀ r showSecret user, e = .request name r showSecret → ¬ run.SignsIn name r showSecret user

/-- Some events hold a login of a client, answered with success, that authenticates the user with an
id by the password that is stored, and none of this client after it that authenticates anybody. -/
def SignedIn (run : Run) (name : String) (events : List (Int × Event)) (id : String) : Prop :=
  ∃ before span r showSecret after user,
    events = before ++ (span, .request name r showSecret) :: after ∧ user.id = id ∧
      (run.upTo before span).SignsIn name r showSecret user ∧
      ((run.upTo before span).answer name r showSecret).status = 200 ∧
      ((run.upTo before span).service.store.HasUser user ∧
        ∃ p, loginField ((run.upTo before span).sent name r showSecret) "password" = .text p ∧
          Password.check p user.data.password = true) ∧
      ((run.upTo before span).step (.request name r showSecret)).1.Throughout (IsNoSignIn name) after

variable {events : List (Int × Event)} {span : Int} {e : Event} {id : String}

/-- A login in the rest of the events is one in all of them. -/
theorem SignedIn.cons (h : ((run.advance span).step e).1.SignedIn name events id) :
    run.SignedIn name ((span, e) :: events) id := by
  obtain ⟨before, span', r, showSecret, after, user, rfl, hsigned⟩ := h
  exact ⟨(span, e) :: before, span', r, showSecret, after, user, rfl, hsigned⟩

/-- Whom the cookie of a client names at the end it named at the start and no login has authenticated
anybody, or a login that authenticated the user is the last to do so. -/
theorem named_or_signedIn (events : List (Int × Event))
    (h : ((run.steps events).1.client name).names = some id) :
    (run.client name).names = some id ∧ run.Throughout (IsNoSignIn name) events ∨
      run.SignedIn name events id := by
  induction events generalizing run with
  | nil => exact .inl ⟨h, throughout_nil _ _⟩
  | cons event rest ih =>
    obtain ⟨span, e⟩ := event
    obtain ⟨hnames, hnobody⟩ | hsigned := ih h
    · by_cases hfirst : IsNoSignIn name (run.advance span) e
      · exact .inl ⟨names_kept hfirst hnames, throughout_cons.2 ⟨hfirst, hnobody⟩⟩
      · simp only [IsNoSignIn, not_forall, not_not] at hfirst
        obtain ⟨r, showSecret, user, rfl, hsigns⟩ := hfirst
        obtain ⟨hnow, hok⟩ := hsigns.names
        have hid : user.id = id := Option.some.inj (hnow.symm.trans hnames)
        exact .inr ⟨[], span, r, showSecret, rest, user, rfl, hid, hsigns, hok, hsigns.right,
          hnobody⟩
    · exact .inr hsigned.cons

/-! ### Other clients -/

/-- Another client changes nothing about the cookie of this one, which goes on to stand for the live
user with the same id. -/
theorem standsFor_other {sender : String} (hother : name ≠ sender) (h : run.StandsFor name user)
    (user' : User) :
    (run.step (.request sender r showSecret)).1.StandsFor name user' ↔
      user'.id = user.id ∧ (run.step (.request sender r showSecret)).1.service.store.user?
        (Text.ofString user.id) false = .ok (some user') := by
  rw [StandsFor, client_step_other hother, step_clock]
  have hnames := sessionUser_names h
  rw [sessionUser_eq_some hnames]
  refine ⟨fun hread => ⟨?_, hread⟩, And.right⟩
  have hnames' := sessionUser_names ((sessionUser_eq_some hnames).2 hread)
  exact Option.some.inj (hnames'.symm.trans hnames)

/-- In a run that begins without clients, a request without a key that is treated as one of a user
comes from a client whose last login that authenticated anybody authenticated this user, and the user
is live now, just as the store has the user now. What another client sends leaves the cookie of this
one alone, and afterwards it stands for the live user with the same id as before. -/
theorem session_stands_for_login {service : Service} {clock : Instant} {now : Run}
    (hnow : now = (start service clock).upTo events span) (name : String) :
    (∀ r showSecret m e v user, (now.sent name r showSecret).headerFilled? keyHeader = none →
        now.service.arrival? now.clock (now.sent name r showSecret) = some (m, e, v) →
          m.Treats v user →
            now.service.store.HasUser user ∧ (start service clock).SignedIn name events user.id) ∧
      ∀ sender r showSecret, name ≠ sender →
        (now.step (.request sender r showSecret)).1.client name = now.client name ∧
          ∀ user, now.StandsFor name user → ∀ user',
            (now.step (.request sender r showSecret)).1.StandsFor name user' ↔
              user'.id = user.id ∧
                (now.step (.request sender r showSecret)).1.service.store.user?
                  (Text.ofString user.id) false = .ok (some user') := by
  constructor
  · intro r showSecret m e v user hkey harrival htreats
    obtain ⟨-, hrequest, hsession⟩ := arrival?_visit harrival
    have hstands : now.StandsFor name user := by
      have huser := htreats.session (by rw [hrequest]; exact hkey)
      rwa [sessionUser, hsession, (arrival?_same harrival).store] at huser
    refine ⟨sessionUser_hasUser hstands, ?_⟩
    have hnames := hstands.names
    rw [hnow] at hnames
    -- No client has a cookie at the start, so the name in this one comes from a login.
    obtain ⟨hstart, -⟩ | hsigned := named_or_signedIn events hnames
    · cases hstart
    · exact hsigned
  · intro sender r showSecret hother
    exact ⟨client_step_other hother, fun user hstands => standsFor_other hother hstands⟩

/-- What the first administrator sends after logging in is treated as sent by this user, whatever a
second client does. -/
theorem session_stands_for_login_seed :
    ∃ first user, Service.start (.ofProfile .testing .standard) .standard "" 0 = .ok first ∧
      ((seedRun first).answer "main" whoamiRequest false).status = 200 ∧
      (seedRun first).service.store.HasUser user ∧
      (start first 0).SignedIn "main" [(0, .request "main" seedLogin false)] user.id ∧
      ((seedRun first).step (.request "second" logoutRequest false)).1.client "main"
        = (seedRun first).client "main" := by
  obtain ⟨first, hstart, hok, hknown⟩ :
      ∃ first, Service.start (.ofProfile .testing .standard) .standard "" 0 = .ok first ∧
        ((seedRun first).answer "main" whoamiRequest false).status = 200 ∧
        ((seedRun first).service.arrival? 0 ((seedRun first).sent "main" whoamiRequest false)).any
          (fun a => (a.1.sessionUser a.2.2.session).isSome) = true :=
    ⟨_, rfl, by decide +kernel, by decide +kernel⟩
  obtain ⟨⟨m, e, v⟩, harrival, hsome⟩ := (Option.any_eq_true _ _).1 hknown
  obtain ⟨user, huser⟩ := Option.isSome_iff_exists.1 hsome
  obtain ⟨-, hstep⟩ := seedLogin_step hstart
  have hnow : seedRun first = (start first 0).upTo [(0, .request "main" seedLogin false)] 0 := by
    have hsteps : (start first 0).upTo [(0, .request "main" seedLogin false)] 0
        = ((start first 0).step (.request "main" seedLogin false)).1.advance 0 := rfl
    rw [hsteps, hstep]
    rfl
  obtain ⟨howner, hothers⟩ := session_stands_for_login hnow "main"
  obtain ⟨hlive, hsigned⟩ := howner whoamiRequest false m e v user rfl harrival (.inl huser)
  exact ⟨first, user, hstart, hok, hlive, hsigned,
    (hothers "second" logoutRequest false (by decide)).1⟩

end Run

end Pressroom
