import Pressroom.Proofs.Access.Mediation
import Pressroom.Proofs.Service.Seed
import Pressroom.Proofs.Service.Session

/-!
Whether a logout lasts. The cookie of a client names a user, and names nobody else until the client
logs in again. A logout takes the name out of the cookie, but only if the service knows the user at
that moment. If it does not, as when the user is deleted, the cookie is left as it is, and names the
user as soon as the service knows the user again. `logout_lasts` shows that this is the only way back.
-/
namespace Pressroom

open Web Service

/-- Whom a session stands for is the user whom it names. -/
theorem Service.sessionUser_names {s : Service} {session : Session} {user : User}
    (h : s.sessionUser session = some user) : session.user = some user.id := by
  rw [sessionUser] at h
  split at h
  · cases h
  · rename_i id hid
    split at h
    · rename_i hfound
      cases h
      obtain ⟨-, -, hfound⟩ := bind_eq_ok.1 hfound
      obtain ⟨key, hkey, hfound⟩ := bind_eq_ok.1 hfound
      rw [Store.bind_ofString] at hkey
      cases hkey
      obtain ⟨row, hrow, hsame, -⟩ := Store.readRow?_eq_some hfound
      rw [hid, hsame, (Store.findRow?_live hrow).2.1]
    · cases h

/-- A sound service does not know the user of a session exactly if no live user has the id. -/
theorem Service.sessionUser_eq_none_iff {s : Service} (hs : s.store.Sound) {session : Session}
    {id : String} (h : session.user = some id) :
    s.sessionUser session = none ↔ ∀ row ∈ s.store.users, row.isLive = true → row.id ≠ id := by
  have hask : s.store.user? (Text.ofString id) false
      = Store.readRow? (Store.findRow? s.store.users false id) := by
    rw [Store.user?, hs.ready.need.1, ok_bind, Store.bind_ofString, ok_bind]
  rw [sessionUser, h]
  dsimp only
  rw [hask]
  cases hfound : Store.findRow? s.store.users false id with
  | none =>
    refine ⟨fun _ row hrow hlive hid => ?_, fun _ => rfl⟩
    rw [← hid, Store.findRow?_of_mem hs.users.ids hrow (.inr hlive)] at hfound
    cases hfound
  | some row =>
    obtain ⟨hrow, hid, hlive⟩ := Store.findRow?_live hfound
    rw [Store.readRow?_timed (hs.users.times row hrow)]
    constructor
    · intro hnone; cases hnone
    · intro hnobody; exact absurd hid (hnobody row hrow hlive)

/-- Nobody is told who they are without a key and a user of the session. -/
theorem Service.whoami_unknown {s m : Service} {now : Instant} {r : Request} {v : Visit}
    (hsame : SameButCounts s m)
    (hv : v.now = now ∧ v.request = r ∧ v.session.user = (Cookie.sessionAt r.cookie now).user)
    (h : s.sender? now r = .ok none) : (m.dispatch .whoami v).2.status = 401 := by
  have hcaller : m.caller v = s.caller v := by simp only [caller, sessionUser, hsame.store]
  have hmeets := caller_meets (s := s) hv
  rw [h, ← hcaller] at hmeets
  rw [dispatch, whoami]
  generalize m.caller v = caller at hmeets
  cases hmeets with
  | unknown reply hstatus => exact hstatus

namespace Run

variable {run later : Run} {name : String} {r : Request} {showSecret : Bool}

/-- A client logs in: it sends a login that is answered with success. -/
def LogsIn (run : Run) (name : String) : Event → Prop
  | .request sender r showSecret => sender = name ∧
      (∃ id, find r.target.path r.method = .handler .login id) ∧
      (run.answer sender r showSecret).status = 200
  | .call _ => False

/-- The clock moves, or something happens that is no login of a client. -/
inductive Passes (name : String) (run : Run) : Run → Prop
  | time (span : Int) : Passes name run (run.advance span)
  | event (e : Event) (h : ¬ run.LogsIn name e) : Passes name run (run.step e).1

/-- Any number of things, none of which is a login of a client. -/
abbrev StaysOut (name : String) : Run → Run → Prop := Relation.ReflTransGen (Passes name)

/-! ### Whom a cookie names -/

/-- The cookie of a client names nobody else after an event, unless the client logs in by it. -/
theorem step_names {e : Event} (h : ¬ run.LogsIn name e) {user : String}
    (hnames : ((run.step e).1.client name).names = some user) :
    (run.client name).names = some user := by
  refine names_kept (fun r showSecret found he hsigns => h ?_) hnames
  have hok := hsigns.names.2
  obtain ⟨m, v, harrival, -⟩ := hsigns
  have hsent := arrival?_found harrival
  rw [he]
  exact ⟨rfl, ⟨v.id, hsent⟩, hok⟩

theorem StaysOut.names (h : StaysOut name run later) {user : String}
    (hnames : (later.client name).names = some user) : (run.client name).names = some user := by
  induction h with
  | refl => exact hnames
  | tail _ hpasses ih =>
    cases hpasses with
    | time span => exact ih hnames
    | event e hout => exact ih (step_names hout hnames)

/-! ### Logging out -/

/-- The cookie of a client names a user whom the service does not know at this moment. -/
def LeavesBehind (run : Run) (name user : String) : Prop :=
  (run.client name).names = some user ∧
    run.service.sessionUser (Cookie.sessionAt (run.client name).cookie run.clock) = none

/-- That is so if the cookie does not count at this moment, or the user is deleted. -/
theorem leavesBehind_iff (hs : run.service.Sound) {user : String} :
    run.LeavesBehind name user ↔ (run.client name).names = some user ∧
      (Cookie.sessionAt (run.client name).cookie run.clock = .empty ∨
        ∀ row ∈ run.service.store.users, row.isLive = true → row.id ≠ user) := by
  refine and_congr_right fun hnames => ?_
  obtain hempty | ⟨cookie, hcookie, hcounts⟩ :=
    sessionAt_cases (run.client name).cookie run.clock
  · rw [hempty]
    exact ⟨fun _ => .inl rfl, fun _ => sessionUser_none rfl⟩
  · have huser : (Cookie.sessionAt (run.client name).cookie run.clock).user = some user := by
      rw [hcounts, ← hnames, Client.names, hcookie]
      rfl
    rw [sessionUser_eq_none_iff hs.store huser]
    refine ⟨.inr, fun h => h.resolve_left fun hempty => ?_⟩
    rw [hempty] at huser
    cases huser

/-- A logout that is answered with success leaves a name in the cookie of the client exactly if the
service does not know the user of this name at that moment, and until the client logs in again nobody
else is behind what it sends without a key. Where no name is left, it is told to log in first. -/
theorem logout_lasts {id : String} (hfound : find r.target.path r.method = .handler .logout id)
    (hok : (run.answer name r showSecret).status = 200)
    (hstays : StaysOut name (run.step (.request name r showSecret)).1 later) {r' : Request}
    {showSecret' : Bool}
    (hkey : (later.sent name r' showSecret').headerFilled? keyHeader = none) :
    (∀ user, ((run.step (.request name r showSecret)).1.client name).names = some user ↔
        run.LeavesBehind name user) ∧
      (∀ user, later.service.sender? later.clock (later.sent name r' showSecret') = .ok (some user) →
        run.LeavesBehind name user.id) ∧
      ((∀ user, ¬ run.LeavesBehind name user) → ∀ m v,
        later.service.arrival? later.clock (later.sent name r' showSecret') = some (m, .whoami, v) →
          (later.answer name r' showSecret').status = 401) := by
  have hleft : ∀ user, ((run.step (.request name r showSecret)).1.client name).names = some user ↔
      run.LeavesBehind name user := by
    intro user
    rw [client_step_self]
    exact (run.client name).after_logout_names run.service run.clock r showSecret hfound hok
  have hbehind : ∀ user,
      later.service.sender? later.clock (later.sent name r' showSecret') = .ok (some user) →
        run.LeavesBehind name user.id := by
    intro user hsender
    rw [sender?, hkey] at hsender
    have hnames := sessionUser_names (Except.ok.inj hsender)
    obtain hnone | hsame := sessionAt_user (later.client name).cookie later.clock
    · cases hnone.symm.trans hnames
    · exact (hleft user.id).1 (hstays.names (hsame.symm.trans hnames))
  refine ⟨hleft, hbehind, fun hnobody m v harrival => ?_⟩
  have hnone : later.service.sender? later.clock (later.sent name r' showSecret') = .ok none := by
    rw [sender?, hkey]
    cases huser : later.service.sessionUser
        (Cookie.sessionAt (later.sent name r' showSecret').cookie later.clock) with
    | none => rfl
    | some user =>
      refine absurd (hbehind user ?_) (hnobody user.id)
      rw [sender?, hkey, huser]
  rw [answer, (handle_arrived harrival).2]
  exact whoami_unknown (arrival?_same harrival) (arrival?_visit harrival) hnone

/-! ### A user who comes back -/

/-- The first administrator's client logs out. -/
def logoutRequest : Request :=
  ⟨"POST", ⟨defaultHost, "/api/logout".toList, []⟩, [], false, none, none⟩

/-- The client asks who it is. -/
def whoamiRequest : Request :=
  ⟨"GET", ⟨defaultHost, "/api/whoami".toList, []⟩, [], false, none, none⟩

/-- The run after the first administrator has logged in. -/
def seedRun (first : Service) : Run := ⟨first, [("main", ⟨some seedCookie, none⟩)], 0⟩

theorem seedLogin_step {first : Service}
    (h : Service.start (.ofProfile .testing .standard) .standard "" 0 = .ok first) :
    ((Run.start first 0).answer "main" seedLogin false).status = 200 ∧
      ((Run.start first 0).step (.request "main" seedLogin false)).1 = seedRun first := by
  obtain ⟨hleft, hstatus, hcookie, hsecret⟩ := seedLogin_succeeds h
  refine ⟨hstatus, ?_⟩
  have hafter : Client.fresh.after (first.handle 0 seedLogin).2 = ⟨some seedCookie, none⟩ := by
    rw [Client.after, hcookie, hsecret]
    rfl
  change (⟨(first.handle 0 seedLogin).1, [("main", Client.fresh.after (first.handle 0 seedLogin).2)],
    0⟩ : Run) = seedRun first
  rw [hleft, hafter, seedRun]

/-- The first administrator logs in and out, and has to log in again. -/
theorem logout_lasts_seed :
    ∃ first run, Service.start (.ofProfile .testing .standard) .standard "" 0 = .ok first ∧
      run = ((Run.start first 0).step (.request "main" seedLogin false)).1 ∧
      (run.answer "main" logoutRequest false).status = 200 ∧
      ((run.step (.request "main" logoutRequest false)).1.answer "main" whoamiRequest false).status
        = 401 := by
  obtain ⟨first, hstart, hok, hknown, harrives⟩ :
      ∃ first, Service.start (.ofProfile .testing .standard) .standard "" 0 = .ok first ∧
        ((seedRun first).answer "main" logoutRequest false).status = 200 ∧
        (first.sessionUser (Cookie.sessionAt (some seedCookie) 0)).isSome = true ∧
        ((((seedRun first).step (.request "main" logoutRequest false)).1.service.arrival? 0
          (((seedRun first).step (.request "main" logoutRequest false)).1.sent "main" whoamiRequest
            false)).map (·.2.1)) = some .whoami :=
    ⟨_, rfl, by decide +kernel, by decide +kernel, by decide +kernel⟩
  obtain ⟨-, hstep⟩ := seedLogin_step hstart
  obtain ⟨⟨m, e, v⟩, harrival, rfl⟩ := Option.map_eq_some_iff.1 harrives
  have hfound : find logoutRequest.target.path logoutRequest.method = .handler .logout "" := by
    decide +kernel
  have hkey : (((seedRun first).step (.request "main" logoutRequest false)).1.sent "main"
      whoamiRequest false).headerFilled? keyHeader = none := rfl
  obtain ⟨-, -, hwhoami⟩ := logout_lasts hfound hok .refl hkey
  refine ⟨first, seedRun first, hstart, hstep.symm, hok, hwhoami ?_ m v harrival⟩
  rintro user ⟨-, hnone⟩
  rw [Option.isSome_iff_exists] at hknown
  obtain ⟨known, hknown⟩ := hknown
  cases hknown.symm.trans hnone

/-- A client logs out while the first administrator, whom its cookie names, is deleted. -/
def logoutMeanwhile (run : Run) : Run :=
  ((run.step (.call (.deleteUser (Text.ofString (Fresh.idText 1))))).1.step
    (.request "main" logoutRequest false)).1

/-- The first administrator is brought back. -/
def bringBack (run : Run) : Run :=
  (run.step (.call (.restoreUser (Text.ofString (Fresh.idText 1))))).1

/-- A client that has logged out while its user was deleted is logged in again when the user comes
back. -/
theorem logout_undone :
    ∃ first run, Service.start (.ofProfile .testing .standard) .standard "" 0 = .ok first ∧
      run = ((Run.start first 0).step (.request "main" seedLogin false)).1 ∧
      ((run.step (.call (.deleteUser (Text.ofString (Fresh.idText 1))))).1.answer "main"
        logoutRequest false).status = 200 ∧
      StaysOut "main" (logoutMeanwhile run) (bringBack (logoutMeanwhile run)) ∧
      ((bringBack (logoutMeanwhile run)).answer "main" whoamiRequest false).status = 200 := by
  obtain ⟨first, hstart, hout, hback⟩ :
      ∃ first, Service.start (.ofProfile .testing .standard) .standard "" 0 = .ok first ∧
        (((seedRun first).step (.call (.deleteUser (Text.ofString (Fresh.idText 1))))).1.answer
          "main" logoutRequest false).status = 200 ∧
        ((bringBack (logoutMeanwhile (seedRun first))).answer "main" whoamiRequest false).status
          = 200 :=
    ⟨_, rfl, by decide +kernel, by decide +kernel⟩
  obtain ⟨-, hstep⟩ := seedLogin_step hstart
  exact ⟨first, seedRun first, hstart, hstep.symm, hout, .single (.event _ fun h => h), hback⟩

end Run

end Pressroom
