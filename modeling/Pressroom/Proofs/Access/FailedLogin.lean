import Pressroom.Proofs.Service.Seed

/-!
What a login that fails tells whoever sends it. A wrong password is refused as an address is that
nobody has, whether the password is too long, cannot be encoded or meets a hash that is none. But a
password that is no text is only looked at once an account is found, and the login then breaks off
where a stranger's is refused. Nothing else tells two stores apart.
-/
namespace Pressroom

open Web

/-- Some live user has an address. -/
def Store.Knows (s : Store) (email : Text) : Prop :=
  ∃ id address, Store.bind email = .ok address ∧ s.Holds id address

/-- Authenticating breaks off if the address cannot be looked for, or if somebody has it and the
password is no text. -/
theorem Account.authenticate_breaks_iff {s : Store} (hs : s.Intact) (email : Text) (password : Json) :
    (∃ f, authenticate s email password = .error f) ↔
      (∃ f, Store.bind email = .error f) ∨ s.Knows email ∧ ∀ p, password ≠ .text p := by
  cases haddress : Store.bind email with
  | error f =>
    have hauth : authenticate s email password = .error (.store f) := by
      rw [authenticate, Store.userByEmail?, hs.users, haddress]; rfl
    exact ⟨fun _ => .inl ⟨f, rfl⟩, fun _ => ⟨_, hauth⟩⟩
  | ok address =>
    obtain ⟨hfound, hnobody⟩ | ⟨user, hfound, hholds⟩ := hs.userByEmail? haddress
    · rw [authenticate, hfound]
      constructor
      · rintro ⟨f, h⟩; cases h
      · rintro (⟨f, h⟩ | ⟨⟨id, address', hbind, hholds⟩, -⟩)
        · cases h
        · cases haddress.symm.trans hbind
          exact absurd hholds (hnobody id)
    · rw [authenticate, hfound]
      dsimp only
      split
      · rename_i p
        constructor
        · rintro ⟨f, h⟩; cases h
        · rintro (⟨f, h⟩ | ⟨-, h⟩)
          · cases h
          · exact absurd rfl (h p)
      · rename_i hstrange
        exact ⟨fun _ => .inr ⟨⟨user.id, address, haddress, hholds⟩, hstrange⟩, fun _ => ⟨_, rfl⟩⟩

namespace Service

variable {s : Service} {a b : Store} {now : Instant} {r : Request} {v : Visit}

/-- A login with an address, and with a password that is neither empty nor a text. -/
def StrangePassword (r : Request) : Prop :=
  loginEmail r ≠ [] ∧ (loginField r "password").truthy = true ∧
    ∀ p, loginField r "password" ≠ .text p

/-- How a login is refused for what was sent, without regard to the store. -/
def loginRefusal (r : Request) : Reply :=
  if (loginEmail r).isEmpty || !(loginField r "password").truthy then
    .error 400 "Email and password are required"
  else match Store.bind (loginEmail r) with
    | .error _ => .error 500 "Login failed"
    | .ok _ => .error 401 "Invalid email or password"

/-- How a login can fail. -/
inductive LoginFails (s : Service) (r : Request) : Reply → Prop
  | broken (strange : StrangePassword r) (known : s.store.Knows (loginEmail r)) :
      LoginFails s r (.error 500 "Login failed")
  | refused (h : StrangePassword r → ¬ s.store.Knows (loginEmail r)) :
      LoginFails s r (loginRefusal r)

/-- A login that fails breaks off if somebody is found and the password is strange, and is refused for
what was sent in every other case. -/
theorem login_fails (hs : s.store.Intact) (hnone : s.sessionUser v.session = none)
    (hfails : (s.login v).status ≠ 200) : LoginFails s v.request (s.login v) := by
  have hbreaks := Account.authenticate_breaks_iff hs (loginEmail v.request)
    (loginField v.request "password")
  have hrefused : s.login v = loginRefusal v.request →
      (StrangePassword v.request → ¬ s.store.Knows (loginEmail v.request)) →
      LoginFails s v.request (s.login v) := by
    intro heq h; rw [heq]; exact .refused h
  by_cases hsent : ((loginEmail v.request).isEmpty ||
      !(loginField v.request "password").truthy) = true
  · refine hrefused ?_ ?_
    · rw [login, hnone, loginRefusal, if_pos hsent, ← loginEmail]
      exact if_pos hsent
    · rintro ⟨hemail, hpassword, -⟩
      simp [hemail, hpassword] at hsent
  · obtain ⟨hemail, hpassword⟩ : loginEmail v.request ≠ [] ∧
        (loginField v.request "password").truthy = true := by simpa using hsent
    have hlogin := login_sent hnone hemail hpassword
    cases hauth : Account.authenticate s.store (loginEmail v.request)
        (loginField v.request "password") with
    | error f =>
      rw [hauth, loginAnswer] at hlogin
      obtain ⟨g, hbind⟩ | ⟨hknown, hstrange⟩ := hbreaks.1 ⟨f, hauth⟩
      · refine hrefused (hlogin.trans ?_) ?_
        · rw [loginRefusal, if_neg hsent, hbind]
        · rintro - ⟨id, address, haddress, -⟩
          cases hbind.symm.trans haddress
      · rw [hlogin]
        exact .broken ⟨hemail, hpassword, hstrange⟩ hknown
    | ok found =>
      rw [hauth] at hlogin hbreaks
      -- Nothing broke off: the address can be looked for, and is nobody's if the password is strange.
      have hwhole : ¬ ((∃ f, Store.bind (loginEmail v.request) = .error f) ∨
          s.store.Knows (loginEmail v.request) ∧
            ∀ p, loginField v.request "password" ≠ .text p) := by
        rw [← hbreaks]
        rintro ⟨f, h⟩
        cases h
      cases found with
      | some user => exact absurd (congrArg Reply.status hlogin) hfails
      | none =>
        cases hbind : Store.bind (loginEmail v.request) with
        | error f => exact absurd (.inl ⟨f, hbind⟩) hwhole
        | ok address =>
          refine hrefused (hlogin.trans ?_) ?_
          · rw [loginAnswer, loginRefusal, if_neg hsent, hbind]
          · rintro ⟨-, -, hstrange⟩ hknown
            exact hwhole (.inr ⟨hknown, hstrange⟩)

/-- Where somebody has the address, a strange password is refused like a wrong one by everybody else. -/
theorem loginRefusal_strange (h : StrangePassword r) (hknown : a.Knows (loginEmail r)) :
    loginRefusal r = .error 401 "Invalid email or password" := by
  obtain ⟨hemail, hpassword, -⟩ := h
  obtain ⟨id, address, hbind, -⟩ := hknown
  rw [loginRefusal, if_neg (by simp [hemail, hpassword]), hbind]

/-- A login tells two stores apart: its password is strange, and somebody has its address in one of
them only. -/
def TellsApart (a b : Store) (r : Request) : Prop :=
  StrangePassword r ∧ ¬ (a.Knows (loginEmail r) ↔ b.Knows (loginEmail r))

/-- Of two logins that fail, one breaks off where the other is refused exactly if the request tells the
stores apart. -/
theorem LoginFails.alike {s s' : Service} {x y : Reply} (hx : LoginFails s r x)
    (hy : LoginFails s' r y) :
    (¬ TellsApart s.store s'.store r → x = y) ∧
      (TellsApart s.store s'.store r → x.status ≠ y.status) := by
  cases hx with
  | broken hstrange hknown =>
    cases hy with
    | broken _ hknown' => exact ⟨fun _ => rfl, fun h => absurd (iff_of_true hknown hknown') h.2⟩
    | refused hunknown =>
      have happart : TellsApart s.store s'.store r :=
        ⟨hstrange, fun h => hunknown hstrange (h.1 hknown)⟩
      rw [loginRefusal_strange hstrange hknown]
      exact ⟨absurd happart, fun _ => show 500 ≠ 401 by decide⟩
  | refused hunknown =>
    cases hy with
    | broken hstrange hknown =>
      have happart : TellsApart s.store s'.store r :=
        ⟨hstrange, fun h => hunknown hstrange (h.2 hknown)⟩
      rw [loginRefusal_strange hstrange hknown]
      exact ⟨absurd happart, fun _ => show 401 ≠ 500 by decide⟩
    | refused hunknown' =>
      exact ⟨fun _ => rfl, fun h => absurd (iff_of_false (hunknown h.1) (hunknown' h.1)) h.2⟩

/-- Two stores answer a login that fails in both, from a client that nobody is logged in at, in the
same way, unless the login arrives and tells them apart. Then one of them answers with another
status. -/
theorem failed_logins_alike (s : Service) (ha : a.Intact) (hb : b.Intact) {id : String}
    (hfound : find r.target.path r.method = .handler .login id)
    (hsession : (Cookie.sessionAt r.cookie now).user = none)
    (hfa : ((s.withStore a).handle now r).2.status ≠ 200)
    (hfb : ((s.withStore b).handle now r).2.status ≠ 200) :
    (¬ ((s.arrival? now r).isSome ∧ TellsApart a b r) →
        ((s.withStore a).handle now r).2 = ((s.withStore b).handle now r).2) ∧
      ((s.arrival? now r).isSome ∧ TellsApart a b r →
        ((s.withStore a).handle now r).2.status ≠ ((s.withStore b).handle now r).2.status) := by
  cases harrival : s.arrival? now r with
  | none =>
    refine ⟨fun _ => ?_, fun h => nomatch h.1⟩
    rw [handle, handle, answer_withStore a harrival, answer_withStore b harrival]
    rfl
  | some arrival =>
    obtain ⟨m, e, v⟩ := arrival
    cases hfound.symm.trans (arrival?_found harrival)
    obtain ⟨-, hr, huser⟩ := arrival?_visit harrival
    have hover : ∀ c, ((s.withStore c).handle now r).2 = respond m.policy now r
        (withSeen (Cookie.sessionAt r.cookie now) v.session ((m.withStore c).login v)) :=
      fun c => handle_response (arrival?_withStore c harrival)
    have hends : ∀ c : Store, c.Intact → ((s.withStore c).handle now r).2.status ≠ 200 →
        LoginFails (m.withStore c) r ((m.withStore c).login v) := by
      intro c hc hfails
      rw [(handle_arrived (arrival?_withStore c harrival)).2] at hfails
      rw [← hr]
      exact login_fails hc (sessionUser_none (huser.trans hsession)) hfails
    obtain ⟨halike, happart⟩ := (hends a ha hfa).alike (hends b hb hfb)
    rw [Option.isSome_some, eq_self, true_and]
    refine ⟨fun h => ?_, fun h => ?_⟩
    · rw [hover a, hover b, halike h]
    · rw [(handle_arrived (arrival?_withStore a harrival)).2,
        (handle_arrived (arrival?_withStore b harrival)).2]
      exact happart h

/-! ### The account of the first administrator -/

/-- Somebody logs in under the address of the first administrator. `password` is JSON. -/
def loginAsAdmin (password : String) : Request :=
  ⟨"POST", ⟨defaultHost, "/api/login".toList, []⟩, [], false, none, some ⟨some "application/json",
    "\x7b\"email\":\"admin@example.com\",\"password\":" ++ password ++ "\x7d"⟩⟩

/-- The store after the password of the first administrator has been set to a text that is no hash. -/
def spoilt (first : Service) : Store :=
  ((Call.updatePassword (Text.ofString (Fresh.idText 1)) (some (Text.ofString "admin"))).perform
    first 0).1.store

/-- The store after the first administrator has been deleted. -/
def deserted (first : Service) : Store :=
  ((Call.deleteUser (Text.ofString (Fresh.idText 1))).perform first 0).1.store

theorem spoilt_intact {first : Service} (hs : first.Sound) : (spoilt first).Intact :=
  ((Step.call 0 _ inEra_zero rfl).sound hs).store.intact

theorem deserted_intact {first : Service} (hs : first.Sound) : (deserted first).Intact :=
  ((Step.call 0 _ inEra_zero rfl).sound hs).store.intact

/-- A password that meets a text that is no hash is refused as if nobody were there. -/
theorem failed_logins_alike_spoilt :
    ∃ first, start (.ofProfile .testing .standard) .standard "" 0 = .ok first ∧
      ((first.withStore (spoilt first)).handle 0 (loginAsAdmin "\"admin\"")).2.status = 401 ∧
      ((first.withStore (deserted first)).handle 0 (loginAsAdmin "\"admin\"")).2.status = 401 ∧
      ((first.withStore (spoilt first)).handle 0 (loginAsAdmin "\"admin\"")).2
        = ((first.withStore (deserted first)).handle 0 (loginAsAdmin "\"admin\"")).2 := by
  obtain ⟨first, hstart, hhere, hgone⟩ :
      ∃ first, start (.ofProfile .testing .standard) .standard "" 0 = .ok first ∧
        ((first.withStore (spoilt first)).handle 0 (loginAsAdmin "\"admin\"")).2.status = 401 ∧
        ((first.withStore (deserted first)).handle 0 (loginAsAdmin "\"admin\"")).2.status = 401 :=
    ⟨_, rfl, by decide +kernel, by decide +kernel⟩
  have hs : first.Sound := start_sound inEra_zero hstart
  have hfound : find (loginAsAdmin "\"admin\"").target.path "POST" = .handler .login "" := by
    decide +kernel
  have htext : textOf (loginField (loginAsAdmin "\"admin\"") "password") ≠ [] := by decide +kernel
  refine ⟨first, hstart, hhere, hgone, (failed_logins_alike first (spoilt_intact hs)
    (deserted_intact hs) hfound rfl (by rw [hhere]; decide) (by rw [hgone]; decide)).1 ?_⟩
  rintro ⟨-, ⟨-, -, hstrange⟩, -⟩
  exact hstrange _ (eq_text_of_textOf htext)

/-- A number as the password tells whether the administrator is there. -/
theorem number_tells_apart :
    ∃ first, start (.ofProfile .testing .standard) .standard "" 0 = .ok first ∧
      first.store.Intact ∧ (deserted first).Intact ∧
      ((first.withStore first.store).handle 0 (loginAsAdmin "1")).2.status = 500 ∧
      ((first.withStore (deserted first)).handle 0 (loginAsAdmin "1")).2.status = 401 := by
  obtain ⟨first, hstart, hhere, hgone⟩ :
      ∃ first, start (.ofProfile .testing .standard) .standard "" 0 = .ok first ∧
        ((first.withStore first.store).handle 0 (loginAsAdmin "1")).2.status = 500 ∧
        ((first.withStore (deserted first)).handle 0 (loginAsAdmin "1")).2.status = 401 :=
    ⟨_, rfl, by decide +kernel, by decide +kernel⟩
  have hs : first.Sound := start_sound inEra_zero hstart
  exact ⟨first, hstart, hs.store.intact, deserted_intact hs, hhere, hgone⟩

end Service

end Pressroom
