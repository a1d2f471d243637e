import Pressroom.Proofs.Access.Mediation
import Pressroom.Proofs.Service.FieldLimit
import Pressroom.Proofs.Service.Seed
import Pressroom.Proofs.Text.Clean

/-!
Whether somebody who is added can log in. An account is added under the address that is sent, without
the white space around it. A login takes the controls out of the address that is sent, cuts it at a
limit, and then drops the white space around it. The password always fits; so those can log in whose
address is the same after both, and nobody else.
-/
namespace Pressroom

open Web

/-! ### Parts of a string -/

theorem utf8ByteSize_sublist {a b : List Char} (h : a.Sublist b) :
    (String.ofList a).utf8ByteSize ≤ (String.ofList b).utf8ByteSize ∧
      ((String.ofList a).utf8ByteSize = (String.ofList b).utf8ByteSize → a = b) := by
  induction h with
  | slnil => exact ⟨Nat.le_refl _, fun _ => rfl⟩
  | @cons a b c _ ih =>
    have hpos := c.utf8Size_pos
    rw [String.ofList_cons, String.utf8ByteSize_append, String.utf8ByteSize_singleton]
    exact ⟨by omega, fun h => by omega⟩
  | @cons_cons a b c _ ih =>
    rw [String.ofList_cons, String.ofList_cons, String.utf8ByteSize_append,
      String.utf8ByteSize_append, String.utf8ByteSize_singleton]
    exact ⟨by omega, fun h => by rw [ih.2 (by omega)]⟩

/-- A part of an address is not taken for the address, unless it is all of it. -/
theorem Store.noCaseSame_sublist {a b : String} (h : b.toList.Sublist a.toList)
    (hsame : noCaseSame a b = true) : b = a := by
  have hkey := congrArg Prod.fst ((noCaseSame_iff a b).1 hsame)
  have hlist := (utf8ByteSize_sublist h).2 (by
    rw [String.ofList_toList, String.ofList_toList]; exact hkey.symm)
  exact String.toList_injective hlist

/-- A part of the text of a string is the text of a string. -/
theorem Text.ofString_sublist {t : Text} {s : String} (h : t.Sublist (ofString s)) :
    ∃ c, t = ofString c ∧ c.toList.Sublist s.toList := by
  obtain ⟨cs, hcs, rfl⟩ := List.sublist_map_iff.1 h
  exact ⟨String.ofList cs, by rw [ofString, String.toList_ofList]; rfl,
    by rw [String.toList_ofList]; exact hcs⟩

namespace Service

open Store

variable {s : Service} {v : Visit} {data : Json}

/-! ### What is added -/

/-- The service after somebody was added. -/
def withUser (s : Service) (now : Instant) (d : UserData) : Service :=
  { s with
    fresh := s.fresh.usedId
    store := { s.store with users := s.store.users ++ [.newRow s.fresh.nextId d now] } }

theorem addUser_eq_ok {now : Instant} {n : NewUser} {t : Service} {user : User}
    (h : s.addUser now n = (t, .ok user)) : ∃ d, bindUser n = .ok d ∧
      (∀ r ∈ s.store.users, r.id ≠ s.fresh.nextId) ∧ t = s.withUser now d ∧
      user = .newItem s.fresh.nextId d now := by
  rw [addUser] at h
  cases hmade : s.store.createUser s.fresh.nextId now n with
  | error f => rw [hmade] at h; cases h
  | ok made =>
    rw [hmade] at h
    cases h
    obtain ⟨d, hd, hfresh, -, hstore, huser⟩ := createUser_eq_ok hmade
    exact ⟨d, hd, hfresh, by rw [withUser, ← hstore], huser⟩

/-- The parts of an account that is read are those that were sent, the address without the white
space around it. -/
theorem readAccount_eq_ok {a : NewAccount} {email password : Text} (h : readAccount data = .ok a)
    (hemail : data.get? "Email" = some (.text email))
    (hpassword : data.get? "Password" = some (.text password)) :
    a.email = Text.strip email ∧ a.email ≠ [] ∧ a.password = password ∧ password ≠ [] := by
  have hemail' : data.getD "Email" = .text email := by rw [Json.getD, hemail]; rfl
  have hpassword' : data.getD "Password" = .text password := by rw [Json.getD, hpassword]; rfl
  obtain ⟨-, -, h⟩ := bind_eq_ok.1 h
  obtain ⟨-, -, h⟩ := bind_eq_ok.1 h
  obtain ⟨⟨⟩, hcheck, h⟩ := bind_eq_ok.1 h
  obtain ⟨⟨⟩, hcheck', h⟩ := bind_eq_ok.1 h
  obtain ⟨-, -, h⟩ := bind_eq_ok.1 h
  cases h
  rw [hemail'] at hcheck ⊢
  rw [hpassword'] at hcheck' ⊢
  refine ⟨rfl, ?_, rfl, ?_⟩
  · rintro hnil
    have hempty : Text.strip email = [] := hnil
    rw [tidyEmail, hempty] at hcheck
    cases hcheck
  · rintro rfl
    cases hcheck'

/-- How the adding of an account can end: nothing is added, or a user with the hash of the password. -/
inductive AccountEnds (s : Service) (v : Visit) (a : NewAccount) : Service × Reply → Prop
  | refused {t : Service} {reply : Reply} (store : t.store = s.store)
      (status : ¬ Successful reply.status) : AccountEnds s v a (t, reply)
  | added {d : UserData} (email : a.email = Text.ofString d.email)
      (hash : Password.hash a.password = .ok d.password)
      (fresh : ∀ r ∈ s.store.users, r.id ≠ s.fresh.nextId) :
      AccountEnds s v a (s.withUser v.now d, userReply 201 (.newItem s.fresh.nextId d v.now))

theorem addAccount_ends (a : NewAccount) : AccountEnds s v a (s.addAccount v a) := by
  rw [addAccount]
  cases hhash : Password.hash a.password with
  | error f => exact .refused rfl (not_successful 500 (by decide))
  | ok hash =>
    dsimp only
    have hadds : s.Adds v.now (s.addUser v.now
      ⟨some a.fullname, some a.email, some (Text.ofString hash), some a.permissions⟩) := addUser_adds _
    cases hadd : s.addUser v.now
        ⟨some a.fullname, some a.email, some (Text.ofString hash), some a.permissions⟩ with
    | mk t made =>
      rw [hadd] at hadds
      cases made with
      | error f =>
        cases f with
        | conflict => exact .refused hadds (not_successful 409 (by decide))
        | _ => exact .refused hadds (not_successful 500 (by decide))
      | ok user =>
        obtain ⟨d, hd, hfresh, rfl, rfl⟩ := addUser_eq_ok hadd
        obtain ⟨-, hemail, hpassword, -⟩ := bindUser_eq_ok hd
        have hkept : hash = d.password := Text.ofString_injective (Option.some.inj hpassword)
        exact .added (Option.some.inj hemail) (hkept ▸ hhash) hfresh

/-- A request for a new user ends as the adding of the account that it sends, or is refused before. -/
theorem createUser_ends (s : Service) (v : Visit) :
    (∃ reply, s.createUser v = (s, reply) ∧ ¬ Successful reply.status) ∨
      ∃ data a, v.request.object? = some data ∧ readAccount data = .ok a ∧
        AccountEnds s v a (s.createUser v) := by
  refine guarded_cases (motive := fun out => (∃ reply, out = (s, reply) ∧ ¬ Successful reply.status) ∨
    ∃ data a, v.request.object? = some data ∧ readAccount data = .ok a ∧ AccountEnds s v a out)
    (fun reply hrefused => .inl ⟨reply, rfl, (permitted_refuses hrefused).not_successful⟩)
    fun caller _ => ?_
  cases hdata : v.request.object? with
  | none => exact .inl ⟨_, rfl, not_successful 400 (by decide)⟩
  | some data =>
    dsimp only
    cases hread : readAccount data with
    | error c => exact .inl ⟨_, rfl, not_successful 400 (by decide)⟩
    | ok a =>
      dsimp only
      split
      · exact .inl ⟨_, rfl, not_successful 500 (by decide)⟩
      · exact .inl ⟨_, rfl, not_successful 409 (by decide)⟩
      · exact .inr ⟨data, a, rfl, hread, addAccount_ends a⟩

/-- What has been added when an account was created. -/
theorem createUser_created {email password : Text} (hdata : v.request.object? = some data)
    (hemail : data.get? "Email" = some (.text email))
    (hpassword : data.get? "Password" = some (.text password))
    (h : (s.createUser v).2.status = 201) :
    ∃ d, Text.strip email = Text.ofString d.email ∧ d.email ≠ "" ∧ password ≠ [] ∧
      Password.check password d.password = true ∧
      (∀ r ∈ s.store.users, r.id ≠ s.fresh.nextId) ∧
      s.createUser v
        = (s.withUser v.now d, userReply 201 (.newItem s.fresh.nextId d v.now)) := by
  have hok : Successful (s.createUser v).2.status := h ▸ successful_created
  rcases createUser_ends s v with ⟨reply, heq, hfails⟩ | ⟨data', a, hdata', hread, hends⟩
  · rw [heq] at hok
    exact absurd hok hfails
  · cases hdata.symm.trans hdata'
    obtain ⟨haddress, hsome, hword, hnonempty⟩ := readAccount_eq_ok hread hemail hpassword
    generalize hout : s.createUser v = out at hends hok ⊢
    cases hends with
    | refused _ hfails => exact absurd hok hfails
    | @added d hstored hhash hfresh =>
      refine ⟨d, haddress ▸ hstored, ?_, hnonempty, ?_, hfresh, rfl⟩
      · intro hempty
        rw [hstored, hempty] at hsome
        exact hsome rfl
      · rw [← hword]; exact Password.check_hash hhash

/-! ### Who is named -/

/-- The public record of a user begins with the id. -/
theorem publicMembers_id (u : User) :
    ∃ rest, u.userRecord.publicMembers = ("ID", .string u.id) :: rest := ⟨_, rfl⟩

theorem publicJson_injective {a b : User} (h : a.userRecord.publicJson = b.userRecord.publicJson) :
    a.id = b.id := by
  obtain ⟨_, ha⟩ := publicMembers_id a
  obtain ⟨_, hb⟩ := publicMembers_id b
  rw [Record.publicJson, Record.publicJson, ha, hb] at h
  injection h with h
  injection h with h _
  injection congrArg Prod.snd h with h
  exact Text.ofString_injective h

/-- The content of the answer to a login that names a user. -/
def loggedInJson (user : Json) : Json := .ofFields [("success", .bool true), ("user", user)]

theorem loggedInJson_injective {a b : Json} (h : loggedInJson a = loggedInJson b) : a = b := by
  injection h with h
  injection h with _ h
  injection h with h _
  exact congrArg Prod.snd h

/-- A login sees all of the address that an account is added under: this has no controls, and nothing
but white space stands behind the cut. -/
def SeenWhole (email : Text) : Prop :=
  (∀ p ∈ Text.strip email, p.isControl = false) ∧
    ∀ p ∈ email.withoutControls.drop loginEmailLimit.toNat, p.isBlank = true

theorem seenWhole_iff (email : Text) :
    SeenWhole email ↔ email.clean loginEmailLimit = Text.strip email :=
  (Text.kept_eq_strip_iff 99 email).symm

section NewAccount

variable {now later : Instant} {d : UserData} {email password : Text}

/-- Somebody who was added is found by the whole of the address. -/
theorem authenticate_withUser (hs : (s.withUser now d).store.Sound) (hnow : InEra now)
    (hright : Password.check password d.password = true) :
    Account.authenticate (s.withUser now d).store (Text.ofString d.email) (.text password)
      = .ok (some (.newItem s.fresh.nextId d now)) :=
  authenticate_newRow hs hnow (List.mem_append_right _ (List.mem_singleton.2 rfl)) hright

/-- Somebody who was added is found by no other part of the address. -/
theorem authenticate_part (hs : (s.withUser now d).store.Sound)
    (hfresh : ∀ r ∈ s.store.users, r.id ≠ s.fresh.nextId) {part : Text} {sent : Json} {user : User}
    (hpart : part.Sublist (Text.ofString d.email))
    (h : Account.authenticate (s.withUser now d).store part sent = .ok (some user))
    (hid : user.id = s.fresh.nextId) : part = Text.ofString d.email := by
  obtain ⟨c, rfl, hc⟩ := Text.ofString_sublist hpart
  obtain ⟨hfound, -⟩ := Account.authenticate_eq_ok.1 h
  obtain ⟨hnone, -⟩ | ⟨user', huser', r, hr, hrid, -, hsame⟩ := hs.userByEmail? c
  · rw [hnone] at hfound; cases hfound
  · cases hfound.symm.trans huser'
    obtain hr | hr := List.mem_append.1 hr
    · exact absurd (hrid.trans hid) (hfresh r hr)
    · rw [List.mem_singleton.1 hr] at hsame
      rw [noCaseSame_sublist hc hsame]

theorem loginEmail_text {r : Request} (hdata : r.object? = some data)
    (hemail : data.get? "email" = some (.text email)) :
    loginEmail r = email.clean loginEmailLimit := by
  rw [loginEmail, loginField_object hdata, hemail, Option.getD_some, Json.clean_text]

/-- The answer to a login after somebody was added names this user exactly if the login sees the whole
address. -/
theorem login_names_iff (hs : (s.withUser now d).store.Sound) (hnow : InEra now)
    (hfresh : ∀ r ∈ s.store.users, r.id ≠ s.fresh.nextId)
    (haddress : Text.strip email = Text.ofString d.email) (hsome : d.email ≠ "")
    (hnonempty : password ≠ []) (hright : Password.check password d.password = true)
    {m : Service} (hm : m.store = (s.withUser now d).store)
    (hnone : m.sessionUser v.session = none) (hdata : v.request.object? = some data)
    (hemail : data.get? "email" = some (.text email))
    (hpassword : data.get? "password" = some (.text password)) :
    (m.login v).status = 200 ∧ (m.login v).body
        = some (loggedInJson (Entry.newItem s.fresh.nextId d now : User).userRecord.publicJson) ↔
      SeenWhole email := by
  have hfield : loginField v.request "password" = .text password := by
    rw [loginField_object hdata, hpassword, Option.getD_some]
  have hseen : loginEmail v.request = email.clean loginEmailLimit := loginEmail_text hdata hemail
  rw [seenWhole_iff]
  constructor
  · rintro ⟨hstatus, hbody⟩
    have hends := login_ends m v
    generalize m.login v = reply at hends hstatus hbody
    cases hends with
    | already user h => rw [hnone] at h; cases h
    | refused _ _ h => exact absurd hstatus h
    | known user _ h =>
      rw [hm, hseen, hfield] at h
      have hid : user.id = s.fresh.nextId :=
        publicJson_injective (loggedInJson_injective (Option.some.inj hbody))
      have hpart : (email.clean loginEmailLimit).Sublist (Text.ofString d.email) :=
        haddress ▸ Text.kept_sublist_strip 99 email
      rw [authenticate_part hs hfresh hpart h hid, haddress]
  · intro hwhole
    have hauth := authenticate_withUser hs hnow hright
    rw [← hm, ← haddress, ← hwhole, ← hseen, ← hfield] at hauth
    have hfound : loginEmail v.request ≠ [] := by
      rw [hseen, hwhole, haddress]
      intro hempty
      have hempty : Text.ofString d.email = Text.ofString "" := hempty
      exact hsome (Text.ofString_injective hempty)
    have htruthy : (loginField v.request "password").truthy = true := by
      rw [hfield, Json.truthy, Bool.not_eq_true', List.isEmpty_eq_false_iff]; exact hnonempty
    rw [login_known hnone hfound htruthy hauth]
    exact ⟨rfl, rfl⟩

/-- Who can log in after an account was created: in every state that a service gets into, the answer
to the next login without a session, with the address and the password that were sent, names the new
user exactly if the login sees the whole address. -/
theorem created_logs_in_iff {policy : Policy} {settings : Settings} {platform : String}
    {begin : Instant} {first : Service} (hbegin : InEra begin)
    (hstart : start policy settings platform begin = .ok first) (hreach : first.Reaches s)
    (hnow : InEra now) {r r' : Request} {m m' : Service} {v v' : Visit}
    (hadd : s.arrival? now r = some (m, .createUser, v)) (hdata : r.object? = some data)
    (hemail : data.get? "Email" = some (.text email))
    (hpassword : data.get? "Password" = some (.text password))
    (hcreated : (s.handle now r).2.status = 201)
    (hlogin : (s.handle now r).1.arrival? later r' = some (m', .login, v'))
    (hnobody : (Cookie.sessionAt r'.cookie later).user = none) {data' : Json}
    (hdata' : r'.object? = some data') (hemail' : data'.get? "email" = some (.text email))
    (hpassword' : data'.get? "password" = some (.text password)) :
    ∃ user, (s.handle now r).2.body = some user ∧
      (((s.handle now r).1.handle later r').2.status = 200 ∧
          ((s.handle now r).1.handle later r').2.body = some (loggedInJson user) ↔
        SeenWhole email) := by
  have hs : (s.handle now r).1.Sound :=
    (Step.request now r hnow).sound (hreach.sound (start_sound hbegin hstart))
  obtain ⟨hat, hrequest, -⟩ := arrival?_visit hadd
  obtain ⟨-, hrequest', hsession⟩ := arrival?_visit hlogin
  have hmethod : r.method ≠ "HEAD" := fun h =>
    absurd (find_get (arrival?_found hadd) (.inr h)) (by decide)
  have hmethod' : r'.method ≠ "HEAD" := fun h =>
    absurd (find_get (arrival?_found hlogin) (.inr h)) (by decide)
  have hsame := (arrival?_same hlogin).store
  obtain ⟨hleft, hstatus⟩ := handle_arrived hadd
  rw [handle_body hlogin hmethod', (handle_arrived hlogin).2, handle_body hadd hmethod]
  rw [hstatus] at hcreated
  rw [← hrequest] at hdata
  rw [← hrequest'] at hdata'
  -- What the handler has added is the new user, under an id that no other row has.
  obtain ⟨d, haddress, hsome, hnonempty, hright, hfresh, hmade⟩ :=
    createUser_created hdata hemail hpassword hcreated
  have hdispatch : m.dispatch .createUser v
      = (m.withUser v.now d, userReply 201 (.newItem m.fresh.nextId d v.now)) := hmade
  rw [hleft, hdispatch] at hs hsame
  rw [hdispatch]
  refine ⟨_, rfl, ?_⟩
  exact login_names_iff hs.store (hat ▸ hnow) hfresh haddress hsome hnonempty hright hsame
    (sessionUser_none (hsession.trans hnobody)) hdata' hemail' hpassword'

end NewAccount

/-! ### Somebody new -/

/-- The first administrator adds somebody with an address, as JSON writes it. -/
def accountRequest (address : String) : Request :=
  ⟨"POST", ⟨defaultHost, "/api/users".toList, []⟩, [], false,
    some seedCookie, some ⟨some "application/json",
      "\x7b\"Fullname\":\"New\",\"Email\":\"" ++ address ++ "\",\"Password\":\"secret1\"\x7d"⟩⟩

/-- Somebody without a session logs in with this address. -/
def loginRequest (address : String) : Request :=
  ⟨"POST", ⟨defaultHost, "/api/login".toList, []⟩, [], false, none, some ⟨some "application/json",
      "\x7b\"email\":\"" ++ address ++ "\",\"password\":\"secret1\"\x7d"⟩⟩

/-- An account that is fit is added if no live user has the address. -/
theorem createUser_adds (hs : s.store.Sound) (hissued : s.Issued) {caller : Caller}
    (hcaller : s.permitted v Registry.adminName = .ok caller)
    (hdata : v.request.object? = some data) {a : NewAccount} (haccount : readAccount data = .ok a)
    {hash address fullname : String} (hhash : Password.hash a.password = .ok hash)
    (hname : a.fullname = Text.ofString fullname) (haddress : a.email = Text.ofString address)
    (hpermissions : a.permissions = 0) (hfree : s.store.candidates address = []) :
    s.createUser v = (s.withUser v.now ⟨fullname, address, hash, 0⟩,
      userReply 201 (.newItem s.fresh.nextId ⟨fullname, address, hash, 0⟩ v.now)) := by
  have hbound : bindUser ⟨some a.fullname, some a.email, some (Text.ofString hash),
      some a.permissions⟩ = .ok ⟨fullname, address, hash, 0⟩ := by
    rw [bindUser, hname, haddress, hpermissions, bindOption_ofString, bindOption_ofString,
      bindOption_ofString]
    rfl
  have htaken : emailTaken s.store a.email none = .ok false := by
    rw [emailTaken, haddress, hs.userByEmail?_eq, hfree]; rfl
  rw [createUser, guarded, hcaller]
  dsimp only
  rw [hdata]
  dsimp only
  rw [haccount]
  dsimp only
  rw [htaken]
  dsimp only
  rw [addAccount, hhash]
  dsimp only
  rw [addUser_free hs hissued hbound hfree]
  rfl

/-- The first administrator may do what administrators do. -/
theorem seed_permitted {first : Service}
    (h : start (.ofProfile .testing .standard) .standard "" 0 = .ok first) {v : Visit}
    (hnow : v.now = 0) (hheaders : v.request.headers = []) (hsession : v.session = seedCookie.session) :
    ∃ caller, first.permitted v Registry.adminName = .ok caller := by
  obtain ⟨x, hx, hknown⟩ :
      ∃ x, start (.ofProfile .testing .standard) .standard "" 0 = .ok x ∧
        (x.permitted ⟨0, seedLogin, seedCookie.session, ""⟩ Registry.adminName).toOption.isSome
          = true := ⟨_, rfl, by decide +kernel⟩
  cases h.symm.trans hx
  rw [permitted_congr (v := ⟨0, seedLogin, seedCookie.session, ""⟩) hnow hheaders hsession]
  cases hcaller : first.permitted ⟨0, seedLogin, seedCookie.session, ""⟩ Registry.adminName with
  | error reply => rw [hcaller] at hknown; cases hknown
  | ok caller => exact ⟨caller, rfl⟩

theorem accountRequest_arrives {first : Service}
    (hstart : start (.ofProfile .testing .standard) .standard "" 0 = .ok first) (address : String) :
    ∃ v caller, first.arrival? 0 (accountRequest address) = some (first, .createUser, v) ∧
      v.now = 0 ∧ v.request = accountRequest address ∧
      first.permitted v Registry.adminName = .ok caller := by
  obtain ⟨hpolicy, -⟩ := start_users hstart
  have hfound : find (accountRequest address).target.path (accountRequest address).method
      = .handler .createUser "" := by
    change find "/api/users".toList "POST" = _
    decide +kernel
  have harrives : first.arrival? 0 (accountRequest address) = _ := arrival?_unlimited
    (by rw [hpolicy]; rfl) (by rw [hpolicy]; rfl) (by rw [hpolicy]; rfl) hfound
  have hsession : (Cookie.sessionAt (accountRequest address).cookie 0).look ""
      = seedCookie.session := by
    change (Cookie.sessionAt (some seedCookie) 0).look "" = _
    decide +kernel
  obtain ⟨caller, hcaller⟩ := seed_permitted hstart (v := ⟨0, accountRequest address,
    (Cookie.sessionAt (accountRequest address).cookie 0).look "", ""⟩) rfl rfl hsession
  exact ⟨_, caller, harrives, rfl, rfl, hcaller⟩

theorem loginRequest_arrives {t : Service} (hpolicy : t.policy = .ofProfile .testing .standard)
    (now : Instant) (address : String) :
    ∃ v, t.arrival? now (loginRequest address) = some (t, .login, v) ∧
      v.request = loginRequest address ∧ v.session.user = none := by
  have hfound : find (loginRequest address).target.path (loginRequest address).method
      = .handler .login "" := by
    change find "/api/login".toList "POST" = _
    decide +kernel
  exact ⟨_, arrival?_unlimited (by rw [hpolicy]; rfl) (by rw [hpolicy]; rfl)
    (by rw [hpolicy]; rfl) hfound, rfl, rfl⟩

/-- What the first administrator sends is added if nobody has the address. -/
theorem accountRequest_adds {first : Service}
    (hstart : start (.ofProfile .testing .standard) .standard "" 0 = .ok first)
    {json address : String} {data : Json} (hdata : (accountRequest json).object? = some data)
    (haccount : readAccount data
      = .ok ⟨Text.ofString "New", Text.ofString address, Text.ofString "secret1", 0⟩)
    (hfree : noCaseSame "admin@example.com" address = false) :
    ∃ v hash, first.arrival? 0 (accountRequest json) = some (first, .createUser, v) ∧
      (first.handle 0 (accountRequest json)).2.status = 201 ∧
      (first.handle 0 (accountRequest json)).1 = first.withUser 0 ⟨"New", address, hash, 0⟩ := by
  obtain ⟨v, caller, harrives, hnow, hrequest, hcaller⟩ := accountRequest_arrives hstart json
  obtain ⟨hash, hhash⟩ : ∃ hash, Password.hash (Text.ofString "secret1") = .ok hash := ⟨_, rfl⟩
  have hnobody : first.store.candidates address = [] := by
    obtain ⟨-, _, -, husers⟩ := start_users hstart
    refine List.filter_eq_nil_iff.2 fun r hr => ?_
    have hr := (List.mem_filter.1 hr).1
    rw [husers, List.mem_singleton] at hr
    rw [hr, Bool.not_eq_true]
    exact hfree
  rw [← hrequest] at hdata
  have hmade := createUser_adds (start_sound inEra_zero hstart).store (start_issued hstart) hcaller
    hdata haccount hhash rfl rfl rfl hnobody
  rw [hnow] at hmade
  obtain ⟨hleft, hstatus⟩ := handle_arrived harrives
  have hdispatch : first.dispatch .createUser v = first.createUser v := rfl
  rw [hdispatch, hmade] at hleft hstatus
  exact ⟨v, hash, harrives, hstatus, hleft⟩

/-- The account that is sent, with the texts it is read from. -/
def sentAccount (data : Json) : Option NewAccount × Option Text × Option Text :=
  ((readAccount data).toOption, (data.get? "Email").map textOf, (data.get? "Password").map textOf)

theorem sentAccount_eq {a : NewAccount} {t t' : Text}
    (h : sentAccount data = (some a, some t, some t')) (ht : t ≠ []) (ht' : t' ≠ []) :
    readAccount data = .ok a ∧ data.get? "Email" = some (.text t) ∧
      data.get? "Password" = some (.text t') := by
  simp only [sentAccount, Prod.mk.injEq] at h
  obtain ⟨haccount, hemail, hpassword⟩ := h
  obtain ⟨value, hvalue, rfl⟩ := Option.map_eq_some_iff.1 hemail
  obtain ⟨value', hvalue', rfl⟩ := Option.map_eq_some_iff.1 hpassword
  exact ⟨toOption_eq_some.1 haccount, by rw [hvalue, ← eq_text_of_textOf ht],
    by rw [hvalue', ← eq_text_of_textOf ht']⟩

/-- The texts that a login is sent with. -/
theorem loginRequest_reads {json : String} {t t' : Text}
    (h : ((loginRequest json).object?.map fun data =>
      ((data.get? "email").map textOf, (data.get? "password").map textOf)) = some (some t, some t'))
    (ht : t ≠ []) (ht' : t' ≠ []) :
    ∃ data, (loginRequest json).object? = some data ∧ data.get? "email" = some (.text t) ∧
      data.get? "password" = some (.text t') := by
  obtain ⟨data, hdata, hboth⟩ := Option.map_eq_some_iff.1 h
  rw [Prod.mk.injEq] at hboth
  obtain ⟨value, hvalue, rfl⟩ := Option.map_eq_some_iff.1 hboth.1
  obtain ⟨value', hvalue', rfl⟩ := Option.map_eq_some_iff.1 hboth.2
  exact ⟨data, hdata, by rw [hvalue, ← eq_text_of_textOf ht],
    by rw [hvalue', ← eq_text_of_textOf ht']⟩

/-- Somebody whose address was sent with a blank in front logs in with the same text. -/
theorem created_logs_in_iff_newcomer :
    ∃ first user, start (.ofProfile .testing .standard) .standard "" 0 = .ok first ∧
      (first.handle 0 (accountRequest " New@example.com")).2.body = some user ∧
      ((first.handle 0 (accountRequest " New@example.com")).1.handle 0
        (loginRequest " New@example.com")).2.status = 200 ∧
      ((first.handle 0 (accountRequest " New@example.com")).1.handle 0
        (loginRequest " New@example.com")).2.body = some (loggedInJson user) := by
  obtain ⟨first, hstart⟩ :
      ∃ first, start (.ofProfile .testing .standard) .standard "" 0 = .ok first := ⟨_, rfl⟩
  obtain ⟨data, hdata, hsent⟩ : ∃ data, (accountRequest " New@example.com").object? = some data ∧
      sentAccount data = (some ⟨Text.ofString "New", Text.ofString "New@example.com",
        Text.ofString "secret1", 0⟩, some (Text.ofString " New@example.com"),
        some (Text.ofString "secret1")) :=
    Option.map_eq_some_iff.1 (by decide +kernel)
  obtain ⟨haccount, hemail, hpassword⟩ := sentAccount_eq hsent (by decide +kernel) (by decide +kernel)
  obtain ⟨data', hdata', hemail', hpassword'⟩ : ∃ data,
      (loginRequest " New@example.com").object? = some data ∧
      data.get? "email" = some (.text (Text.ofString " New@example.com")) ∧
      data.get? "password" = some (.text (Text.ofString "secret1")) :=
    loginRequest_reads (by decide +kernel) (by decide +kernel) (by decide +kernel)
  obtain ⟨v, hash, harrives, hcreated, hleft⟩ :=
    accountRequest_adds hstart hdata haccount (by decide +kernel)
  obtain ⟨v', harrives', -, -⟩ := loginRequest_arrives
    (t := (first.handle 0 (accountRequest " New@example.com")).1)
    (by rw [hleft]; exact (start_users hstart).1) 0 " New@example.com"
  obtain ⟨user, hbody, hiff⟩ := created_logs_in_iff inEra_zero hstart .refl inEra_zero harrives
    hdata hemail hpassword hcreated harrives' rfl hdata' hemail' hpassword'
  obtain ⟨hstatus, hnames⟩ := hiff.2 (by rw [SeenWhole]; decide +kernel)
  exact ⟨first, user, hstart, hbody, hstatus, hnames⟩

/-- Somebody whose address has a control in it is added, and cannot log in with it. -/
theorem control_locks_out :
    ∃ first data data', start (.ofProfile .testing .standard) .standard "" 0 = .ok first ∧
      (accountRequest "a\\u0001b@example.com").object? = some data ∧
      data.get? "Email" = some (.text (Text.ofString "a\x01b@example.com")) ∧
      data.get? "Password" = some (.text (Text.ofString "secret1")) ∧
      (loginRequest "a\\u0001b@example.com").object? = some data' ∧
      data'.get? "email" = some (.text (Text.ofString "a\x01b@example.com")) ∧
      data'.get? "password" = some (.text (Text.ofString "secret1")) ∧
      (first.handle 0 (accountRequest "a\\u0001b@example.com")).2.status = 201 ∧
      ((first.handle 0 (accountRequest "a\\u0001b@example.com")).1.handle 0
        (loginRequest "a\\u0001b@example.com")).2.status = 401 := by
  obtain ⟨first, hstart⟩ :
      ∃ first, start (.ofProfile .testing .standard) .standard "" 0 = .ok first := ⟨_, rfl⟩
  obtain ⟨data, hdata, hsent⟩ : ∃ data, (accountRequest "a\\u0001b@example.com").object? = some data ∧
      sentAccount data = (some ⟨Text.ofString "New", Text.ofString "a\x01b@example.com",
        Text.ofString "secret1", 0⟩, some (Text.ofString "a\x01b@example.com"),
        some (Text.ofString "secret1")) :=
    Option.map_eq_some_iff.1 (by decide +kernel)
  obtain ⟨haccount, hemail, hpassword⟩ := sentAccount_eq hsent (by decide +kernel) (by decide +kernel)
  obtain ⟨data', hdata', hemail', hpassword'⟩ : ∃ data,
      (loginRequest "a\\u0001b@example.com").object? = some data ∧
      data.get? "email" = some (.text (Text.ofString "a\x01b@example.com")) ∧
      data.get? "password" = some (.text (Text.ofString "secret1")) :=
    loginRequest_reads (by decide +kernel) (by decide +kernel) (by decide +kernel)
  obtain ⟨v, hash, harrives, hcreated, hleft⟩ :=
    accountRequest_adds hstart hdata haccount (by decide +kernel)
  refine ⟨first, data, data', hstart, hdata, hemail, hpassword, hdata', hemail', hpassword',
    hcreated, ?_⟩
  -- The login looks for the address without the control, which nobody has.
  obtain ⟨hpolicy, _, -, husers⟩ := start_users hstart
  have hs := (Step.request 0 (accountRequest "a\\u0001b@example.com") inEra_zero).sound
    (start_sound inEra_zero hstart)
  rw [hleft] at hs ⊢
  obtain ⟨v', harrives', hrequest, hnobody⟩ :=
    loginRequest_arrives (t := first.withUser 0 ⟨"New", "a\x01b@example.com", hash, 0⟩) hpolicy 0
      "a\\u0001b@example.com"
  have hlooked : loginEmail v'.request = Text.ofString "ab@example.com" := by
    rw [hrequest, loginEmail_text hdata' hemail']
    decide +kernel
  have hnone : (first.withUser 0 ⟨"New", "a\x01b@example.com", hash, 0⟩).store.candidates
      "ab@example.com" = [] := by
    refine List.filter_eq_nil_iff.2 fun r hr => ?_
    obtain hr | hr := List.mem_append.1 (List.mem_filter.1 hr).1
    · rw [husers, List.mem_singleton] at hr
      rw [hr]
      change ¬ noCaseSame "admin@example.com" "ab@example.com" = true
      decide
    · rw [List.mem_singleton.1 hr]
      change ¬ noCaseSame "a\x01b@example.com" "ab@example.com" = true
      decide
  have hfound := hs.store.userByEmail?_eq "ab@example.com"
  rw [hnone] at hfound
  have hrefused : (first.withUser 0 ⟨"New", "a\x01b@example.com", hash, 0⟩).login v'
      = .error 401 "Invalid email or password" := by
    refine login_unknown (sessionUser_none hnobody) ?_ ?_ (by rw [hlooked]; exact hfound)
    · rw [hlooked]; decide +kernel
    · rw [hrequest, loginField_object hdata', hpassword', Option.getD_some]
      decide +kernel
  rw [(handle_arrived harrives').2]
  exact congrArg Reply.status hrefused

end Service

end Pressroom
