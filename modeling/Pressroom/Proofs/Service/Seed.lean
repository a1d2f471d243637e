import Pressroom.Proofs.Json.Object
import Pressroom.Proofs.Secret.Password
import Pressroom.Proofs.Service.Address
import Pressroom.Proofs.Service.Login

/-!
The first administrator. A service that has just started has one user, under the address and with the
password of the settings; so this user can log in at once.
-/
namespace Pressroom

open Web

namespace Service

open Store

/-- The data of the administrator of the settings. -/
def seedData (settings : Settings) (hash : String) : UserData :=
  ⟨"Administrator", settings.adminEmail, hash, seedPermissions⟩

/-- A service that has just started insists on its policy and has one user, the administrator of the
settings. -/
theorem start_users {policy : Policy} {settings : Settings} {platform : String} {now : Instant}
    {first : Service} (h : start policy settings platform now = .ok first) :
    first.policy = policy ∧ ∃ hash,
      Password.hash (Text.ofString settings.adminPassword) = .ok hash ∧
      first.store.users = [.newRow (Fresh.idText 1) (seedData settings hash) now] := by
  rw [start] at h
  split at h
  · cases h
  · rename_i service hsetup
    cases h
    rw [setUp] at hsetup
    dsimp only at hsetup
    split at hsetup
    · cases hsetup
    · rename_i store seeded hmade
      cases hsetup
      refine ⟨rfl, ?_⟩
      rw [Store.setUp] at hmade
      split at hmade
      · cases hmade
      · rename_i created hcreated
        obtain ⟨schema, rfl⟩ := createMissing_eq_ok hcreated
        rw [if_neg (by simp [Store.blank]), seedUser] at hmade
        cases hhash : Password.hash (Text.ofString settings.adminPassword) with
        | error f => rw [hhash] at hmade; cases hmade
        | ok hash => rw [hhash] at hmade; cases hmade; exact ⟨hash, rfl, rfl⟩

/-- A live user is authenticated by the address, as the schema tells addresses apart, and the password. -/
theorem authenticate_row {s : Store} (hs : s.Sound) {row : Row UserData} (hmem : row ∈ s.users)
    (hlive : row.isLive = true) {address : String}
    (hsame : noCaseSame row.data.email address = true) {password : Text}
    (hright : Password.check password row.data.password = true) :
    Account.authenticate s (Text.ofString address) (.text password) = .ok (some row.item) := by
  refine Account.authenticate_eq_ok.2 ⟨?_, password, rfl, hright⟩
  rw [hs.userByEmail?_of_mem (mem_candidates.2 ⟨⟨hmem, hlive⟩, hsame⟩),
    readRow?_timed (hs.users.times row hmem)]

/-- A user who has not changed since is found by address and password. -/
theorem authenticate_newRow {s : Store} (hs : s.Sound) {now : Instant} (hnow : InEra now)
    {id : String} {d : UserData} {password : Text}
    (hmem : Entry.newRow id d now ∈ s.users)
    (hright : Password.check password d.password = true) :
    Account.authenticate s (Text.ofString d.email) (.text password)
      = .ok (some (.newItem id d now)) := by
  rw [← Entry.item_newRow hnow]
  exact authenticate_row hs hmem rfl ((noCaseSame_iff _ _).2 rfl) hright

/-! ### The first login -/

/-- The answer to a login gives no secret. -/
theorem loggedIn_secret (user : User) : (loggedIn user).body.bind (·.get? secretField) = none := by
  rw [loggedIn, Reply.json, Option.bind_some, Json.get?_ofFields]
  rfl

/-- The first administrator logs in, if nothing is set. -/
def seedLogin : Request :=
  ⟨"POST", ⟨defaultHost, "/api/login".toList, []⟩, [], false, none, some ⟨some "application/json",
    "\x7b\"email\":\"admin@example.com\",\"password\":\"admin\"\x7d"⟩⟩

/-- The cookie of the first administrator. -/
def seedCookie : Cookie := ⟨Session.empty.login (Fresh.idText 1) "", 0⟩

/-- A request arrives at a handler from somebody who has a permission. -/
def mayAsk (e : Endpoint) (permission : String) (a : Service × Endpoint × Visit) : Bool :=
  decide (a.2.1 = e) && (a.1.permitted a.2.2 permission).toOption.isSome

theorem mayAsk_iff {e e' : Endpoint} {permission : String} {m : Service} {v : Visit} :
    mayAsk e permission (m, e', v) = true ↔
      e' = e ∧ ∃ caller, m.permitted v permission = .ok caller := by
  simp only [mayAsk, Bool.and_eq_true, decide_eq_true_eq, Option.isSome_iff_exists, toOption_eq_some]

theorem seedLogin_reads : loginEmail seedLogin = Text.ofString "admin@example.com" ∧
    loginField seedLogin "password" = .text (Text.ofString "admin") := by
  have hpassword : textOf (loginField seedLogin "password") = Text.ofString "admin" := by
    decide +kernel
  refine ⟨by decide +kernel, ?_⟩
  rw [eq_text_of_textOf (v := loginField seedLogin "password") (by rw [hpassword]; decide),
    hpassword]

/-- The first administrator is logged in, and nothing else happens. -/
theorem seedLogin_succeeds {first : Service}
    (h : start (.ofProfile .testing .standard) .standard "" 0 = .ok first) :
    (first.handle 0 seedLogin).1 = first ∧ (first.handle 0 seedLogin).2.status = 200 ∧
      (first.handle 0 seedLogin).2.cookie = .replace (some seedCookie) ∧
      Client.givenSecret? (first.handle 0 seedLogin).2 = none := by
  obtain ⟨hpolicy, hash, hhash, husers⟩ := start_users h
  obtain ⟨hemail, hpassword⟩ := seedLogin_reads
  have hfound : find seedLogin.target.path seedLogin.method = .handler .login "" := by
    decide +kernel
  have harrives : first.arrival? 0 seedLogin
      = some (first, .login, ⟨0, seedLogin, .empty, ""⟩) :=
    arrival?_unlimited (by rw [hpolicy]; rfl) (by rw [hpolicy]; rfl) (by rw [hpolicy]; rfl) hfound
  have hauth := authenticate_newRow (start_sound inEra_zero h).store inEra_zero
    (by rw [husers]; exact List.mem_singleton.2 rfl) (Password.check_hash hhash)
  have hlogin : first.login ⟨0, seedLogin, .empty, ""⟩
      = (loggedIn (.newItem (Fresh.idText 1) (seedData .standard hash) 0)).withSession
          (Session.empty.login (Fresh.idText 1) "") := by
    refine login_known rfl ?_ ?_ (by rw [hemail, hpassword]; exact hauth)
    · rw [hemail]; decide
    · rw [hpassword]; decide
  obtain ⟨hleft, hstatus⟩ := handle_arrived harrives
  refine ⟨hleft, ?_, ?_, ?_⟩
  · rw [hstatus]; exact congrArg Reply.status hlogin
  · rw [handle_sends harrives, dispatch, hlogin]
    rfl
  · rw [Client.givenSecret?, handle_body harrives (by decide), dispatch, hlogin,
      Reply.withSession]
    dsimp only
    rw [loggedIn_secret]

end Service

end Pressroom
