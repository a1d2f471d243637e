import Pressroom.Proofs.Service.Failure

/-!
New passwords. A password passes its check if it has enough code points, and it has a hash if it has no
lone half and few enough bytes; so not every password that passes can be hashed. Three handlers hash a
password that has passed. `Hashes` says when one of them comes to that point, and what happens there is
the same in all of them: the request fails if the password has no hash. A request that comes to no such
password fails only on the way to its handler, or for something else that it sends.
-/
namespace Pressroom

open Web

/-! ### Checks and hashes -/

/-- The check of a new password counts code points, and does not look at them. -/
theorem Check.password_eq_ok {v : Json} :
    Check.password v = .ok () ↔ ∃ p, v = .text p ∧ Complaint.passwordMin ≤ p.length := by
  constructor
  · intro h
    unfold Check.password at h
    split at h
    · cases h
    · split at h
      · rename_i p _
        split at h
        · cases h
        · rename_i hlong; exact ⟨p, rfl, Nat.not_lt.1 hlong⟩
      · cases h
  · rintro ⟨p, rfl, hlong⟩
    cases p with
    | nil => exact absurd hlong (by decide)
    | cons c p =>
      unfold Check.password
      rw [if_neg (by simp [Json.truthy])]
      exact if_neg (Nat.not_lt.2 hlong)

/-- A password is stored and is right afterwards unless it is one of those without a hash. -/
theorem Password.usable_iff (p : Text) :
    (∃ hash, Password.hash p = .ok hash ∧ Password.check p hash = true) ↔ ¬ Hashless p := by
  rw [← hash_fails_iff]
  cases hhash : Password.hash p with
  | error f =>
    constructor
    · rintro ⟨hash, h, -⟩; cases h
    · exact fun h => absurd ⟨f, rfl⟩ h
  | ok hash =>
    constructor
    · rintro - ⟨f, h⟩; cases h
    · exact fun _ => ⟨hash, rfl, check_hash hhash⟩

/-- The handlers that take a new password. -/
def Web.Endpoint.takesPassword : Endpoint → Bool
  | .createUser | .updateUser | .changePassword => true
  | _ => false

namespace Service

open Store

variable {s : Service} {v : Visit} {now : Instant} {r : Request} {e : Endpoint} {p : Text}
  {data : Json}

/-! ### The point where a password is hashed -/

/-- The new password that is sent to a handler. -/
def sentPassword (r : Request) : Endpoint → Json
  | .changePassword => (readPasswordChange r).new
  | _ => (r.object?.getD .null).getD "Password"

/-- The handler is about to hash a password: whoever asks may do so, everything that is sent has
passed, and parts that are stored before the password are stored. -/
inductive Hashes (s : Service) (v : Visit) : Endpoint → Text → Prop
  | added {caller : Caller} {data : Json} {account : NewAccount}
      (permitted : s.permitted v Registry.adminName = .ok caller)
      (content : v.request.object? = some data) (read : readAccount data = .ok account)
      (free : emailTaken s.store account.email none = .ok false) :
      Hashes s v .createUser account.password
  | changed {caller : Caller} {data : Json} {row : Row UserData} {changes : UserChanges} {p : Text}
      {t : Store} (permitted : s.permitted v Registry.adminName = .ok caller)
      (content : v.request.object? = some data)
      (found : findRow? s.store.users false v.id = some row)
      (read : readUserChanges s.store v.id data = .ok (changes, some p))
      (stored : storeChanges s.store v changes = .ok t) : Hashes s v .updateUser p
  | own {user : User} {current p : Text} (known : s.sessionUser v.session = some user)
      (fit : (readPasswordChange v.request).fault? = none)
      (sent : (readPasswordChange v.request).current = .text current)
      (right : Password.check current user.data.password = true)
      (new : (readPasswordChange v.request).new = .text p) : Hashes s v .changePassword p

/-- The password of an account that is read was sent, and has passed its check. -/
theorem readAccount_password {a : NewAccount} (h : readAccount data = .ok a) :
    data.getD "Password" = .text a.password ∧ Check.password (.text a.password) = .ok () := by
  obtain ⟨-, -, h⟩ := bind_eq_ok.1 h
  obtain ⟨-, -, h⟩ := bind_eq_ok.1 h
  obtain ⟨-, -, h⟩ := bind_eq_ok.1 h
  obtain ⟨⟨⟩, hcheck, h⟩ := bind_eq_ok.1 h
  obtain ⟨-, -, h⟩ := bind_eq_ok.1 h
  cases h
  obtain ⟨p, hp, -⟩ := Check.password_eq_ok.1 hcheck
  rw [hp] at hcheck
  dsimp only
  rw [hp]
  exact ⟨rfl, hcheck⟩

/-- The new password of a change without a fault has passed its check. -/
theorem PasswordChange.new_fits {c : PasswordChange} (h : c.fault? = none) :
    Check.password c.new = .ok () := by
  rw [PasswordChange.fault?] at h
  split at h
  · cases h
  · split at h
    · cases h
    · split at h
      · cases h
      · assumption

/-- What is hashed is the password that was sent, and it has passed its check. -/
theorem Hashes.sent (h : s.Hashes v e p) :
    sentPassword v.request e = .text p ∧ Check.password (.text p) = .ok () := by
  cases h with
  | added _ hdata hread _ =>
    rw [sentPassword, hdata]
    · exact readAccount_password hread
    · rintro ⟨⟩
  | changed _ hdata _ hread _ =>
    obtain ⟨-, -, -, hpassword, -⟩ := readUserChanges_eq_ok.1 hread
    rcases readPassword_eq_ok.1 hpassword with ⟨h, -⟩ | ⟨p, h, hsent, hcheck⟩
    · cases h
    · cases h
      rw [sentPassword, hdata]
      · exact ⟨hsent, hcheck⟩
      · rintro ⟨⟩
  | own _ hfit _ _ hnew => exact ⟨hnew, hnew ▸ PasswordChange.new_fits hfit⟩

/-- A password without a hash is a failure of every handler that comes to hash it. -/
theorem Hashes.fails (hs : s.store.Sound) (h : s.Hashes v e p) (hhashless : Password.Hashless p) :
    (s.dispatch e v).2.status = 500 := by
  obtain ⟨f, hhash⟩ := Password.hash_fails_iff.2 hhashless
  cases h with
  | added hpermitted hdata hread hfree =>
    rw [dispatch, createUser, guarded, hpermitted]
    dsimp only
    rw [hdata]
    dsimp only
    rw [hread]
    dsimp only
    rw [hfree]
    dsimp only
    rw [addAccount, hhash]
    rfl
  | changed hpermitted hdata hfound hread hstored =>
    rw [dispatch, updateUser_of_live hs hpermitted hdata hfound, changeUser, hread]
    dsimp only
    rw [hstored]
    dsimp only
    rw [storeNewPassword, hhash]
    rfl
  | own hknown hfit hsent hright hnew =>
    rw [dispatch, changePassword, hknown]
    dsimp only
    rw [hfit]
    dsimp only
    rw [hsent]
    dsimp only
    rw [if_pos hright, hnew]
    unfold storePassword
    dsimp only
    rw [hhash]
    rfl

/-! ### Nothing else fails -/

/-- What is sent to a handler beside a new password does not make it fail: the name and the address
have no lone half, and the current password is a text. -/
structure OthersFit (r : Request) (e : Endpoint) : Prop where
  names : e ≠ .changePassword → ∀ data, r.object? = some data → data.NamesUnbroken
  current : e = .changePassword → ∃ t, (readPasswordChange r).current = .text t

theorem readAccount_unbroken (hdata : data.NamesUnbroken) {a : NewAccount}
    (h : readAccount data = .ok a) : a.fullname.Unbroken ∧ a.email.Unbroken := by
  obtain ⟨-, -, h⟩ := bind_eq_ok.1 h
  obtain ⟨-, -, h⟩ := bind_eq_ok.1 h
  obtain ⟨-, -, h⟩ := bind_eq_ok.1 h
  obtain ⟨-, -, h⟩ := bind_eq_ok.1 h
  obtain ⟨-, -, h⟩ := bind_eq_ok.1 h
  cases h
  exact ⟨tidyName_unbroken fun x hx => hdata _ (by simp) x (Json.get?_of_getD hx nofun),
    tidyEmail_unbroken fun x hx => hdata _ (by simp) x (Json.get?_of_getD hx nofun)⟩

/-- An account with a password that has a hash is added, or somebody has the address. -/
theorem addAccount_fails (hs : s.store.Sound) {a : NewAccount} (hname : a.fullname.Unbroken)
    (hemail : a.email.Unbroken) (hfit : a.Fit) (hfails : (s.addAccount v a).2.status = 500) :
    Password.Hashless a.password := by
  rw [addAccount] at hfails
  cases hhash : Password.hash a.password with
  | error f => exact Password.hash_fails_iff.1 ⟨f, hhash⟩
  | ok hash =>
    obtain ⟨hleast, hmost⟩ := hfit.permissions
    rw [Check.permissionsMax] at hmost
    rw [hhash] at hfails
    dsimp only at hfails
    rw [addUser] at hfails
    cases hmade : s.store.createUser s.fresh.nextId v.now
        ⟨some a.fullname, some a.email, some (Text.ofString hash), some a.permissions⟩ with
    | error f =>
      rw [hmade, hs.createUser hname hemail ⟨by omega, by omega⟩ hmade] at hfails
      cases hfails
    | ok made => rw [hmade] at hfails; cases hfails

theorem createUser_fails (hs : s.Sound)
    (hdata : ∀ data, v.request.object? = some data → data.NamesUnbroken) :
    (s.createUser v).2.status = 500 → ∃ p, s.Hashes v .createUser p ∧ Password.Hashless p := by
  refine guarded_cases
    (motive := fun a => a.2.status = 500 → ∃ p, s.Hashes v .createUser p ∧ Password.Hashless p)
    (fun reply hrefused hfails => absurd hfails
      (permitted_answers hs (e := .createUser) rfl hrefused)) fun caller hpermitted => ?_
  cases hobject : v.request.object? with
  | none => rintro ⟨⟩
  | some data =>
    dsimp only
    cases hread : readAccount data with
    | error c => rintro ⟨⟩
    | ok account =>
      obtain ⟨hname, hemail⟩ := readAccount_unbroken (hdata data hobject) hread
      obtain ⟨taken, htaken⟩ : ∃ taken, emailTaken s.store account.email none = .ok taken := by
        obtain ⟨address, haddress⟩ := hemail.string
        obtain ⟨taken, htaken, -⟩ := hs.store.emailTaken_eq address none
        exact ⟨taken, by rw [haddress, htaken]⟩
      dsimp only
      rw [htaken]
      cases taken with
      | true => rintro ⟨⟩
      | false =>
        intro hfails
        exact ⟨_, .added hpermitted hobject hread htaken,
          addAccount_fails hs.store hname hemail (readAccount_fit hread) hfails⟩

theorem updateUser_fails (hs : s.Sound) (hnow : InEra v.now)
    (hdata : ∀ data, v.request.object? = some data → data.NamesUnbroken) :
    (s.updateUser v).2.status = 500 → ∃ p, s.Hashes v .updateUser p ∧ Password.Hashless p := by
  refine guarded_cases
    (motive := fun a => a.2.status = 500 → ∃ p, s.Hashes v .updateUser p ∧ Password.Hashless p)
    (fun reply hrefused hfails => absurd hfails
      (permitted_answers hs (e := .updateUser) rfl hrefused)) fun caller hpermitted => ?_
  cases hobject : v.request.object? with
  | none => rintro ⟨⟩
  | some data =>
    have huser := hs.store.user? v.id
    rw [← Visit.key] at huser
    dsimp only
    rw [huser]
    cases hfound : findRow? s.store.users false v.id with
    | none => rintro ⟨⟩
    | some row =>
      intro hfails
      obtain ⟨changes, p, t, hread, hstored, hhashless⟩ :=
        changeUser_fails hs.store hnow hfound (hdata data hobject) hfails
      exact ⟨p, .changed hpermitted hobject hfound hread hstored, hhashless⟩

theorem changePassword_fails (hs : s.Sound)
    (hcurrent : ∃ t, (readPasswordChange v.request).current = .text t)
    (hfails : (s.changePassword v).2.status = 500) :
    ∃ p, s.Hashes v .changePassword p ∧ Password.Hashless p := by
  obtain ⟨current, hcurrent⟩ := hcurrent
  rw [changePassword] at hfails
  split at hfails
  · cases hfails
  · rename_i user hknown
    dsimp only at hfails
    split at hfails
    · cases hfails
    · rename_i hfit
      rw [hcurrent] at hfails
      dsimp only at hfails
      split at hfails
      · rename_i hright
        obtain ⟨p, hnew, -⟩ := Check.password_eq_ok.1 (PasswordChange.new_fits hfit)
        refine ⟨p, .own hknown hfit hcurrent hright hnew, Password.hash_fails_iff.1 ?_⟩
        rw [hnew] at hfails
        unfold storePassword at hfails
        cases hhash : Password.hash p with
        | error f => exact ⟨f, rfl⟩
        | ok hash =>
          obtain ⟨made, hmade⟩ := hs.store.updatePassword user.id v.now hash
          dsimp only at hfails
          rw [hhash] at hfails
          dsimp only at hfails
          rw [hmade] at hfails
          cases hfails
      · cases hfails

/-- A handler that takes a new password and fails has come to one without a hash. -/
theorem dispatch_fails (hs : s.Sound) (hnow : InEra v.now) (he : e.takesPassword = true)
    (hfit : OthersFit v.request e) (hfails : (s.dispatch e v).2.status = 500) :
    ∃ p, s.Hashes v e p ∧ Password.Hashless p := by
  cases e
  case createUser => exact createUser_fails hs (hfit.names (by decide)) hfails
  case updateUser => exact updateUser_fails hs hnow (hfit.names (by decide)) hfails
  case changePassword => exact changePassword_fails hs (hfit.current rfl) hfails
  all_goals cases he

/-! ### Requests -/

/-- A request reaches its handler, and the handler is about to hash a password. -/
def HashesAt (s : Service) (now : Instant) (r : Request) (e : Endpoint) (p : Text) : Prop :=
  ∃ m v, s.arrival? now r = some (m, e, v) ∧ m.Hashes v e p

/-- A password can be stored and is right afterwards exactly if it is none of those without a hash,
whatever its check says. In every state that a service gets into, a password that a request comes to
hash was sent and has passed its check, and the request fails if it has no hash. A request that takes a
password fails for nothing else behind the guards, if the rest of what it sends is fit. -/
theorem new_password_fails {policy : Policy} {settings : Settings} {platform : String}
    {begin now : Instant} {first s : Service} {r : Request} (hbegin : InEra begin)
    (hstart : start policy settings platform begin = .ok first) (hreach : first.Reaches s)
    (hnow : InEra now) :
    (∀ p, (∃ hash, Password.hash p = .ok hash ∧ Password.check p hash = true) ↔
      ¬ Password.Hashless p) ∧
    (∀ e p, s.HashesAt now r e p → sentPassword r e = .text p ∧
      Check.password (.text p) = .ok () ∧
      (Password.Hashless p → (s.handle now r).2.status = 500)) ∧
    ∀ e id, find r.target.path r.method = .handler e id → e.takesPassword = true → OthersFit r e →
      (s.handle now r).2.status = 500 → s.LimitFails r ∨ s.GuardFails now r ∨
        ∃ p, s.HashesAt now r e p ∧ Password.Hashless p := by
  have hs := hreach.sound (start_sound hbegin hstart)
  have hsound : ∀ {m e v}, s.arrival? now r = some (m, e, v) → m.Sound := fun harrival =>
    have hsame := arrival?_same harrival
    ⟨hsame.store ▸ hs.store, hsame.registry ▸ hs.registry⟩
  refine ⟨Password.usable_iff, ?_, ?_⟩
  · rintro e p ⟨m, v, harrival, hhashes⟩
    obtain ⟨-, rfl, -⟩ := arrival?_visit harrival
    obtain ⟨hsent, hcheck⟩ := hhashes.sent
    refine ⟨hsent, hcheck, fun hhashless => ?_⟩
    rw [(handle_arrived harrival).2]
    exact hhashes.fails (hsound harrival).store hhashless
  · intro e id hfound htakes hfit hfails
    rcases handle_fails_iff.1 hfails with h | h | ⟨m, e', v, harrival, hdispatch⟩
    · exact .inl h
    · exact .inr (.inl h)
    · cases hfound.symm.trans (arrival?_found harrival)
      obtain ⟨hsince, rfl, -⟩ := arrival?_visit harrival
      obtain ⟨p, hhashes, hhashless⟩ :=
        dispatch_fails (hsound harrival) (hsince ▸ hnow) htakes hfit hdispatch
      exact .inr (.inr ⟨p, ⟨m, v, harrival, hhashes⟩, hhashless⟩)

/-! ### One letter too many -/

/-- Seventy-three letters, of one byte each. -/
def longPassword : String := String.ofList (List.replicate 73 'x')

/-- The first administrator adds somebody with this password. -/
def longAccount : Request :=
  ⟨"POST", ⟨defaultHost, "/api/users".toList, []⟩, [], false, some seedCookie,
    some ⟨some "application/json", "\x7b\"Fullname\":\"New\",\"Email\":\"new@example.com\","
      ++ "\"Password\":\"" ++ longPassword ++ "\"\x7d"⟩⟩

theorem longAccount_status :
    ∃ first, start (.ofProfile .testing .standard) .standard "" 0 = .ok first ∧
      (first.handle 0 longAccount).2.status = 500 := ⟨_, rfl, by decide +kernel⟩

theorem longAccount_fit : OthersFit longAccount .createUser := by
  have hsent : (longAccount.object?.map fun data =>
      ["Fullname", "Email"].map fun name => (data.get? name).map textOf)
        = some [some (Text.ofString "New"), some (Text.ofString "new@example.com")] := by
    decide +kernel
  refine ⟨fun _ data hdata name hname t ht => ?_, by rintro ⟨⟩⟩
  rw [hdata, Option.map_some, Option.some.injEq] at hsent
  have htext : some t ∈ ["Fullname", "Email"].map fun name => (data.get? name).map textOf :=
    List.mem_map.2 ⟨name, hname, by rw [ht]; rfl⟩
  rw [hsent] at htext
  simp only [List.mem_cons, Option.some.injEq, List.not_mem_nil, or_false] at htext
  rcases htext with rfl | rfl
  · exact Text.unbroken_ofString _
  · exact Text.unbroken_ofString _

/-- It fails, and not on the way; so it has come to a password that passes its check and has no
hash. -/
theorem new_password_fails_letters :
    ∃ first p, start (.ofProfile .testing .standard) .standard "" 0 = .ok first ∧
      (first.handle 0 longAccount).2.status = 500 ∧
      first.HashesAt 0 longAccount .createUser p ∧ Check.password (.text p) = .ok () ∧
      Password.Hashless p ∧ ¬ ∃ hash, Password.hash p = .ok hash ∧ Password.check p hash = true := by
  obtain ⟨first, hstart, hstatus⟩ := longAccount_status
  have hfound : find longAccount.target.path longAccount.method = .handler .createUser "" := by
    decide +kernel
  obtain ⟨hpolicy, -⟩ := start_users hstart
  obtain ⟨husable, hhashes, hfails⟩ :=
    new_password_fails (r := longAccount) inEra_zero hstart .refl inEra_zero
  rcases hfails .createUser "" hfound rfl longAccount_fit hstatus with
    ⟨limit, hlimit, -⟩ | ⟨-, -, ⟨hneeds, -, -, -⟩⟩ | ⟨p, hcomes, hhashless⟩
  · rw [hpolicy] at hlimit; cases hlimit
  · rw [hpolicy] at hneeds; cases hneeds
  · exact ⟨first, p, hstart, hstatus, hcomes, (hhashes _ _ hcomes).2.1, hhashless,
      fun h => (husable p).1 h hhashless⟩

/-- The check lets seventy-three letters through, which cannot be hashed, and a request of an
administrator to add somebody with them fails. -/
theorem long_password_fails :
    Check.password (.string longPassword) = .ok () ∧
    Password.hash (Text.ofString longPassword) = .error .tooLong ∧
    ∃ first, start (.ofProfile .testing .standard) .standard "" 0 = .ok first ∧
      (first.handle 0 seedLogin).2.status = 200 ∧
      (first.handle 0 seedLogin).2.cookie = .replace longAccount.cookie ∧
      ((first.handle 0 seedLogin).1.handle 0 longAccount).2.status = 500 := by
  obtain ⟨first, hstart, hstatus⟩ := longAccount_status
  obtain ⟨hleft, hlogged, hcookie, -⟩ := seedLogin_succeeds hstart
  exact ⟨Check.password_eq_ok.2 ⟨_, rfl, by decide +kernel⟩, by rfl, first, hstart, hlogged, hcookie,
    by rw [hleft]; exact hstatus⟩

end Service

end Pressroom
