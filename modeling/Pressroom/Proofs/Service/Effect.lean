import Mathlib.Logic.Relation
import Pressroom.Service.Handle
import Pressroom.Proofs.Store.Lookup
import Pressroom.Proofs.Web.Routing

/-!
What a handler does to the store. `dispatch_settles` says it once for all of them: apart from the
change of a user, a handler leaves the store alone, or makes one change of it and answers with
success. The change of a user may make two changes, since the password is stored by itself.
-/
namespace Pressroom

open Web

/-- The status of an answer that reports success. -/
def Web.Successful (status : Nat) : Prop := 200 ≤ status ∧ status < 300

namespace Store

/-- Changes of the store, one after the other, all at one instant. -/
abbrev Writes (now : Instant) : Store → Store → Prop := Relation.ReflTransGen (Write now)

theorem Writes.sound {now : Instant} (hnow : InEra now) {s s' : Store} (w : Writes now s s')
    (h : s.Sound) : s'.Sound := by
  induction w with
  | refl => exact h
  | tail _ w ih => exact w.sound hnow ih

/-! ### Reading back what was written -/

theorem post?_of_mem {s : Store} (hs : s.Sound) {id : Text} {r : Row PostData} (hr : r ∈ s.posts)
    (hlive : r.isLive = true) (hid : bind id = .ok r.id) :
    ∃ p, s.post? id false = .ok (some p) ∧ p.id = r.id ∧ p.data = r.data := by
  have hfound : findRow? s.posts false r.id = some r :=
    findRow?_of_mem hs.posts.ids hr (.inr hlive)
  refine ⟨r.item, ?_, rfl, rfl⟩
  rw [bind_eq_ok_iff.1 hid, hs.post?, hfound]
  rfl

end Store

namespace Service

open Store

variable {s : Service} {v : Visit}

/-- Whatever a guarded handler does, it does for a caller with the permission or not at all. -/
theorem guarded_cases {motive : Service × Reply → Prop} {permission : String}
    {action : Caller → Service × Reply}
    (refused : ∀ reply, s.permitted v permission = .error reply → motive (s, reply))
    (granted : ∀ caller, s.permitted v permission = .ok caller → motive (action caller)) :
    motive (s.guarded v permission action) := by
  rw [guarded]
  cases h : s.permitted v permission with
  | error reply => exact refused reply h
  | ok caller => exact granted caller h

/-- An answer of a guard: it leaves the session alone, and says that the sender is not known or lacks
the permission, or that something is broken. -/
structure Refuses (reply : Reply) : Prop where
  session : reply.session = none
  status : reply.status = 401 ∨ reply.status = 403 ∨ reply.status = 500

theorem not_successful (status : Nat) (h : 300 ≤ status) : ¬ Successful status :=
  fun hsuccess => Nat.not_lt.2 h hsuccess.2

theorem Refuses.not_successful {reply : Reply} (h : Refuses reply) : ¬ Successful reply.status := by
  refine Service.not_successful _ ?_
  have hstatus := h.status
  omega

theorem caller_refuses {reply : Reply} (h : s.caller v = .error reply) : Refuses reply := by
  rw [caller] at h
  repeat' split at h
  all_goals cases h
  all_goals exact ⟨rfl, by decide⟩

theorem permitted_refuses {permission : String} {reply : Reply}
    (h : s.permitted v permission = .error reply) : Refuses reply := by
  rw [permitted] at h
  split at h
  · rename_i hrefused; cases h; exact caller_refuses hrefused
  · split at h
    · cases h; exact ⟨rfl, .inr (.inr rfl)⟩
    · cases h; exact ⟨rfl, .inr (.inl rfl)⟩
    · cases h

/-- The store is left alone, or changed once with an answer that reports success. -/
def Settles (s : Service) (v : Visit) (r : Service × Reply) : Prop :=
  r.1.store = s.store ∨ Write v.now s.store r.1.store ∧ Successful r.2.status

theorem settles_refl (reply : Reply) : Settles s v (s, reply) := .inl rfl

theorem successful_ok : Successful 200 := ⟨by decide, by decide⟩

theorem successful_created : Successful 201 := ⟨by decide, by decide⟩

/-- A handler settles if it makes a change of the store that says whether it found its row, and
reports success exactly when it did. -/
theorem settles_of_change {r : StoreResult (Store × Bool)} {failed missing : Reply} :
    (∀ t found, r = .ok (t, found) →
      t = s.store ∧ found = false ∨ found = true ∧ Write v.now s.store t) →
    Settles s v (match r with
      | .error _ => (s, failed)
      | .ok (_, false) => (s, missing)
      | .ok (store, true) => ({ s with store }, .success)) := by
  intro h
  cases r with
  | error f => exact settles_refl _
  | ok made =>
    obtain ⟨store, found⟩ := made
    rcases h store found rfl with ⟨-, rfl⟩ | ⟨rfl, w⟩
    · exact settles_refl _
    · exact .inr ⟨w, successful_ok⟩

/-! ### Adding rows -/

/-- What an addition does: one change of the store, or none if it is refused. -/
def Adds {α : Type} (s : Service) (now : Instant) (r : Service × StoreResult α) : Prop :=
  match r.2 with
  | .error _ => r.1.store = s.store
  | .ok _ => Write now s.store r.1.store

section Adds

variable {now : Instant}

theorem Adds.writes {α : Type} {r : Service × StoreResult α} (h : s.Adds now r) :
    Writes now s.store r.1.store := by
  obtain ⟨t, made⟩ := r
  cases made with
  | error f =>
    have hsame : t.store = s.store := h
    rw [hsame]
  | ok a => exact .single h

theorem addUser_adds (n : NewUser) : s.Adds now (s.addUser now n) := by
  rw [addUser]
  cases h : s.store.createUser s.fresh.nextId now n with
  | error f => exact rfl
  | ok made =>
    obtain ⟨data, -, hfresh, hfree, hstore, -⟩ := createUser_eq_ok h
    have w : Write now s.store made.1 := hstore ▸ .addUser _ data hfresh hfree
    exact w

theorem addPost_adds (n : PostParts) : s.Adds now (s.addPost now n) := by
  rw [addPost]
  cases h : s.store.createPost s.fresh.nextId now n with
  | error f => exact rfl
  | ok made =>
    obtain ⟨data, -, hfresh, hstore, -⟩ := createPost_eq_ok h
    have w : Write now s.store made.1 := hstore ▸ .addPost _ data hfresh
    exact w

theorem addKey_adds (n : KeyParts) : s.Adds now (s.addKey now n) := by
  rw [addKey]
  cases h : s.store.createKey s.fresh.nextId now n with
  | error f => exact rfl
  | ok made =>
    obtain ⟨data, -, hfresh, hfree, hstore, -⟩ := createKey_eq_ok h
    have w : Write now s.store made.1 := hstore ▸ .addKey _ data hfresh hfree
    exact w

/-- A key that is issued carries the digest of its token, and its owner and expiry as they are given. -/
theorem issueKey_eq_ok {owner : Option Text} {expires : Option Int} {t : Service} {key : ApiKey}
    {token : String} (h : s.issueKey now owner expires = (t, .ok (key, token))) :
    token = s.fresh.nextToken ∧ ∃ data : KeyData,
      data.digest = some (Account.tokenDigest token) ∧ bindOption owner = .ok data.owner ∧
      data.expires = expires ∧ (∀ r ∈ s.store.keys, r.id ≠ s.fresh.nextId) ∧
      s.store.digestTaken data.digest = false ∧
      t.store = { s.store with keys := s.store.keys ++ [.newRow s.fresh.nextId data now] } ∧
      key = .newItem s.fresh.nextId data now := by
  rw [issueKey] at h
  cases hk : Account.issue s.store s.fresh.nextId s.fresh.nextToken now owner expires with
  | error f => rw [hk] at h; cases h
  | ok made =>
    rw [hk] at h
    cases h
    obtain ⟨data, hdata, hfresh, hfree, hstore, hkey⟩ := createKey_eq_ok hk
    obtain ⟨hdigest, howner, hexpires⟩ := bindKey_eq_ok hdata
    rw [bindOption_ofString] at hdigest
    exact ⟨rfl, data, (Except.ok.inj hdigest).symm, howner, bindWholeOption_eq_ok hexpires, hfresh,
      hfree, hstore, hkey⟩

theorem issueKey_adds (owner : Option Text) (expires : Option Int) :
    s.Adds now (s.issueKey now owner expires) := by
  cases h : s.issueKey now owner expires with
  | mk t made =>
    cases made with
    | error f =>
      rw [issueKey] at h
      split at h <;> cases h
      exact rfl
    | ok issued =>
      obtain ⟨-, data, -, -, -, hfresh, hfree, hstore, -⟩ := issueKey_eq_ok h
      have w : Write now s.store t.store := hstore ▸ .addKey _ data hfresh hfree
      exact w

end Adds

/-! ### Posts -/

theorem createPost_settles : Settles s v (s.createPost v) := by
  rw [createPost]
  refine guarded_cases (fun reply _ => settles_refl reply) fun caller _ => ?_
  split
  · exact settles_refl _
  · split
    · exact settles_refl _
    · rename_i parts _
      have hadds : s.Adds v.now (s.addPost v.now parts) := addPost_adds parts
      cases h : s.addPost v.now parts with
      | mk t made =>
        rw [h] at hadds
        cases made with
        | error f => exact .inl hadds
        | ok post => exact .inr ⟨hadds, successful_created⟩

/-- A post that was changed is read back, so the change is answered with success. -/
theorem settles_of_post (hs : s.store.Sound) (hnow : InEra v.now) {store : Store}
    (w : Write v.now s.store store) {row : Row PostData} (hrow : row ∈ store.posts)
    (hlive : row.isLive = true) (hid : Store.bind v.key = .ok row.id) (failed : Reply) :
    Settles s v (match store.post? v.key false with
      | .ok (some p) => ({ s with store }, postReply 200 p)
      | _ => ({ s with store }, failed)) := by
  obtain ⟨p, hp, -⟩ := post?_of_mem (w.sound hnow hs) hrow hlive hid
  rw [hp]
  exact .inr ⟨w, successful_ok⟩

theorem updatePost_settles (hs : s.store.Sound) (hnow : InEra v.now) :
    Settles s v (s.updatePost v) := by
  rw [updatePost]
  refine guarded_cases (fun reply _ => settles_refl reply) fun caller _ => ?_
  split
  · exact settles_refl _
  · split
    · exact settles_refl _
    · rename_i changes _
      split
      · exact settles_refl _
      · dsimp only
        cases h : s.store.updatePost v.key v.now changes with
        | error f => exact settles_refl _
        | ok made =>
          obtain ⟨store, found⟩ := made
          cases found with
          | false => exact settles_refl _
          | true =>
            rcases updatePost_eq_ok h with ⟨rfl, -⟩ | ⟨-, r, change, hr, hid, -, hstore⟩
            · dsimp only; split <;> exact .inl rfl
            · obtain ⟨hmem, -, hlive⟩ := findRow?_live hr
              have w : Write v.now s.store store := hstore ▸ .revisePost r change hr
              have hrow : revised v.now change r ∈ store.posts := by
                rw [hstore]; exact (mem_reviseRow hs.posts.ids hmem).2 (.inl rfl)
              exact settles_of_post hs hnow w hrow hlive hid _

theorem deletePost_settles : Settles s v (s.deletePost v) :=
  guarded_cases (fun reply _ => settles_refl reply) fun _ _ =>
    settles_of_change fun _ _ => deletePost_write

theorem restorePost_settles (hs : s.store.Sound) (hnow : InEra v.now) :
    Settles s v (s.restorePost v) := by
  rw [restorePost]
  refine guarded_cases (fun reply _ => settles_refl reply) fun caller _ => ?_
  cases h : s.store.restorePost v.key v.now with
  | error f => exact settles_refl _
  | ok made =>
    obtain ⟨store, found⟩ := made
    rcases restorePost_eq_ok h with ⟨rfl, rfl⟩ | ⟨rfl, r, hr, hgone, hid, hstore⟩
    · exact settles_refl _
    · obtain ⟨hmem, -, -⟩ := findRow?_eq_some hr
      have w : Write v.now s.store store := hstore ▸ .restorePost r hr hgone
      have hrow : restored v.now r ∈ store.posts := by
        rw [hstore]; exact (mem_reviseRow hs.posts.ids hmem).2 (.inl rfl)
      exact settles_of_post hs hnow w hrow rfl hid _

/-! ### Users -/

theorem eq_text_of_textOf {v : Json} (h : textOf v ≠ []) : v = .text (textOf v) := by
  cases v
  case text => rfl
  all_goals exact absurd rfl h

theorem addAccount_settles (a : NewAccount) : Settles s v (s.addAccount v a) := by
  rw [addAccount]
  cases Password.hash a.password with
  | error f => exact settles_refl _
  | ok hash =>
    have hadds : s.Adds v.now (s.addUser v.now ⟨some a.fullname, some a.email,
      some (Text.ofString hash), some a.permissions⟩) := addUser_adds _
    dsimp only
    generalize s.addUser v.now _ = added at hadds ⊢
    obtain ⟨t, made⟩ := added
    cases made with
    | error f => cases f <;> exact .inl hadds
    | ok user => exact .inr ⟨hadds, successful_created⟩

theorem createUser_settles : Settles s v (s.createUser v) := by
  rw [createUser]
  refine guarded_cases (fun reply _ => settles_refl reply) fun caller _ => ?_
  split
  · exact settles_refl _
  · split
    · exact settles_refl _
    · split
      · exact settles_refl _
      · exact settles_refl _
      · exact addAccount_settles _

theorem deleteUser_settles : Settles s v (s.deleteUser v) := by
  rw [deleteUser]
  refine guarded_cases (fun reply _ => settles_refl reply) fun caller _ => ?_
  split
  · exact settles_refl _
  · exact settles_of_change fun _ _ => deleteUser_write

/-- Changes of a user are read if every part is, and there is something to change. -/
theorem readUserChanges_eq_ok {store : Store} {id : String} {data : Json} {changes : UserChanges}
    {password : Option Text} : readUserChanges store id data = .ok (changes, password) ↔
    readName data = .ok changes.fullname ∧ readEmail store id data = .ok changes.email ∧
      readPermissions data = .ok changes.permissions ∧ readPassword data = .ok password ∧
      ¬ (changes.isEmpty && password.isNone) = true := by
  constructor
  · intro h
    obtain ⟨name, hname, h⟩ := bind_eq_ok.1 h
    obtain ⟨email, hemail, h⟩ := bind_eq_ok.1 h
    obtain ⟨permissions, hpermissions, h⟩ := bind_eq_ok.1 h
    obtain ⟨password, hpassword, h⟩ := bind_eq_ok.1 h
    dsimp only at h
    split at h
    · cases h
    · rename_i hsome
      cases h
      exact ⟨hname, hemail, hpermissions, hpassword, hsome⟩
  · rintro ⟨hname, hemail, hpermissions, hpassword, hsome⟩
    rw [readUserChanges, hname, ok_bind, hemail, ok_bind, hpermissions, ok_bind, hpassword, ok_bind]
    dsimp only
    rw [if_neg hsome]
    rfl

/-- Changes of a user are stored by the store, unless there are none. -/
theorem storeChanges_eq_ok {t store : Store} {changes : UserChanges}
    (h : storeChanges t v changes = .ok store) :
    changes.isEmpty = true ∧ store = t ∨ changes.isEmpty = false ∧
      ∃ found, t.updateUser v.key v.now changes = .ok (store, found) := by
  rw [storeChanges] at h
  split at h
  · rename_i hempty; cases h; exact .inl ⟨hempty, rfl⟩
  · rename_i hsome
    cases hu : t.updateUser v.key v.now changes with
    | error f => rw [hu] at h; cases h
    | ok made => rw [hu] at h; cases h; exact .inr ⟨by simpa using hsome, made.2, rfl⟩

/-- A new password is stored by its hash. -/
theorem storeNewPassword_eq_ok {t store : Store} {password : Option Text}
    (h : storeNewPassword t v password = .ok store) :
    password = none ∧ store = t ∨ ∃ new hash found, password = some new ∧
      Password.hash new = .ok hash ∧
      t.updatePassword v.key v.now (some (Text.ofString hash)) = .ok (store, found) := by
  cases password with
  | none => cases h; exact .inl ⟨rfl, rfl⟩
  | some new =>
    rw [storeNewPassword] at h
    split at h
    · cases h
    · rename_i hash hhash
      cases hu : t.updatePassword v.key v.now (some (Text.ofString hash)) with
      | error f => rw [hu] at h; cases h
      | ok made => rw [hu] at h; cases h; exact .inr ⟨new, hash, made.2, rfl, hhash, hu⟩

/-- The change of a user does nothing, or stores the new parts and then, if it can, the new
password. -/
theorem changeUser_eq (data : Json) : (s.changeUser v data).1 = s ∨
    ∃ changes password store, readUserChanges s.store v.id data = .ok (changes, password) ∧
      storeChanges s.store v changes = .ok store ∧
      ((s.changeUser v data).1 = { s with store } ∨ ∃ final,
        storeNewPassword store v password = .ok final ∧
        (s.changeUser v data).1 = { s with store := final }) := by
  rw [changeUser]
  split
  · exact .inl rfl
  · rename_i changes password hread
    split
    · exact .inl rfl
    · rename_i store hchanges
      refine .inr ⟨changes, password, store, hread, hchanges, ?_⟩
      dsimp only
      split
      · exact .inl rfl
      · rename_i final hpassword
        refine .inr ⟨final, hpassword, ?_⟩
        split <;> rfl

theorem storeChanges_writes {store : Store} {changes : UserChanges}
    (h : storeChanges s.store v changes = .ok store) : Writes v.now s.store store := by
  obtain ⟨-, rfl⟩ | ⟨-, found, hu⟩ := storeChanges_eq_ok h
  · exact .refl
  · rcases updateUser_write hu with hsame | ⟨-, w⟩
    · rw [hsame]
    · exact .single w

theorem storeNewPassword_writes {t store : Store} {password : Option Text}
    (h : storeNewPassword t v password = .ok store) : Writes v.now t store := by
  obtain ⟨-, rfl⟩ | ⟨new, hash, found, -, -, hu⟩ := storeNewPassword_eq_ok h
  · exact .refl
  · rcases updatePassword_write hu with hsame | ⟨-, w⟩
    · rw [hsame]
    · exact .single w

/-- The change of a user stores the new parts, and then the new password. -/
theorem updateUser_writes : Writes v.now s.store (s.updateUser v).1.store := by
  rw [updateUser]
  refine guarded_cases (motive := fun r => Writes v.now s.store r.1.store)
    (fun reply _ => .refl) fun caller _ => ?_
  split
  · exact .refl
  · rename_i data _
    split
    · exact .refl
    · exact .refl
    · obtain hsame | ⟨changes, password, store, -, hchanges, hmade⟩ :=
        changeUser_eq (s := s) (v := v) data
      · rw [hsame]
      · have w := storeChanges_writes hchanges
        obtain hmade | ⟨final, hpassword, hmade⟩ := hmade
        · rw [hmade]; exact w
        · rw [hmade]; exact w.trans (storeNewPassword_writes hpassword)

theorem storePassword_eq {user : User} {new : Json} {t : Service} {reply : Reply}
    (h : s.storePassword v user new = (t, reply)) :
    t = s ∨ ∃ r password, findRow? s.store.users false r.id = some r ∧ user.id = r.id ∧
      t = { s with store := { s.store with
        users := reviseRow s.store.users r.id (revised v.now fun u => { u with password }) } } ∧
      reply.status = 200 := by
  cases new with
  | text new =>
    rw [storePassword] at h
    split at h
    · cases h; exact .inl rfl
    · rename_i hash _
      cases hu : s.store.updatePassword (Text.ofString user.id) v.now
        (some (Text.ofString hash)) with
      | error f => rw [hu] at h; cases h; exact .inl rfl
      | ok made =>
        rw [hu] at h; cases h
        rcases updatePassword_eq_ok hu with hsame | ⟨-, r, password, hr, hid, -, hstore⟩
        · left; rw [hsame]
        · rw [bind_ofString] at hid
          exact .inr ⟨r, password, hr, Except.ok.inj hid, by rw [hstore], rfl⟩
  | _ => cases h; exact .inl rfl

/-- A change of password touches the user of the session alone. -/
theorem changePassword_eq {t : Service} {reply : Reply} (h : s.changePassword v = (t, reply)) :
    t = s ∨ ∃ user r password, s.sessionUser v.session = some user ∧
      findRow? s.store.users false r.id = some r ∧ user.id = r.id ∧
      t = { s with store := { s.store with
        users := reviseRow s.store.users r.id (revised v.now fun u => { u with password }) } } ∧
      reply.status = 200 := by
  rw [changePassword] at h
  split at h
  · cases h; exact .inl rfl
  · rename_i user hsession
    dsimp only at h
    split at h
    · cases h; exact .inl rfl
    · split at h
      · split at h
        · rcases storePassword_eq h with hsame | ⟨r, password, hstored⟩
          · exact .inl hsame
          · exact .inr ⟨user, r, password, hsession, hstored⟩
        · cases h; exact .inl rfl
      · cases h; exact .inl rfl

theorem changePassword_settles : Settles s v (s.changePassword v) := by
  cases h : s.changePassword v with
  | mk t reply =>
    rcases changePassword_eq h with rfl | ⟨user, r, password, -, hr, -, rfl, hstatus⟩
    · exact .inl rfl
    · exact .inr ⟨.setPassword r password hr, by rw [hstatus]; exact successful_ok⟩

/-! ### Keys -/

/-- An expiry that is read is none for null, and else whole days from the second of the clock. -/
theorem readExpiry_eq_ok {now : Instant} {sent : Json} {expires : Option Int}
    (h : readExpiry now sent = .ok expires) :
    sent = .null ∧ expires = none ∨ sent ≠ .null ∧ ∃ days, wholePart? sent = some days ∧
      1 ≤ days ∧ days ≤ maxDays ∧ expires = some (Cookie.secondsOf now + days * secondsPerDay) := by
  unfold readExpiry at h
  split at h
  · cases h; exact .inl ⟨rfl, rfl⟩
  · rename_i hsome
    split at h
    · cases h
    · rename_i days hdays
      split at h
      · rename_i hbounds
        simp only [Bool.and_eq_true, decide_eq_true_eq] at hbounds
        cases h
        exact .inr ⟨hsome, days, hdays, hbounds.1, hbounds.2, rfl⟩
      · cases h

/-- What is read of a request for a key: the address of its owner and its expiry. -/
theorem readNewKey_eq_ok {store : Store} {caller : User} {owner : Text} {expires : Option Int}
    (h : readNewKey store v caller = .ok (owner, expires)) :
    ∃ data named, readKeyRequest v.request = .ok data ∧ readOwner store named = .ok owner ∧
      readExpiry v.now (data.getD "expires_days") = .ok expires := by
  obtain ⟨data, hdata, h⟩ := bind_eq_ok.1 h
  obtain ⟨owner, howner, h⟩ := bind_eq_ok.1 h
  obtain ⟨expires, hexpires, h⟩ := bind_eq_ok.1 h
  cases h
  refine ⟨data, _, hdata, howner, ?_⟩
  cases hread : readExpiry v.now (data.getD "expires_days") with
  | error message => rw [hread] at hexpires; cases hexpires
  | ok found => rw [hread] at hexpires; cases hexpires; rfl

/-- What cannot be read is answered with a failure, and the session is left alone. -/
theorem readNewKey_eq_error {store : Store} {caller : User} {reply : Reply}
    (h : readNewKey store v caller = .error reply) : reply.session = none ∧ 300 ≤ reply.status := by
  obtain hdata | ⟨data, -, h⟩ := bind_eq_error.1 h
  · rw [readKeyRequest] at hdata
    repeat' split at hdata
    all_goals cases hdata
    exact ⟨rfl, by decide⟩
  · obtain howner | ⟨owner, -, h⟩ := bind_eq_error.1 h
    · rw [readOwner] at howner
      dsimp only at howner
      repeat' split at howner
      all_goals cases howner
      all_goals exact ⟨rfl, Nat.le_of_ble_eq_true rfl⟩
    · obtain hexpires | ⟨expires, -, h⟩ := bind_eq_error.1 h
      · cases hread : readExpiry v.now (data.getD "expires_days") with
        | error message =>
          rw [hread] at hexpires
          cases hexpires
          exact ⟨rfl, Nat.le_of_ble_eq_true rfl⟩
        | ok expires => rw [hread] at hexpires; cases hexpires
      · cases h

/-- A request for a key that is answered with success has issued one for what was read and shows it. -/
theorem createKey_issues (h : Successful (s.createKey v).2.status) :
    ∃ caller owner expires t key token, readNewKey s.store v caller = .ok (owner, expires) ∧
      s.issueKey v.now (some owner) expires = (t, .ok (key, token)) ∧
      s.createKey v = (t, .json 201 (.ofFields (key.keyRecord.publicMembers ++
        [("Token", .string token),
          ("message", .string "Save this key now - it will not be shown again!")]))) := by
  rw [createKey, guarded] at h ⊢
  cases hcaller : s.permitted v Registry.adminName with
  | error reply =>
    rw [hcaller] at h
    exact absurd h (permitted_refuses hcaller).not_successful
  | ok caller =>
    rw [hcaller] at h
    dsimp only at h ⊢
    cases hread : readNewKey s.store v caller.user with
    | error reply =>
      rw [hread] at h
      exact absurd h (not_successful _ (readNewKey_eq_error hread).2)
    | ok parts =>
      obtain ⟨owner, expires⟩ := parts
      rw [hread] at h
      dsimp only at h ⊢
      cases hissue : s.issueKey v.now (some owner) expires with
      | mk t made =>
        rw [hissue] at h
        cases made with
        | error f => exact absurd h (not_successful 500 (by decide))
        | ok made =>
          obtain ⟨key, token⟩ := made
          exact ⟨caller.user, owner, expires, t, key, token, hread, hissue, rfl⟩

theorem createKey_settles : Settles s v (s.createKey v) := by
  rw [createKey]
  refine guarded_cases (fun reply _ => settles_refl reply) fun caller _ => ?_
  split
  · exact settles_refl _
  · rename_i owner expires _
    have hadds : s.Adds v.now (s.issueKey v.now (some owner) expires) := issueKey_adds _ _
    cases h : s.issueKey v.now (some owner) expires with
    | mk t made =>
      rw [h] at hadds
      cases made with
      | error f => exact .inl hadds
      | ok issued => exact .inr ⟨hadds, successful_created⟩

theorem deleteKey_settles : Settles s v (s.deleteKey v) :=
  guarded_cases (fun reply _ => settles_refl reply) fun _ _ =>
    settles_of_change fun _ _ => deleteKey_write

/-! ### Handlers that only read -/

/-- The handlers that are asked by `GET` read and do nothing else. -/
theorem asked_store {e : Endpoint} (h : e.isAsked = true) (s : Service) (v : Visit) :
    (s.dispatch e v).1.store = s.store := by
  have same : ∀ {permission action}, (∀ caller, (action caller).1.store = s.store) →
      (s.guarded v permission action).1.store = s.store := fun hact =>
    guarded_cases (motive := fun r => r.1.store = s.store) (fun _ _ => rfl) fun c _ => hact c
  cases e <;> cases h
  case files | health | version | whoami | listPosts | getPost => rfl
  case csrfToken => rw [dispatch, csrfToken]; dsimp only; split <;> rfl
  case trash => exact same fun c => by split <;> rfl
  case listUsers => exact same fun c => by dsimp only; split <;> rfl
  case getUser => exact same fun c => by split <;> rfl
  case listKeys => exact same fun c => by dsimp only; split <;> rfl

/-! ### All handlers -/

/-- A handler other than the change of a user settles. -/
theorem dispatch_settles (hs : s.store.Sound) (hnow : InEra v.now) {e : Endpoint}
    (he : e ≠ .updateUser) : Settles s v (s.dispatch e v) := by
  by_cases hr : e.isAsked = true
  · exact .inl (asked_store hr s v)
  · cases e <;> try exact absurd rfl hr
    case login | logout => exact settles_refl _
    case changePassword => exact changePassword_settles
    case createPost => exact createPost_settles
    case updatePost => exact updatePost_settles hs hnow
    case deletePost => exact deletePost_settles
    case restorePost => exact restorePost_settles hs hnow
    case createUser => exact createUser_settles
    case updateUser => exact absurd rfl he
    case deleteUser => exact deleteUser_settles
    case createKey => exact createKey_settles
    case deleteKey => exact deleteKey_settles

/-- What any handler does to the store is a sequence of changes. -/
theorem dispatch_writes (hs : s.store.Sound) (hnow : InEra v.now) (e : Endpoint) :
    Writes v.now s.store (s.dispatch e v).1.store := by
  by_cases he : e = .updateUser
  · rw [he]; exact updateUser_writes
  · rcases dispatch_settles hs hnow he with hsame | ⟨w, -⟩
    · rw [hsame]
    · exact .single w

end Service

end Pressroom
