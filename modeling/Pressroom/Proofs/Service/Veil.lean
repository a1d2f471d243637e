import Pressroom.Proofs.Service.Arrival
import Pressroom.Proofs.Store.Lookup
import Pressroom.Proofs.Store.Veil

/-!
Services without their secrets. Over a service whose store is veiled every handler does the same as
over the service itself, and leaves the same behind, secrets aside: users and keys are shown without
their secrets, and nothing else of what a handler decides depends on them. Three handlers are left
out. Logging in and changing the own password compare a password; issuing a key needs a digest that
is not there yet, and is the same if it is not. A token that is presented is looked up by its
digest, so all this is about visits without one.
-/
namespace Pressroom

open Web

/-! ### What is shown -/

theorem Entry.userRecord_veiled (u : User) :
    (u.mapData UserData.veiled).userRecord.publicJson = u.userRecord.publicJson := rfl

theorem Entry.keyRecord_veiled (k : ApiKey) :
    (k.mapData KeyData.veiled).keyRecord.publicJson = k.keyRecord.publicJson := rfl

namespace Service

/-- The service without the secrets of its store. -/
def veil (s : Service) : Service := s.withStore s.store.veil

/-- An outcome, without the secrets of the service that is left. -/
def unseen {β : Type} (x : Service × β) : Service × β := (x.1.veil, x.2)

/-- What is done does not depend on secrets: over the veiled service it gives the same, and leaves the
same behind, secrets aside. -/
def Discreet (s : Service) (action : Service → Service × Reply) : Prop :=
  unseen (action s.veil) = unseen (action s)

variable {s : Service} {v : Visit}

@[simp]
theorem veil_store : s.veil.store = s.store.veil := rfl

theorem unseen_eq {β : Type} {x y : Service × β} (h : unseen x = unseen y) :
    ∃ a b c, x = (a, c) ∧ y = (b, c) ∧ a.veil = b.veil := by
  obtain ⟨hleft, hvalue⟩ := Prod.mk.inj h
  exact ⟨x.1, y.1, x.2, rfl, by rw [hvalue], hleft⟩

theorem veil_veil : s.veil.veil = s.veil := congrArg s.withStore s.store.veil_veil

theorem discreet_self (reply : Reply) : unseen (s.veil, reply) = unseen (s, reply) :=
  congrArg (·, reply) veil_veil

/-- A handler that leaves the service alone is discreet if its answer is. -/
theorem Discreet.of_reply {answer : Service → Reply} (h : answer s.veil = answer s) :
    s.Discreet fun s => (s, answer s) := by
  rw [Discreet, h]
  exact discreet_self _

/-- A list of rows that are shown without their secrets. -/
theorem discreet_list {α : Type} {f : α → α} {record : Item α → Json}
    (hrecord : ∀ i, record (i.mapData f) = record i) (items : List (Item α)) :
    unseen (s.veil, Reply.json 200 (.list ((items.map (Entry.mapData f)).map record)))
      = unseen (s, Reply.json 200 (.list (items.map record))) := by
  have hshown : record ∘ Entry.mapData f = record := funext hrecord
  rw [List.map_map, hshown]
  exact discreet_self _

/-- Stores that are the same, secrets aside, are left with what is fresh and an outcome. -/
theorem unseen_left {β : Type} {a b : Store} (h : a.veil = b.veil) (fresh : Fresh) (outcome : β) :
    unseen ({ s.veil with store := a, fresh }, outcome)
      = unseen ({ s with store := b, fresh }, outcome) :=
  congrArg (fun x => ({ s with store := x, fresh }, outcome)) h

theorem discreet_store {a b : Store} (h : a.veil = b.veil) (reply : Reply) :
    unseen ({ s.veil with store := a }, reply) = unseen ({ s with store := b }, reply) :=
  unseen_left h s.fresh reply

/-- A change of the store that is answered by whether it found its row. -/
theorem discreet_changed {x y : StoreResult (Store × Bool)} (h : x = Store.unseen y)
    (failed missing : Reply) :
    unseen (match x with
        | .error _ => (s.veil, failed)
        | .ok (_, false) => (s.veil, missing)
        | .ok (store, true) => ({ s.veil with store }, .success))
      = unseen (match y with
        | .error _ => (s, failed)
        | .ok (_, false) => (s, missing)
        | .ok (store, true) => ({ s with store }, .success)) := by
  subst h
  rcases y with _ | ⟨store, _ | _⟩
  · exact discreet_self _
  · exact discreet_self _
  · exact discreet_store store.veil_veil _

/-! ### Adding rows -/

theorem addUser_veil (now : Instant) (n : NewUser) :
    unseen (s.veil.addUser now n) = unseen (s.addUser now n) := by
  rw [addUser, addUser, veil_store, show s.veil.fresh = s.fresh from rfl]
  obtain ⟨f, hx, hy⟩ | ⟨a, b, user, hx, hy, hstore⟩ :=
    Store.unseen_eq (s.store.createUser_veil s.fresh.nextId now n)
  · rw [hx, hy]
    exact unseen_left s.store.veil_veil s.fresh.usedId _
  · rw [hx, hy]
    exact unseen_left hstore s.fresh.usedId _

theorem addPost_veil (now : Instant) (n : PostParts) :
    unseen (s.veil.addPost now n) = unseen (s.addPost now n) := by
  rw [addPost, addPost, veil_store, show s.veil.fresh = s.fresh from rfl, Store.createPost_veil]
  rcases s.store.createPost s.fresh.nextId now n with _ | ⟨store, post⟩
  · exact unseen_left s.store.veil_veil s.fresh.usedId _
  · exact unseen_left store.veil_veil s.fresh.usedId _

/-- The token that comes next has a digest that no key has. -/
def TokenUnused (s : Service) : Prop :=
  s.store.digestTaken (some (Account.tokenDigest s.fresh.nextToken)) = false

theorem issueKey_veil (h : s.TokenUnused) (now : Instant) (owner : Option Text)
    (expires : Option Int) :
    unseen (s.veil.issueKey now owner expires) = unseen (s.issueKey now owner expires) := by
  rw [issueKey, issueKey, Account.issue, Account.issue, veil_store,
    show s.veil.fresh = s.fresh from rfl]
  have hdigest : ∀ data, Store.bindKey
      ⟨some (Text.ofString (Account.tokenDigest s.fresh.nextToken)), owner, expires⟩ = .ok data →
      s.store.digestTaken data.digest = false := by
    intro data hdata
    obtain ⟨digest, hbound, hdata⟩ := bind_eq_ok.1 hdata
    rw [Store.bindOption_ofString] at hbound
    obtain ⟨_, -, hdata⟩ := bind_eq_ok.1 hdata
    obtain ⟨_, -, hdata⟩ := bind_eq_ok.1 hdata
    cases hbound
    cases hdata
    exact h
  obtain ⟨f, hx, hy⟩ | ⟨a, b, key, hx, hy, hstore⟩ :=
    Store.unseen_eq (s.store.createKey_veil s.fresh.nextId now _ hdigest)
  · rw [hx, hy]
    exact unseen_left s.store.veil_veil s.fresh.usedToken.usedId _
  · rw [hx, hy]
    exact unseen_left hstore s.fresh.usedToken.usedId _

/-! ### Reading and storing the changes of a user -/

theorem emailTaken_veil (s : Store) (email : Text) (except : Option String) :
    emailTaken s.veil email except = emailTaken s email except := by
  rw [emailTaken, emailTaken, Store.userByEmail?_veil]
  rcases s.userByEmail? email false with _ | _ | _ <;> rfl

theorem readUserChanges_veil (s : Store) (id : String) (data : Json) :
    readUserChanges s.veil id data = readUserChanges s id data := by
  simp only [readUserChanges, readEmail, emailTaken_veil]

theorem storeChanges_veil (s : Store) (v : Visit) (changes : UserChanges) :
    storeChanges s.veil v changes = (storeChanges s v changes).map Store.veil := by
  rw [storeChanges, storeChanges, Store.updateUser_veil]
  split
  · rfl
  · rcases s.updateUser v.key v.now changes with _ | ⟨store, found⟩ <;> rfl

theorem storeNewPassword_veil (s : Store) (v : Visit) (password : Option Text) :
    (storeNewPassword s.veil v password).map Store.veil
      = (storeNewPassword s v password).map Store.veil := by
  cases password with
  | none => exact congrArg Except.ok s.veil_veil
  | some password =>
    rw [storeNewPassword, storeNewPassword]
    split
    · rfl
    · rename_i hash _
      obtain ⟨f, hx, hy⟩ | ⟨a, b, found, hx, hy, hstore⟩ := Store.unseen_eq
        (s.updatePassword_veil v.key v.now (some (Text.ofString hash)))
      · rw [hx, hy]
      · rw [hx, hy]
        exact congrArg Except.ok hstore

/-- Stores that are the same, secrets aside, show the same user. -/
theorem discreet_shown {a b : Store} (h : a.veil = b.veil) (id : Text) :
    unseen (match a.user? id false with
        | .ok (some u) => ({ s.veil with store := a }, userReply 200 u)
        | _ => ({ s.veil with store := a }, .failure))
      = unseen (match b.user? id false with
        | .ok (some u) => ({ s with store := b }, userReply 200 u)
        | _ => ({ s with store := b }, .failure)) := by
  have hasked : (a.user? id false).map (Option.map (Entry.mapData UserData.veiled))
      = (b.user? id false).map (Option.map (Entry.mapData UserData.veiled)) := by
    rw [← Store.user?_veil, ← Store.user?_veil, h]
  generalize a.user? id false = x at hasked ⊢
  generalize b.user? id false = y at hasked ⊢
  rcases x with _ | _ | u <;> rcases y with _ | _ | u'
  case ok.some.ok.some =>
    have huser : u.mapData UserData.veiled = u'.mapData UserData.veiled :=
      Option.some.inj (Except.ok.inj hasked)
    have hreply : userReply 200 u = userReply 200 u' := by
      rw [userReply, userReply, ← Entry.userRecord_veiled, huser, Entry.userRecord_veiled]
    dsimp only
    rw [hreply]
    exact discreet_store h _
  all_goals cases hasked
  all_goals exact discreet_store h _

theorem changeUser_veil (v : Visit) (data : Json) :
    unseen (s.veil.changeUser v data) = unseen (s.changeUser v data) := by
  rw [changeUser, changeUser, veil_store, readUserChanges_veil]
  split
  · exact discreet_self _
  · rename_i changes password _
    rw [storeChanges_veil]
    rcases storeChanges s.store v changes with reply | store
    · exact discreet_self _
    · dsimp only [Except.map]
      have hstored := storeNewPassword_veil store v password
      generalize storeNewPassword store.veil v password = x at hstored ⊢
      generalize storeNewPassword store v password = y at hstored ⊢
      rcases x with reply | a <;> rcases y with reply' | b
      · cases hstored; exact discreet_store store.veil_veil _
      · cases hstored
      · cases hstored
      · exact discreet_shown (Except.ok.inj hstored) v.key

theorem readOwner_veil (s : Store) (owner : Json) : readOwner s.veil owner = readOwner s owner := by
  rw [readOwner, readOwner]
  split
  · rfl
  · dsimp only
    rw [Store.userByEmail?_veil]
    rcases s.userByEmail? owner.display false with _ | _ | _ <;> rfl

theorem addAccount_veil (v : Visit) (a : NewAccount) :
    unseen (s.veil.addAccount v a) = unseen (s.addAccount v a) := by
  rw [addAccount, addAccount]
  cases Password.hash a.password with
  | error f => exact discreet_self _
  | ok hash =>
    dsimp only
    have hadded := addUser_veil (s := s) v.now
      ⟨some a.fullname, some a.email, some (Text.ofString hash), some a.permissions⟩
    generalize s.veil.addUser v.now _ = x at hadded ⊢
    generalize s.addUser v.now _ = y at hadded ⊢
    obtain ⟨a, b, made, rfl, rfl, hleft⟩ := unseen_eq hadded
    rcases made with f | user
    · cases f <;> exact congrArg (·, _) hleft
    · exact congrArg (·, _) hleft

/-! ### Callers -/

/-- The caller without the own secret. -/
def Caller.veiled (c : Caller) : Caller := { c with user := c.user.mapData UserData.veiled }

theorem sessionUser_veil (session : Session) :
    s.veil.sessionUser session = (s.sessionUser session).map (Entry.mapData UserData.veiled) := by
  rw [sessionUser, sessionUser]
  split
  · rfl
  · rename_i id _
    rw [veil_store, Store.user?_veil]
    cases s.store.user? (Text.ofString id) false <;> rfl

theorem discreet_versions : s.Discreet fun s => (s, s.versions) := by
  refine .of_reply ?_
  simp only [versions, contentCounts, veil_store, Store.countUsers_veil]
  rfl

theorem discreet_logout : s.Discreet fun s => (s, s.logout v) := by
  refine .of_reply ?_
  rw [logout, logout, sessionUser_veil]
  cases s.sessionUser v.session <;> rfl

theorem discreet_csrfToken : s.Discreet fun s => s.csrfToken v := by
  rw [Discreet, csrfToken, csrfToken]
  dsimp only
  split
  · exact discreet_self _
  · exact unseen_left s.store.veil_veil s.fresh.usedSecret _

section Keyless

variable (hkey : v.request.headerFilled? keyHeader = none)
include hkey

theorem caller_veil : s.veil.caller v = (s.caller v).map Caller.veiled := by
  rw [caller, caller, hkey, sessionUser_veil]
  dsimp only
  cases s.sessionUser v.session <;> rfl

theorem permitted_veil (permission : String) :
    s.veil.permitted v permission = (s.permitted v permission).map Caller.veiled := by
  rw [permitted, permitted, caller_veil hkey]
  cases s.caller v with
  | error reply => rfl
  | ok caller =>
    rw [show s.veil.registry = s.registry from rfl]
    dsimp only [Except.map, Caller.veiled, Entry.mapData, UserData.veiled]
    split <;> rfl

/-- What is done for a caller with a permission is discreet if the action is. -/
theorem guarded_veil {permission : String} {action actionV : Caller → Service × Reply}
    (h : ∀ caller, unseen (actionV caller.veiled) = unseen (action caller)) :
    unseen (s.veil.guarded v permission actionV) = unseen (s.guarded v permission action) := by
  rw [guarded, guarded, permitted_veil hkey]
  cases s.permitted v permission with
  | error reply => exact discreet_self reply
  | ok caller => exact h caller

/-! ### Handlers that only read -/

theorem discreet_whoami : s.Discreet fun s => (s, s.whoami v) := by
  refine .of_reply ?_
  rw [whoami, whoami, caller_veil hkey]
  cases s.caller v <;> rfl

theorem discreet_trash : s.Discreet fun s => s.trash v := by
  refine guarded_veil hkey fun _ => ?_
  rw [show s.veil.store.listPosts ⟨none, none, true⟩ = s.store.listPosts ⟨none, none, true⟩ from rfl]
  split <;> exact discreet_self _

theorem discreet_listUsers : s.Discreet fun s => s.listUsers v := by
  refine guarded_veil hkey fun _ => ?_
  dsimp only [veil_store]
  rw [Store.listUsers_veil]
  rcases s.store.listUsers _ with _ | users
  · exact discreet_self _
  · exact discreet_list Entry.userRecord_veiled users

theorem discreet_getUser : s.Discreet fun s => s.getUser v := by
  refine guarded_veil hkey fun _ => ?_
  rw [veil_store, Store.user?_veil]
  rcases s.store.user? v.key false with _ | _ | _ <;> exact discreet_self _

theorem discreet_listKeys : s.Discreet fun s => s.listKeys v := by
  refine guarded_veil hkey fun _ => ?_
  dsimp only [veil_store]
  cases v.request.parameter? "owner" with
  | none =>
    dsimp only
    rw [Store.listKeys_veil]
    rcases s.store.listKeys false with _ | keys
    · exact discreet_self _
    · exact discreet_list Entry.keyRecord_veiled keys
  | some owner =>
    dsimp only
    rw [Store.listKeysOf_veil]
    rcases s.store.listKeysOf _ with _ | keys
    · exact discreet_self _
    · exact discreet_list Entry.keyRecord_veiled keys

/-! ### Handlers that write -/

theorem discreet_createPost : s.Discreet fun s => s.createPost v := by
  refine guarded_veil hkey fun caller => ?_
  split
  · exact discreet_self _
  · rename_i data _
    rw [show newPost data caller.veiled.user = newPost data caller.user from rfl]
    split
    · exact discreet_self _
    · rename_i parts _
      have hadded := addPost_veil (s := s) v.now parts
      generalize s.veil.addPost v.now parts = x at hadded
      generalize s.addPost v.now parts = y at hadded ⊢
      obtain ⟨a, b, post, rfl, rfl, hleft⟩ := unseen_eq hadded
      cases post <;> exact congrArg (·, _) hleft

theorem discreet_updatePost : s.Discreet fun s => s.updatePost v := by
  refine guarded_veil hkey fun _ => ?_
  split
  · exact discreet_self _
  · split
    · exact discreet_self _
    · rename_i changes _
      split
      · exact discreet_self _
      · dsimp only
        rw [veil_store, Store.updatePost_veil]
        rcases s.store.updatePost v.key v.now changes with _ | ⟨store, _ | _⟩
        · exact discreet_self _
        · exact discreet_self _
        · dsimp only [Store.unseen, Except.map]
          rw [show store.veil.post? v.key false = store.post? v.key false from rfl]
          split <;> exact discreet_store store.veil_veil _

theorem discreet_deletePost : s.Discreet fun s => s.deletePost v :=
  guarded_veil hkey fun _ => discreet_changed (s.store.deletePost_veil v.key v.now) _ _

theorem discreet_restorePost : s.Discreet fun s => s.restorePost v := by
  refine guarded_veil hkey fun _ => ?_
  rw [veil_store, Store.restorePost_veil]
  rcases s.store.restorePost v.key v.now with _ | ⟨store, _ | _⟩
  · exact discreet_self _
  · exact discreet_self _
  · dsimp only [Store.unseen, Except.map]
    rw [show store.veil.post? v.key false = store.post? v.key false from rfl]
    split <;> exact discreet_store store.veil_veil _

theorem discreet_deleteKey : s.Discreet fun s => s.deleteKey v :=
  guarded_veil hkey fun _ => discreet_changed (s.store.deleteKey_veil v.key v.now) _ _

theorem discreet_deleteUser : s.Discreet fun s => s.deleteUser v := by
  refine guarded_veil hkey fun caller => ?_
  rw [show caller.veiled.user.id = caller.user.id from rfl]
  split
  · exact discreet_self _
  · exact discreet_changed (s.store.deleteUser_veil v.key v.now) _ _

theorem discreet_createUser : s.Discreet fun s => s.createUser v := by
  refine guarded_veil hkey fun _ => ?_
  split
  · exact discreet_self _
  · split
    · exact discreet_self _
    · rename_i account _
      rw [veil_store, emailTaken_veil]
      split
      · exact discreet_self _
      · exact discreet_self _
      · exact addAccount_veil v account

theorem discreet_updateUser : s.Discreet fun s => s.updateUser v := by
  refine guarded_veil hkey fun _ => ?_
  split
  · exact discreet_self _
  · rename_i data _
    rw [veil_store, Store.user?_veil]
    rcases s.store.user? v.key false with _ | _ | user
    · exact discreet_self _
    · exact discreet_self _
    · exact changeUser_veil v data

/-- Issuing a key looks at the digests only to find that there is no key with this one. -/
theorem discreet_createKey (h : s.TokenUnused) : s.Discreet fun s => s.createKey v := by
  refine guarded_veil hkey fun caller => ?_
  have hread : readNewKey s.veil.store v caller.veiled.user = readNewKey s.store v caller.user := by
    simp only [readNewKey, veil_store, readOwner_veil]
    rfl
  rw [hread]
  split
  · exact discreet_self _
  · rename_i owner expires _
    have hissued := issueKey_veil h v.now (some owner) expires
    generalize s.veil.issueKey v.now (some owner) expires = x at hissued ⊢
    generalize s.issueKey v.now (some owner) expires = y at hissued ⊢
    obtain ⟨a, b, made, rfl, rfl, hleft⟩ := unseen_eq hissued
    cases made <;> exact congrArg (·, _) hleft

/-! ### All handlers -/

theorem discreet_dispatch {e : Endpoint} (hlogin : e ≠ .login) (hchange : e ≠ .changePassword)
    (hissue : e = .createKey → s.TokenUnused) : s.Discreet fun s => s.dispatch e v := by
  cases e with
  | login => exact absurd rfl hlogin
  | changePassword => exact absurd rfl hchange
  | createKey => exact discreet_createKey hkey (hissue rfl)
  | files => exact discreet_self _
  | health => exact discreet_self _
  | version => exact discreet_versions
  | logout => exact discreet_logout
  | csrfToken => exact discreet_csrfToken
  | whoami => exact discreet_whoami hkey
  | listPosts => exact discreet_self _
  | trash => exact discreet_trash hkey
  | getPost => exact discreet_self _
  | createPost => exact discreet_createPost hkey
  | updatePost => exact discreet_updatePost hkey
  | deletePost => exact discreet_deletePost hkey
  | restorePost => exact discreet_restorePost hkey
  | listUsers => exact discreet_listUsers hkey
  | getUser => exact discreet_getUser hkey
  | createUser => exact discreet_createUser hkey
  | updateUser => exact discreet_updateUser hkey
  | deleteUser => exact discreet_deleteUser hkey
  | listKeys => exact discreet_listKeys hkey
  | deleteKey => exact discreet_deleteKey hkey

end Keyless

end Service

end Pressroom
