import Pressroom.Proofs.Service.Issued
import Pressroom.Proofs.Store.Live

/-!
Services that differ in deleted rows at most. They know the same callers with the same permissions, and
every handler that does not ask for deleted rows answers alike and leaves them alike. A handler that
adds a row needs more: the id and the digest that come next must not be those of a deleted row.
-/
namespace Pressroom

namespace Service

open Web Store

/-- Two services that differ in the deleted rows of their stores at most. -/
structure Alike (s t : Service) : Prop where
  policy : s.policy = t.policy
  seed : s.seed = t.seed
  platform : s.platform = t.platform
  store : s.store.Alike t.store
  registry : s.registry = t.registry
  fresh : s.fresh = t.fresh
  limiter : s.limiter = t.limiter

/-- Two outcomes that give the same and leave services that are alike. -/
structure Agree {β : Type} (a b : Service × β) : Prop where
  alike : a.1.Alike b.1
  same : a.2 = b.2

theorem Agree.outcome {β : Type} {a b : Service × β} (h : Agree a b) :
    ∃ s t c, a = (s, c) ∧ b = (t, c) ∧ s.Alike t := by
  obtain ⟨s, c⟩ := a
  obtain ⟨t, c'⟩ := b
  obtain ⟨halike, rfl⟩ := h
  exact ⟨s, t, c, rfl, rfl, halike⟩

/-- The id that comes next is in no table, and no deleted key has the digest of the token that comes
next. -/
structure Unused (s : Service) : Prop where
  id : s.fresh.nextId ∉ s.store.ids
  digest : ∀ k ∈ s.store.keys, k.isLive = false →
    k.data.digest ≠ some (Account.tokenDigest s.fresh.nextToken)

theorem Unused.counted {s m : Service} (h : s.Unused) (hm : SameButCounts s m) : m.Unused where
  id := by rw [hm.fresh, hm.store]; exact h.id
  digest := by rw [hm.fresh, hm.store]; exact h.digest

/-- What differs from one service in its store at most is alike if the stores are. -/
theorem OnlyStores.alike {s a b : Service} (ha : s.OnlyStores a) (hb : s.OnlyStores b)
    (hstore : a.store.Alike b.store) (hfresh : a.fresh = b.fresh) : a.Alike b := by
  rw [OnlyStores] at ha hb
  rw [ha, hb]
  exact ⟨rfl, rfl, rfl, hstore, rfl, hfresh, rfl⟩

/-! ### Changes of a user -/

/-- Stores that are alike are alike after the changes of a user, or both refuse them alike. -/
inductive Stored : Except Reply Store → Except Reply Store → Prop
  | refused (reply : Reply) : Stored (.error reply) (.error reply)
  | stored {a b : Store} (alike : a.Alike b) : Stored (.ok a) (.ok b)

theorem stored_changes {a b : Store} (halike : a.Alike b) (v : Visit) (changes : UserChanges) :
    Stored (storeChanges a v changes) (storeChanges b v changes) := by
  rw [storeChanges, storeChanges]
  split
  · exact .stored halike
  · have hmatched := halike.updateUser v.key v.now changes
    generalize a.updateUser v.key v.now changes = made at hmatched ⊢
    generalize b.updateUser v.key v.now changes = made' at hmatched ⊢
    cases hmatched with
    | error f => exact .refused _
    | ok alike found => exact .stored alike

theorem stored_password {a b : Store} (halike : a.Alike b) (v : Visit) (password : Option Text) :
    Stored (storeNewPassword a v password) (storeNewPassword b v password) := by
  cases password with
  | none => exact .stored halike
  | some password =>
    rw [storeNewPassword, storeNewPassword]
    split
    · exact .refused _
    · rename_i hash _
      have hmatched := halike.updatePassword v.key v.now (some (Text.ofString hash))
      generalize a.updatePassword v.key v.now _ = made at hmatched ⊢
      generalize b.updatePassword v.key v.now _ = made' at hmatched ⊢
      cases hmatched with
      | error f => exact .refused _
      | ok alike found => exact .stored alike

namespace Alike

variable {s t : Service} (h : s.Alike t)
include h

theorem agree {β : Type} (b : β) : Agree (s, b) (t, b) := ⟨h, rfl⟩

theorem withStore {a b : Store} (hstore : a.Alike b) :
    Alike { s with store := a } { t with store := b } := { h with store := hstore }

/-! ### Counting -/

theorem countRequest (now : Instant) (found : Found) :
    Agree (s.countRequest now found) (t.countRequest now found) := by
  rw [Service.countRequest, Service.countRequest, h.policy, h.limiter]
  split
  · split
    · exact h.agree _
    · cases t.limiter.hit _ now _ with
      | mk limiter within => exact ⟨{ h with policy := rfl, limiter := rfl }, rfl⟩
  · exact h.agree _

theorem countLogin (now : Instant) : Agree (s.countLogin now) (t.countLogin now) := by
  rw [Service.countLogin, Service.countLogin, h.policy, h.limiter]
  split
  · exact h.agree _
  · cases t.limiter.hit .login now loginLimit with
    | mk limiter within => exact ⟨{ h with policy := rfl, limiter := rfl }, rfl⟩

/-! ### Callers -/

theorem sessionUser (session : Session) : s.sessionUser session = t.sessionUser session := by
  simp only [Service.sessionUser, h.store.user?]

theorem resolve (token : String) (reached : Int → Bool) :
    Account.resolve s.store token reached = Account.resolve t.store token reached := by
  simp only [Account.resolve, Account.ownerOf, h.store.keyByDigest?, h.store.userByEmail?]

theorem caller (v : Visit) : s.caller v = t.caller v := by
  simp only [Service.caller, h.resolve, h.sessionUser]

theorem permitted (v : Visit) (permission : String) :
    s.permitted v permission = t.permitted v permission := by
  simp only [Service.permitted, h.caller, h.registry]

/-- What is done for a caller with a permission agrees if the actions do. -/
theorem guarded (v : Visit) (permission : String) {actS actT : Caller → Service × Reply}
    (hact : ∀ caller, Agree (actS caller) (actT caller)) :
    Agree (s.guarded v permission actS) (t.guarded v permission actT) := by
  rw [Service.guarded, Service.guarded, h.permitted]
  split
  · exact h.agree _
  · exact hact _

/-! ### Adding rows -/

theorem addUser (hs : s.Unused) (ht : t.Unused) (now : Instant) (n : NewUser) :
    Agree (s.addUser now n) (t.addUser now n) := by
  have hmatched := h.store.createUser (users_ne hs.id) (h.fresh ▸ users_ne ht.id) now n
  rw [Service.addUser, Service.addUser, ← h.fresh]
  generalize s.store.createUser s.fresh.nextId now n = made at hmatched ⊢
  generalize t.store.createUser s.fresh.nextId now n = made' at hmatched ⊢
  cases hmatched with
  | error f => exact ⟨{ h with fresh := rfl }, rfl⟩
  | ok alike user => exact ⟨{ h with fresh := rfl, store := alike }, rfl⟩

theorem addPost (hs : s.Unused) (ht : t.Unused) (now : Instant) (n : PostParts) :
    Agree (s.addPost now n) (t.addPost now n) := by
  have hmatched := h.store.createPost (posts_ne hs.id) (h.fresh ▸ posts_ne ht.id) now n
  rw [Service.addPost, Service.addPost, ← h.fresh]
  generalize s.store.createPost s.fresh.nextId now n = made at hmatched ⊢
  generalize t.store.createPost s.fresh.nextId now n = made' at hmatched ⊢
  cases hmatched with
  | error f => exact ⟨{ h with fresh := rfl }, rfl⟩
  | ok alike post => exact ⟨{ h with fresh := rfl, store := alike }, rfl⟩

theorem issueKey (hs : s.Unused) (ht : t.Unused) (now : Instant) (owner : Option Text)
    (expires : Option Int) : Agree (s.issueKey now owner expires) (t.issueKey now owner expires) := by
  have hmatched := h.store.createKey (keys_ne hs.id) (h.fresh ▸ keys_ne ht.id) hs.digest
    (h.fresh ▸ ht.digest) now owner expires
  rw [Service.issueKey, Service.issueKey, Account.issue, Account.issue, ← h.fresh]
  generalize s.store.createKey s.fresh.nextId now _ = made at hmatched ⊢
  generalize t.store.createKey s.fresh.nextId now _ = made' at hmatched ⊢
  cases hmatched with
  | error f => exact ⟨{ h with fresh := rfl }, rfl⟩
  | ok alike key => exact ⟨{ h with fresh := rfl, store := alike }, rfl⟩

/-! ### Handlers that only read -/

theorem health : s.health = t.health := by
  rw [Service.health, Service.health, h.store.reachable]

theorem versions : s.versions = t.versions := by
  simp only [Service.versions, contentCounts, h.store.countUsers, h.store.countPosts, h.platform]

theorem login (v : Visit) : s.login v = t.login v := by
  simp only [Service.login, Account.authenticate, h.sessionUser, h.store.userByEmail?]

theorem logout (v : Visit) : s.logout v = t.logout v := by
  simp only [Service.logout, h.sessionUser]

theorem whoami (v : Visit) : s.whoami v = t.whoami v := by
  simp only [Service.whoami, h.caller, h.registry]

theorem listPosts (v : Visit) : s.listPosts v = t.listPosts v := by
  simp only [Service.listPosts, h.store.listPosts]

theorem getPost (v : Visit) : s.getPost v = t.getPost v := by
  simp only [Service.getPost, h.store.post?]

theorem getUser (v : Visit) : Agree (s.getUser v) (t.getUser v) := by
  refine h.guarded v _ fun _ => ?_
  rw [h.store.user?]
  split <;> exact h.agree _

theorem listKeys (v : Visit) : Agree (s.listKeys v) (t.listKeys v) := by
  refine h.guarded v _ fun _ => ?_
  simp only [h.store.listKeysOf, h.store.listKeys]
  split <;> exact h.agree _

/-! ### Handlers that write -/

theorem csrfToken (v : Visit) : Agree (s.csrfToken v) (t.csrfToken v) := by
  rw [Service.csrfToken, Service.csrfToken, h.fresh]
  dsimp only
  split
  · exact h.agree _
  · exact ⟨{ h with fresh := rfl }, rfl⟩

/-- A change of the store that is answered by whether it found its row. -/
theorem changed (x y : StoreResult (Store × Bool)) (failed missing : Reply) : Matched x y →
    Agree
      (match x with
        | .error _ => (s, failed)
        | .ok (_, false) => (s, missing)
        | .ok (store, true) => ({ s with store }, .success))
      (match y with
        | .error _ => (t, failed)
        | .ok (_, false) => (t, missing)
        | .ok (store, true) => ({ t with store }, .success)) := by
  intro hmatched
  cases hmatched with
  | error f => exact h.agree _
  | ok alike found =>
    cases found with
    | false => exact h.agree _
    | true => exact (h.withStore alike).agree _

theorem changePassword (v : Visit) : Agree (s.changePassword v) (t.changePassword v) := by
  rw [Service.changePassword, Service.changePassword, h.sessionUser]
  split
  · exact h.agree _
  · rename_i user _
    dsimp only
    split
    · exact h.agree _
    · split
      · split
        · rw [storePassword.eq_def, storePassword.eq_def]
          split
          · split
            · exact h.agree _
            · rename_i hash _
              have hmatched := h.store.updatePassword (Text.ofString user.id) v.now
                (some (Text.ofString hash))
              generalize s.store.updatePassword _ v.now _ = made at hmatched ⊢
              generalize t.store.updatePassword _ v.now _ = made' at hmatched ⊢
              cases hmatched with
              | error f => exact h.agree _
              | ok alike found => exact (h.withStore alike).agree _
          · exact h.agree _
        · exact h.agree _
      · exact h.agree _

theorem createPost (hs : s.Unused) (ht : t.Unused) (v : Visit) :
    Agree (s.createPost v) (t.createPost v) := by
  refine h.guarded v _ fun caller => ?_
  split
  · exact h.agree _
  · split
    · exact h.agree _
    · rename_i parts _
      obtain ⟨s', t', post, hmade, hmade', halike⟩ := (h.addPost hs ht v.now parts).outcome
      rw [hmade, hmade']
      cases post <;> exact halike.agree _

theorem updatePost (v : Visit) : Agree (s.updatePost v) (t.updatePost v) := by
  refine h.guarded v _ fun _ => ?_
  split
  · exact h.agree _
  · split
    · exact h.agree _
    · rename_i changes _
      split
      · exact h.agree _
      · have hmatched := h.store.updatePost v.key v.now changes
        dsimp only
        generalize s.store.updatePost v.key v.now changes = made at hmatched ⊢
        generalize t.store.updatePost v.key v.now changes = made' at hmatched ⊢
        cases hmatched with
        | error f => exact h.agree _
        | ok alike found =>
          cases found with
          | false => exact h.agree _
          | true =>
            dsimp only
            rw [alike.post?]
            split <;> exact (h.withStore alike).agree _

theorem deletePost (v : Visit) : Agree (s.deletePost v) (t.deletePost v) :=
  h.guarded v _ fun _ => h.changed _ _ _ _ (h.store.deletePost v.key v.now)

theorem addAccount (hs : s.Unused) (ht : t.Unused) (v : Visit) (a : NewAccount) :
    Agree (s.addAccount v a) (t.addAccount v a) := by
  rw [Service.addAccount, Service.addAccount]
  cases Password.hash a.password with
  | error f => exact h.agree _
  | ok hash =>
    obtain ⟨s', t', made, hmade, hmade', halike⟩ := (h.addUser hs ht v.now ⟨some a.fullname,
      some a.email, some (Text.ofString hash), some a.permissions⟩).outcome
    dsimp only
    rw [hmade, hmade']
    cases made with
    | error f => cases f <;> exact halike.agree _
    | ok user => exact halike.agree _

theorem createUser (hs : s.Unused) (ht : t.Unused) (v : Visit) :
    Agree (s.createUser v) (t.createUser v) := by
  refine h.guarded v _ fun _ => ?_
  split
  · exact h.agree _
  · split
    · exact h.agree _
    · rename_i account _
      rw [emailTaken, emailTaken, h.store.userByEmail?]
      split
      · exact h.agree _
      · exact h.agree _
      · exact h.addAccount hs ht v account

/-- The changes of a user that a request asks for are read alike. -/
theorem readUserChanges (id : String) (data : Json) :
    Service.readUserChanges s.store id data = Service.readUserChanges t.store id data := by
  simp only [Service.readUserChanges, readEmail, emailTaken, h.store.userByEmail?]

theorem changeUser (v : Visit) (data : Json) : Agree (s.changeUser v data) (t.changeUser v data) := by
  rw [Service.changeUser, Service.changeUser, h.readUserChanges]
  split
  · exact h.agree _
  · rename_i changes password _
    have hchanged := stored_changes h.store v changes
    generalize storeChanges s.store v changes = made at hchanged ⊢
    generalize storeChanges t.store v changes = made' at hchanged ⊢
    cases hchanged with
    | refused reply => exact h.agree _
    | @stored a b hchanged =>
      have hstored := stored_password hchanged v password
      dsimp only
      generalize storeNewPassword a v password = made at hstored ⊢
      generalize storeNewPassword b v password = made' at hstored ⊢
      cases hstored with
      | refused reply => exact (h.withStore hchanged).agree _
      | stored hstored =>
        dsimp only
        rw [hstored.user?]
        split <;> exact (h.withStore hstored).agree _

theorem updateUser (v : Visit) : Agree (s.updateUser v) (t.updateUser v) := by
  refine h.guarded v _ fun _ => ?_
  split
  · exact h.agree _
  · rename_i data _
    rw [h.store.user?]
    split
    · exact h.agree _
    · exact h.agree _
    · exact h.changeUser v data

theorem deleteUser (v : Visit) : Agree (s.deleteUser v) (t.deleteUser v) := by
  refine h.guarded v _ fun caller => ?_
  split
  · exact h.agree _
  · exact h.changed _ _ _ _ (h.store.deleteUser v.key v.now)

theorem createKey (hs : s.Unused) (ht : t.Unused) (v : Visit) :
    Agree (s.createKey v) (t.createKey v) := by
  refine h.guarded v _ fun caller => ?_
  have hread : readNewKey s.store v caller.user = readNewKey t.store v caller.user := by
    simp only [readNewKey, readOwner, h.store.userByEmail?]
  rw [hread]
  split
  · exact h.agree _
  · rename_i owner expires _
    obtain ⟨s', t', made, hmade, hmade', halike⟩ :=
      (h.issueKey hs ht v.now (some owner) expires).outcome
    rw [hmade, hmade']
    cases made <;> exact halike.agree _

theorem deleteKey (v : Visit) : Agree (s.deleteKey v) (t.deleteKey v) :=
  h.guarded v _ fun _ => h.changed _ _ _ _ (h.store.deleteKey v.key v.now)

end Alike

end Service

end Pressroom
