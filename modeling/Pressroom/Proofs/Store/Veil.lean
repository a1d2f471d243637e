import Pressroom.Store.Users
import Pressroom.Store.Keys
import Pressroom.Store.Posts
import Pressroom.Proofs.Result

/-!
Stores without their secrets. Veiling blanks out the hash of every password and the digest of every
token and keeps everything else. No question about users or keys but the one for a digest looks at
what is blanked out: each is answered with the same rows, veiled. So a write leaves the same store
behind whether it is veiled before or after, except that it may write secrets of its own.
-/
namespace Pressroom

/-! ### Rows with other data -/

namespace Entry

variable {τ α β : Type}

/-- A row with its data mapped. -/
def mapData (f : α → β) (e : Entry τ α) : Entry τ β :=
  ⟨e.id, f e.data, e.created, e.updated, e.deleted⟩

theorem read_mapData (f : α → β) (r : Row α) : (r.mapData f).read = r.read.map (mapData f) := by
  rw [read, read]
  dsimp only [mapData]
  split
  · rfl
  · split
    · rfl
    · split <;> rfl

theorem readAll_mapData (f : α → β) (rows : List (Row α)) :
    readAll (rows.map (mapData f)) = (readAll rows).map (List.map (mapData f)) := by
  induction rows with
  | nil => rfl
  | cons r rest ih =>
    rw [List.map_cons, readAll, readAll, read_mapData, ih]
    cases r.read with
    | error _ => rfl
    | ok item => cases readAll rest <;> rfl

end Entry

namespace Store

section Table

variable {α β : Type} (f : α → β)

theorem findRow?_mapData (rows : List (Row α)) (deletedToo : Bool) (id : String) :
    findRow? (rows.map (Entry.mapData f)) deletedToo id
      = (findRow? rows deletedToo id).map (Entry.mapData f) := List.find?_map ..

theorem rowsFor_mapData (rows : List (Row α)) (deletedToo : Bool) :
    rowsFor (rows.map (Entry.mapData f)) deletedToo
      = (rowsFor rows deletedToo).map (Entry.mapData f) := List.filter_map ..

theorem oldestFirst_mapData (rows : List (Row α)) :
    oldestFirst (rows.map (Entry.mapData f)) = (oldestFirst rows).map (Entry.mapData f) := by
  rw [oldestFirst, oldestFirst]
  exact (List.map_mergeSort (f := Entry.mapData f) fun _ _ _ _ => rfl).symm

theorem newestFirst_mapData (rows : List (Row α)) :
    newestFirst (rows.map (Entry.mapData f)) = (newestFirst rows).map (Entry.mapData f) := by
  rw [newestFirst, newestFirst]
  exact (List.map_mergeSort (f := Entry.mapData f) fun _ _ _ _ => rfl).symm

theorem readRows_mapData (rows : List (Row α)) :
    readRows (rows.map (Entry.mapData f)) = (readRows rows).map (List.map (Entry.mapData f)) := by
  rw [readRows, readRows, Entry.readAll_mapData]
  cases Entry.readAll rows <;> rfl

theorem readRow?_mapData (found : Option (Row α)) :
    readRow? (found.map (Entry.mapData f)) = (readRow? found).map (Option.map (Entry.mapData f)) := by
  cases found with
  | none => rfl
  | some r =>
    rw [Option.map_some, readRow?, readRow?, Entry.read_mapData]
    cases r.read <;> rfl

theorem reviseRow_mapData (change : Row α → Row α) (change' : Row β → Row β)
    (h : ∀ r, change' (Entry.mapData f r) = Entry.mapData f (change r)) (rows : List (Row α))
    (id : String) : reviseRow (rows.map (Entry.mapData f)) id change'
      = (reviseRow rows id change).map (Entry.mapData f) := by
  rw [reviseRow, reviseRow, List.map_map, List.map_map]
  refine List.map_congr_left fun r _ => ?_
  simp only [Function.comp_apply]
  rw [show (Entry.mapData f r).id = r.id from rfl]
  split
  · exact h r
  · rfl

end Table

end Store

/-! ### Veiling -/

def UserData.veiled (d : UserData) : UserData := { d with password := "" }

def KeyData.veiled (d : KeyData) : KeyData := { d with digest := none }

namespace Store

/-- The store without its secrets. -/
def veil (s : Store) : Store :=
  { s with
    users := s.users.map (Entry.mapData UserData.veiled)
    keys := s.keys.map (Entry.mapData KeyData.veiled) }

/-- The outcome of a write, without the secrets of the store that it leaves. -/
def unseen {β : Type} (r : StoreResult (Store × β)) : StoreResult (Store × β) :=
  r.map fun x => (x.1.veil, x.2)

/-- Writes with one outcome, secrets aside, fail alike, or give the same and leave the same. -/
theorem unseen_eq {β : Type} {x y : StoreResult (Store × β)} (h : unseen x = unseen y) :
    (∃ f, x = .error f ∧ y = .error f) ∨
      ∃ a b c, x = .ok (a, c) ∧ y = .ok (b, c) ∧ a.veil = b.veil := by
  cases x with
  | error f =>
    cases y with
    | error g => cases h; exact .inl ⟨f, rfl, rfl⟩
    | ok y => cases h
  | ok x =>
    cases y with
    | error g => cases h
    | ok y =>
      obtain ⟨hstore, hvalue⟩ := Prod.mk.inj (Except.ok.inj h)
      exact .inr ⟨x.1, y.1, x.2, rfl, by rw [hvalue], hstore⟩

variable (s : Store)

@[simp]
theorem veil_users : s.veil.users = s.users.map (Entry.mapData UserData.veiled) := rfl

@[simp]
theorem veil_keys : s.veil.keys = s.keys.map (Entry.mapData KeyData.veiled) := rfl

@[simp]
theorem veil_posts : s.veil.posts = s.posts := rfl

@[simp]
theorem veil_need (table : String) : s.veil.need table = s.need table := rfl

@[simp]
theorem veil_veil : s.veil.veil = s.veil := by
  simp only [veil, List.map_map]
  rfl

/-! ### Questions -/

theorem user?_veil (id : Text) (deletedToo : Bool) : s.veil.user? id deletedToo
    = (s.user? id deletedToo).map (Option.map (Entry.mapData UserData.veiled)) := by
  simp only [user?, map_bind, veil_need, veil_users, findRow?_mapData, readRow?_mapData]

theorem userByEmail?_veil (email : Text) (deletedToo : Bool) : s.veil.userByEmail? email deletedToo
    = (s.userByEmail? email deletedToo).map (Option.map (Entry.mapData UserData.veiled)) := by
  simp only [userByEmail?, map_bind, veil_need, veil_users, rowsFor_mapData, List.filter_map,
    newestFirst_mapData, List.head?_map, readRow?_mapData]
  rfl

theorem listUsers_veil (deletedToo : Bool) : s.veil.listUsers deletedToo
    = (s.listUsers deletedToo).map (List.map (Entry.mapData UserData.veiled)) := by
  simp only [listUsers, map_bind, veil_need, veil_users, rowsFor_mapData, oldestFirst_mapData,
    readRows_mapData]

theorem countUsers_veil (deletedToo : Bool) :
    s.veil.countUsers deletedToo = s.countUsers deletedToo := by
  simp only [countUsers, veil_need, veil_users, rowsFor_mapData, List.length_map]

theorem listKeys_veil (deletedToo : Bool) : s.veil.listKeys deletedToo
    = (s.listKeys deletedToo).map (List.map (Entry.mapData KeyData.veiled)) := by
  simp only [listKeys, map_bind, veil_need, veil_keys, rowsFor_mapData, newestFirst_mapData,
    readRows_mapData]

theorem listKeysOf_veil (email : Option Text) : s.veil.listKeysOf email
    = (s.listKeysOf email).map (List.map (Entry.mapData KeyData.veiled)) := by
  simp only [listKeysOf, map_bind, veil_need, veil_keys, rowsFor_mapData, List.filter_map,
    newestFirst_mapData, readRows_mapData]
  rfl

theorem emailClash_veil (id email : String) : s.veil.emailClash id email = s.emailClash id email := by
  simp only [emailClash, veil_users, List.any_map]
  rfl

/-! ### Writes -/

theorem deleteUser_veil (id : Text) (now : Instant) :
    s.veil.deleteUser id now = unseen (s.deleteUser id now) := by
  rw [unseen, deleteUser, deleteUser, veil_need, map_bind]
  refine bind_congr fun _ => ?_
  rw [map_bind]
  refine bind_congr fun id => ?_
  rw [veil_users, findRow?_mapData]
  cases findRow? s.users false id with
  | none => rfl
  | some r =>
    dsimp only [Option.map_some]
    rw [reviseRow_mapData UserData.veiled (softDeleted now) (softDeleted now) fun _ => rfl]
    rfl

theorem deleteKey_veil (id : Text) (now : Instant) :
    s.veil.deleteKey id now = unseen (s.deleteKey id now) := by
  rw [unseen, deleteKey, deleteKey, veil_need, map_bind]
  refine bind_congr fun _ => ?_
  rw [map_bind]
  refine bind_congr fun id => ?_
  rw [veil_keys, findRow?_mapData]
  cases findRow? s.keys false id with
  | none => rfl
  | some r =>
    dsimp only [Option.map_some]
    rw [reviseRow_mapData KeyData.veiled (softDeleted now) (softDeleted now) fun _ => rfl]
    rfl

theorem updateUser_veil (id : Text) (now : Instant) (c : UserChanges) :
    s.veil.updateUser id now c = unseen (s.updateUser id now c) := by
  rw [unseen, updateUser, updateUser, veil_need]
  split
  · rw [user?_veil]
    rcases s.user? id false with _ | _ | _ <;> rfl
  · simp only [map_bind]
    refine bind_congr fun _ => bind_congr fun fullname => bind_congr fun email =>
      bind_congr fun permissions => bind_congr fun id => ?_
    rw [veil_users, findRow?_mapData]
    cases findRow? s.users false id with
    | none => rfl
    | some r =>
      dsimp only [Option.map_some, Entry.mapData, UserData.veiled]
      split
      · rename_i fullname email permissions _ _ _
        let change := fun (u : UserData) => { u with fullname, email, permissions }
        rw [emailClash_veil]
        split
        · rfl
        · rw [reviseRow_mapData UserData.veiled (revised now change) (revised now change) fun _ => rfl]
          rfl
      · rfl

theorem createPost_veil (id : String) (now : Instant) (n : PostParts) :
    s.veil.createPost id now n = unseen (s.createPost id now n) := by
  simp only [unseen, createPost, map_bind, veil_need, veil_posts]
  refine bind_congr fun _ => bind_congr fun data => ?_
  rw [apply_ite (Except.map _)]
  rfl

theorem updatePost_veil (id : Text) (now : Instant) (c : PostChanges) :
    s.veil.updatePost id now c = unseen (s.updatePost id now c) := by
  rw [unseen, updatePost, updatePost]
  split
  · rw [show s.veil.post? id false = s.post? id false from rfl]
    rcases s.post? id false with _ | _ | _ <;> rfl
  · simp only [map_bind, veil_need, veil_posts]
    refine bind_congr fun _ => bind_congr fun type => bind_congr fun body =>
      bind_congr fun title => bind_congr fun author => bind_congr fun id => ?_
    split <;> rfl

theorem deletePost_veil (id : Text) (now : Instant) :
    s.veil.deletePost id now = unseen (s.deletePost id now) := by
  simp only [unseen, deletePost, map_bind, veil_need, veil_posts]
  refine bind_congr fun _ => bind_congr fun id => ?_
  split <;> rfl

theorem restorePost_veil (id : Text) (now : Instant) :
    s.veil.restorePost id now = unseen (s.restorePost id now) := by
  simp only [unseen, restorePost, map_bind, veil_need, veil_posts]
  refine bind_congr fun _ => bind_congr fun id => ?_
  cases findRow? s.posts true id with
  | none => rfl
  | some r => dsimp only; cases r.isLive <;> rfl

/-! ### Writes of secrets -/

section Table

variable {α : Type} {f : α → α} (hf : ∀ d, f (f d) = f d)
include hf

theorem mapData_mapData (rows : List (Row α)) :
    (rows.map (Entry.mapData f)).map (Entry.mapData f) = rows.map (Entry.mapData f) := by
  rw [List.map_map]
  refine List.map_congr_left fun r _ => ?_
  simp only [Function.comp_apply, Entry.mapData, hf]

theorem mapData_append (rows : List (Row α)) (r : Row α) :
    (rows.map (Entry.mapData f) ++ [r]).map (Entry.mapData f)
      = (rows ++ [r]).map (Entry.mapData f) := by
  rw [List.map_append, List.map_append, mapData_mapData hf]

theorem mapData_reviseRow (rows : List (Row α)) (id : String) (change : Row α → Row α)
    (h : ∀ r, Entry.mapData f (change (Entry.mapData f r)) = Entry.mapData f (change r)) :
    (reviseRow (rows.map (Entry.mapData f)) id change).map (Entry.mapData f)
      = (reviseRow rows id change).map (Entry.mapData f) := by
  simp only [reviseRow, List.map_map]
  refine List.map_congr_left fun r _ => ?_
  simp only [Function.comp_apply]
  rw [show (Entry.mapData f r).id = r.id from rfl]
  split
  · exact h r
  · simp only [Entry.mapData, hf]

end Table

theorem any_id_mapData {α β : Type} (f : α → β) (rows : List (Row α)) (id : String) :
    ((rows.map (Entry.mapData f)).any fun r => r.id == id) = rows.any fun r => r.id == id :=
  List.any_map ..

theorem createUser_veil (id : String) (now : Instant) (n : NewUser) :
    unseen (s.veil.createUser id now n) = unseen (s.createUser id now n) := by
  simp only [unseen, createUser, map_bind, veil_need, veil_users, emailClash_veil, any_id_mapData]
  refine bind_congr fun _ => bind_congr fun data => ?_
  rw [apply_ite (Except.map _), apply_ite (Except.map _)]
  dsimp only [Except.map, veil]
  rw [mapData_append (f := UserData.veiled) fun _ => rfl,
    mapData_mapData (f := KeyData.veiled) fun _ => rfl]

theorem updatePassword_veil (id : Text) (now : Instant) (password : Option Text) :
    unseen (s.veil.updatePassword id now password) = unseen (s.updatePassword id now password) := by
  simp only [unseen, updatePassword, map_bind, veil_need, veil_users, findRow?_mapData]
  refine bind_congr fun _ => bind_congr fun password => bind_congr fun id => ?_
  cases findRow? s.users false id with
  | none => exact congrArg (fun x => Except.ok (x, false)) s.veil_veil
  | some r =>
    cases password with
    | none => rfl
    | some password =>
      let change := fun (u : UserData) => { u with password }
      refine congrArg (fun x => Except.ok (x, true)) ?_
      simp only [veil]
      rw [mapData_reviseRow (f := UserData.veiled) (fun _ => rfl) s.users id (revised now change)
        fun _ => rfl, mapData_mapData (f := KeyData.veiled) fun _ => rfl]

/-- No digest is taken where there are none. -/
theorem digestTaken_veil (digest : Option String) : s.veil.digestTaken digest = false := by
  cases digest with
  | none => rfl
  | some digest =>
    rw [digestTaken, veil_keys, List.any_map, List.any_eq_false]
    rintro r - hr
    cases hr

/-- The digest of a new key is looked at: it must not be there yet. -/
theorem createKey_veil (id : String) (now : Instant) (n : KeyParts)
    (h : ∀ data, bindKey n = .ok data → s.digestTaken data.digest = false) :
    unseen (s.veil.createKey id now n) = unseen (s.createKey id now n) := by
  simp only [unseen, createKey, map_bind, veil_need, veil_keys, any_id_mapData, digestTaken_veil]
  refine bind_congr fun _ => ?_
  cases hdata : bindKey n with
  | error f => rfl
  | ok data =>
    simp only [ok_bind, h data hdata, Bool.or_false]
    rw [apply_ite (Except.map _), apply_ite (Except.map _)]
    dsimp only [Except.map, veil]
    rw [mapData_append (f := KeyData.veiled) fun _ => rfl,
      mapData_mapData (f := UserData.veiled) fun _ => rfl]

end Store

end Pressroom
