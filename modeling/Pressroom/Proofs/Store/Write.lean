import Pressroom.Store.Keys
import Pressroom.Store.Posts
import Pressroom.Store.Users
import Pressroom.Proofs.Store.Rows
import Pressroom.Proofs.Text.Point

/-!
What the operations of the store write. `Write` lists the changes one by one, with what each of
them was checked for; every operation that succeeds either leaves the store alone or makes one of
these changes. What holds of the store is shown by cases on this list, and no proof about a handler
looks into an operation again.
-/
namespace Pressroom

namespace Store

/-- One change of the store at an instant. -/
inductive Write (now : Instant) (s : Store) : Store → Prop
  | addUser (id : String) (data : UserData) (fresh : ∀ r ∈ s.users, r.id ≠ id)
      (free : s.emailClash id data.email = false) :
      Write now s { s with users := s.users ++ [.newRow id data now] }
  | reviseUser (r : Row UserData) (change : UserData → UserData)
      (found : findRow? s.users false r.id = some r)
      (free : s.emailClash r.id (change r.data).email = false)
      (password : (change r.data).password = r.data.password) :
      Write now s { s with users := reviseRow s.users r.id (revised now change) }
  | setPassword (r : Row UserData) (password : String)
      (found : findRow? s.users false r.id = some r) :
      Write now s { s with
        users := reviseRow s.users r.id (revised now fun u => { u with password }) }
  | deleteUser (r : Row UserData) (found : findRow? s.users false r.id = some r) :
      Write now s { s with users := reviseRow s.users r.id (softDeleted now) }
  | restoreUser (r : Row UserData) (found : findRow? s.users true r.id = some r)
      (gone : r.isLive = false) (free : s.emailClash r.id r.data.email = false) :
      Write now s { s with users := reviseRow s.users r.id (restored now) }
  | addPost (id : String) (data : PostData) (fresh : ∀ r ∈ s.posts, r.id ≠ id) :
      Write now s { s with posts := s.posts ++ [.newRow id data now] }
  | revisePost (r : Row PostData) (change : PostData → PostData)
      (found : findRow? s.posts false r.id = some r) :
      Write now s { s with posts := reviseRow s.posts r.id (revised now change) }
  | deletePost (r : Row PostData) (found : findRow? s.posts false r.id = some r) :
      Write now s { s with posts := reviseRow s.posts r.id (softDeleted now) }
  | restorePost (r : Row PostData) (found : findRow? s.posts true r.id = some r)
      (gone : r.isLive = false) :
      Write now s { s with posts := reviseRow s.posts r.id (restored now) }
  | addKey (id : String) (data : KeyData) (fresh : ∀ r ∈ s.keys, r.id ≠ id)
      (free : s.digestTaken data.digest = false) :
      Write now s { s with keys := s.keys ++ [.newRow id data now] }
  | deleteKey (r : Row KeyData) (found : findRow? s.keys false r.id = some r) :
      Write now s { s with keys := reviseRow s.keys r.id (softDeleted now) }

variable {s s' : Store} {now : Instant} {id : Text} {found : Bool}

/-- A string has no lone half, so it always gets into the store. -/
theorem bind_ofString (t : String) : bind (Text.ofString t) = .ok t := by
  rw [bind, Text.string?_ofString]

/-- What gets into the store is the text that was sent. -/
theorem bind_eq_ok_iff {t : Text} {string : String} :
    bind t = .ok string ↔ t = Text.ofString string := by
  refine ⟨fun h => ?_, fun h => h ▸ bind_ofString string⟩
  rw [bind] at h
  split at h
  · rename_i hstring; cases h; exact Text.string?_eq_some hstring
  · cases h

theorem bindOption_eq_ok {t : Option Text} {string : Option String}
    (h : bindOption t = .ok string) : string.map Text.ofString = t := by
  cases t with
  | none => cases h; rfl
  | some t =>
    obtain ⟨string, hstring, rfl⟩ := map_eq_ok.1 h
    rw [bind_eq_ok_iff.1 hstring]; rfl

/-- A number gets into the store if it fits into sixty-four bits with a sign, and is not changed on
the way. -/
theorem bindWhole_eq_ok {n m : Int} (h : bindWhole n = .ok m) :
    m = n ∧ -0x8000000000000000 ≤ n ∧ n < 0x8000000000000000 := by
  rw [bindWhole] at h
  split at h
  · rename_i hfits
    simp only [Bool.and_eq_true, decide_eq_true_eq] at hfits
    cases h
    exact ⟨rfl, hfits⟩
  · cases h

theorem bindWholeOption_eq_ok {n m : Option Int} (h : bindWholeOption n = .ok m) : m = n := by
  cases n with
  | none => cases h; rfl
  | some n =>
    obtain ⟨k, hk, rfl⟩ := map_eq_ok.1 h
    rw [(bindWhole_eq_ok hk).1]

/-- A number that fits gets into the store, and so does a missing one. -/
theorem bindWholeOption_fits {n : Option Int}
    (h : ∀ k ∈ n, -0x8000000000000000 ≤ k ∧ k < 0x8000000000000000) :
    bindWholeOption n = .ok n := by
  cases n with
  | none => rfl
  | some n => rw [bindWholeOption, bindWhole, if_pos (by simpa using h n rfl)]; rfl

/-! ### Users -/

/-- A user that gets into the store has the parts that were sent. -/
theorem bindUser_eq_ok {n : NewUser} {data : UserData} (h : bindUser n = .ok data) :
    n.fullname = some (Text.ofString data.fullname) ∧ n.email = some (Text.ofString data.email) ∧
      n.password = some (Text.ofString data.password) ∧ n.permissions = some data.permissions := by
  obtain ⟨fullname, hfullname, h⟩ := bind_eq_ok.1 h
  obtain ⟨email, hemail, h⟩ := bind_eq_ok.1 h
  obtain ⟨password, hpassword, h⟩ := bind_eq_ok.1 h
  obtain ⟨permissions, hpermissions, h⟩ := bind_eq_ok.1 h
  split at h
  · cases h
    exact ⟨(bindOption_eq_ok hfullname).symm, (bindOption_eq_ok hemail).symm,
      (bindOption_eq_ok hpassword).symm, (bindWholeOption_eq_ok hpermissions).symm⟩
  · cases h

theorem createUser_eq_ok {newId : String} {n : NewUser} {user : User}
    (h : s.createUser newId now n = .ok (s', user)) :
    ∃ data, bindUser n = .ok data ∧ (∀ r ∈ s.users, r.id ≠ newId) ∧
      s.emailClash newId data.email = false ∧
      s' = { s with users := s.users ++ [.newRow newId data now] } ∧
      user = .newItem newId data now := by
  obtain ⟨-, -, h⟩ := bind_eq_ok.1 h
  obtain ⟨data, hdata, h⟩ := bind_eq_ok.1 h
  split at h
  · cases h
  · rename_i hfree
    simp only [Bool.or_eq_true, List.any_eq_true, beq_iff_eq, not_or, not_exists, not_and,
      Bool.not_eq_true] at hfree
    cases h
    exact ⟨data, hdata, hfree.1, hfree.2, rfl, rfl⟩

/-- What changes make of a user: each part is the new one if one is given, and is never taken away. -/
structure AppliesToUser (c : UserChanges) (old new : UserData) : Prop where
  fullname : ∃ part, bindChange c.fullname = .ok part ∧
    changedPart old.fullname part = some new.fullname
  email : ∃ part, bindChange c.email = .ok part ∧ changedPart old.email part = some new.email
  permissions : changedPart old.permissions c.permissions = some new.permissions
  password : new.password = old.password

/-- A user who is changed is a live one, and nobody else has the address afterwards. -/
theorem updateUser_eq_ok {c : UserChanges} (h : s.updateUser id now c = .ok (s', found)) :
    s' = s ∧ (c.isEmpty = true ∨ ∃ key, bind id = .ok key ∧ findRow? s.users false key = none) ∨
      found = true ∧ ∃ r change, findRow? s.users false r.id = some r ∧ bind id = .ok r.id ∧
        AppliesToUser c r.data (change r.data) ∧ s.emailClash r.id (change r.data).email = false ∧
        s' = { s with users := reviseRow s.users r.id (revised now change) } := by
  rw [updateUser] at h
  split at h
  · rename_i hempty
    obtain ⟨_, -, h⟩ := bind_eq_ok.1 h
    cases h; exact .inl ⟨rfl, .inl hempty⟩
  · obtain ⟨-, -, h⟩ := bind_eq_ok.1 h
    obtain ⟨fullname, hfullname, h⟩ := bind_eq_ok.1 h
    obtain ⟨email, hemail, h⟩ := bind_eq_ok.1 h
    obtain ⟨permissions, hpermissions, h⟩ := bind_eq_ok.1 h
    obtain ⟨key, hkey, h⟩ := bind_eq_ok.1 h
    split at h
    · rename_i hnone; cases h; exact .inl ⟨rfl, .inr ⟨key, hkey, hnone⟩⟩
    · rename_i r hr
      obtain ⟨-, rfl, -⟩ := findRow?_live hr
      split at h
      · rename_i newFullname newEmail newPermissions hnewFullname hnewEmail hnewPermissions
        split at h
        · cases h
        · rename_i hfree
          cases h
          have hsame : permissions = c.permissions := by
            split at hpermissions
            · rename_i hnone; cases hpermissions; exact hnone.symm
            · rename_i hsome
              obtain ⟨p, hp, rfl⟩ := map_eq_ok.1 hpermissions
              rw [bindWholeOption_eq_ok hp, hsome]
          rw [hsame] at hnewPermissions
          exact .inr ⟨rfl, r, _, hr, hkey, ⟨⟨_, hfullname, hnewFullname⟩, ⟨_, hemail, hnewEmail⟩,
            hnewPermissions, rfl⟩, by simpa using hfree, rfl⟩
      · cases h

theorem updateUser_write {c : UserChanges} (h : s.updateUser id now c = .ok (s', found)) :
    s' = s ∨ found = true ∧ Write now s s' := by
  obtain ⟨hs, -⟩ | ⟨hfound, r, change, hr, -, happly, hfree, rfl⟩ := updateUser_eq_ok h
  · exact .inl hs
  · exact .inr ⟨hfound, .reviseUser r change hr hfree happly.password⟩

theorem updatePassword_eq_ok {password : Option Text}
    (h : s.updatePassword id now password = .ok (s', found)) :
    s' = s ∨ found = true ∧ ∃ r hash, findRow? s.users false r.id = some r ∧ bind id = .ok r.id ∧
      bindOption password = .ok (some hash) ∧
      s' = { s with users := reviseRow s.users r.id (revised now fun u => { u with password := hash }) } := by
  obtain ⟨-, -, h⟩ := bind_eq_ok.1 h
  obtain ⟨hash, hhash, h⟩ := bind_eq_ok.1 h
  obtain ⟨key, hkey, h⟩ := bind_eq_ok.1 h
  cases hr : findRow? s.users false key with
  | none => rw [hr] at h; cases h; exact .inl rfl
  | some r =>
    obtain ⟨-, rfl, -⟩ := findRow?_live hr
    rw [hr] at h
    cases hash with
    | none => cases h
    | some hash => cases h; exact .inr ⟨rfl, r, hash, hr, hkey, hhash, rfl⟩

theorem updatePassword_write {password : Option Text}
    (h : s.updatePassword id now password = .ok (s', found)) :
    s' = s ∨ found = true ∧ Write now s s' := by
  obtain hs | ⟨hfound, r, hash, hr, -, -, rfl⟩ := updatePassword_eq_ok h
  · exact .inl hs
  · exact .inr ⟨hfound, .setPassword r hash hr⟩

theorem deleteUser_eq_ok (h : s.deleteUser id now = .ok (s', found)) :
    s' = s ∧ found = false ∨ found = true ∧ ∃ r, findRow? s.users false r.id = some r ∧
      bind id = .ok r.id ∧ s' = { s with users := reviseRow s.users r.id (softDeleted now) } := by
  obtain ⟨-, -, h⟩ := bind_eq_ok.1 h
  obtain ⟨key, hkey, h⟩ := bind_eq_ok.1 h
  split at h
  · cases h; exact .inl ⟨rfl, rfl⟩
  · rename_i r hr
    obtain ⟨-, rfl, -⟩ := findRow?_live hr
    cases h
    exact .inr ⟨rfl, r, hr, hkey, rfl⟩

theorem deleteUser_write (h : s.deleteUser id now = .ok (s', found)) :
    s' = s ∧ found = false ∨ found = true ∧ Write now s s' := by
  obtain hs | ⟨hfound, r, hr, -, rfl⟩ := deleteUser_eq_ok h
  · exact .inl hs
  · exact .inr ⟨hfound, .deleteUser r hr⟩

theorem restoreUser_eq_ok (h : s.restoreUser id now = .ok (s', found)) :
    s' = s ∧ found = false ∨ found = true ∧ ∃ r, findRow? s.users true r.id = some r ∧
      r.isLive = false ∧ s.emailClash r.id r.data.email = false ∧ bind id = .ok r.id ∧
      s' = { s with users := reviseRow s.users r.id (restored now) } := by
  obtain ⟨-, -, h⟩ := bind_eq_ok.1 h
  obtain ⟨key, hkey, h⟩ := bind_eq_ok.1 h
  split at h
  · cases h; exact .inl ⟨rfl, rfl⟩
  · rename_i r hr
    obtain ⟨-, rfl, -⟩ := findRow?_eq_some hr
    split at h
    · cases h; exact .inl ⟨rfl, rfl⟩
    · rename_i hgone
      split at h
      · cases h
      · rename_i hfree
        cases h
        exact .inr ⟨rfl, r, hr, by simpa using hgone, by simpa using hfree, hkey, rfl⟩

theorem restoreUser_write (h : s.restoreUser id now = .ok (s', found)) :
    s' = s ∧ found = false ∨ found = true ∧ Write now s s' := by
  obtain hs | ⟨hfound, r, hr, hgone, hfree, -, rfl⟩ := restoreUser_eq_ok h
  · exact .inl hs
  · exact .inr ⟨hfound, .restoreUser r hr hgone hfree⟩

/-! ### Posts -/

/-- A post that gets into the store has the parts that were sent. -/
theorem bindPost_eq_ok {n : PostParts} {data : PostData} (h : bindPost n = .ok data) :
    data.type.map Text.ofString = n.type ∧ data.body.map Text.ofString = n.body ∧
      data.title.map Text.ofString = n.title ∧ data.author.map Text.ofString = n.author := by
  obtain ⟨type, htype, h⟩ := bind_eq_ok.1 h
  obtain ⟨body, hbody, h⟩ := bind_eq_ok.1 h
  obtain ⟨title, htitle, h⟩ := bind_eq_ok.1 h
  obtain ⟨author, hauthor, h⟩ := bind_eq_ok.1 h
  cases h
  exact ⟨bindOption_eq_ok htype, bindOption_eq_ok hbody, bindOption_eq_ok htitle,
    bindOption_eq_ok hauthor⟩

theorem createPost_eq_ok {newId : String} {n : PostParts} {post : Post}
    (h : s.createPost newId now n = .ok (s', post)) :
    ∃ data, bindPost n = .ok data ∧ (∀ r ∈ s.posts, r.id ≠ newId) ∧
      s' = { s with posts := s.posts ++ [.newRow newId data now] } ∧
      post = .newItem newId data now := by
  obtain ⟨-, -, h⟩ := bind_eq_ok.1 h
  obtain ⟨data, hdata, h⟩ := bind_eq_ok.1 h
  split at h
  · cases h
  · rename_i hfresh
    simp only [List.any_eq_true, beq_iff_eq, not_exists, not_and] at hfresh
    cases h
    exact ⟨data, hdata, hfresh, rfl, rfl⟩

/-- What changes make of a post: each part is the new one if one is given. -/
structure AppliesToPost (c : PostChanges) (old new : PostData) : Prop where
  type : ∃ part, bindPart c.type = .ok part ∧ new.type = part.getD old.type
  body : ∃ part, bindPart c.body = .ok part ∧ new.body = part.getD old.body
  title : ∃ part, bindPart c.title = .ok part ∧ new.title = part.getD old.title
  author : ∃ part, bindPart c.author = .ok part ∧ new.author = part.getD old.author

/-- A post that is changed is a live one, and stays one. -/
theorem updatePost_eq_ok {c : PostChanges} (h : s.updatePost id now c = .ok (s', found)) :
    s' = s ∧ (c.isEmpty = true ∨ found = false) ∨
      found = true ∧ ∃ r change, findRow? s.posts false r.id = some r ∧ bind id = .ok r.id ∧
        AppliesToPost c r.data (change r.data) ∧
        s' = { s with posts := reviseRow s.posts r.id (revised now change) } := by
  rw [updatePost] at h
  split at h
  · rename_i hempty
    obtain ⟨_, -, h⟩ := bind_eq_ok.1 h
    cases h; exact .inl ⟨rfl, .inl hempty⟩
  · obtain ⟨-, -, h⟩ := bind_eq_ok.1 h
    obtain ⟨type, htype, h⟩ := bind_eq_ok.1 h
    obtain ⟨body, hbody, h⟩ := bind_eq_ok.1 h
    obtain ⟨title, htitle, h⟩ := bind_eq_ok.1 h
    obtain ⟨author, hauthor, h⟩ := bind_eq_ok.1 h
    obtain ⟨key, hkey, h⟩ := bind_eq_ok.1 h
    split at h
    · cases h; exact .inl ⟨rfl, .inr rfl⟩
    · rename_i r hr
      obtain ⟨-, rfl, -⟩ := findRow?_live hr
      cases h
      exact .inr ⟨rfl, r, _, hr, hkey,
        ⟨⟨_, htype, rfl⟩, ⟨_, hbody, rfl⟩, ⟨_, htitle, rfl⟩, ⟨_, hauthor, rfl⟩⟩, rfl⟩

theorem updatePost_write {c : PostChanges} (h : s.updatePost id now c = .ok (s', found)) :
    s' = s ∨ found = true ∧ Write now s s' := by
  obtain ⟨hs, -⟩ | ⟨hfound, r, change, hr, -, -, rfl⟩ := updatePost_eq_ok h
  · exact .inl hs
  · exact .inr ⟨hfound, .revisePost r change hr⟩

theorem deletePost_eq_ok (h : s.deletePost id now = .ok (s', found)) :
    s' = s ∧ found = false ∨ found = true ∧ ∃ r, findRow? s.posts false r.id = some r ∧
      bind id = .ok r.id ∧ s' = { s with posts := reviseRow s.posts r.id (softDeleted now) } := by
  obtain ⟨-, -, h⟩ := bind_eq_ok.1 h
  obtain ⟨key, hkey, h⟩ := bind_eq_ok.1 h
  split at h
  · cases h; exact .inl ⟨rfl, rfl⟩
  · rename_i r hr
    obtain ⟨-, rfl, -⟩ := findRow?_live hr
    cases h
    exact .inr ⟨rfl, r, hr, hkey, rfl⟩

theorem deletePost_write (h : s.deletePost id now = .ok (s', found)) :
    s' = s ∧ found = false ∨ found = true ∧ Write now s s' := by
  obtain hs | ⟨hfound, r, hr, -, rfl⟩ := deletePost_eq_ok h
  · exact .inl hs
  · exact .inr ⟨hfound, .deletePost r hr⟩

theorem restorePost_eq_ok (h : s.restorePost id now = .ok (s', found)) :
    s' = s ∧ found = false ∨ found = true ∧ ∃ r, findRow? s.posts true r.id = some r ∧
      r.isLive = false ∧ bind id = .ok r.id ∧
      s' = { s with posts := reviseRow s.posts r.id (restored now) } := by
  obtain ⟨-, -, h⟩ := bind_eq_ok.1 h
  obtain ⟨key, hkey, h⟩ := bind_eq_ok.1 h
  split at h
  · cases h; exact .inl ⟨rfl, rfl⟩
  · rename_i r hr
    obtain ⟨-, rfl, -⟩ := findRow?_eq_some hr
    split at h
    · cases h; exact .inl ⟨rfl, rfl⟩
    · rename_i hgone
      cases h
      exact .inr ⟨rfl, r, hr, by simpa using hgone, hkey, rfl⟩

theorem restorePost_write (h : s.restorePost id now = .ok (s', found)) :
    s' = s ∧ found = false ∨ found = true ∧ Write now s s' := by
  obtain hs | ⟨hfound, r, hr, hgone, -, rfl⟩ := restorePost_eq_ok h
  · exact .inl hs
  · exact .inr ⟨hfound, .restorePost r hr hgone⟩

/-! ### Keys -/

/-- A key that gets into the store has the parts that were sent. -/
theorem bindKey_eq_ok {n : KeyParts} {data : KeyData} (h : bindKey n = .ok data) :
    bindOption n.digest = .ok data.digest ∧ bindOption n.owner = .ok data.owner ∧
      bindWholeOption n.expires = .ok data.expires := by
  obtain ⟨digest, hdigest, h⟩ := bind_eq_ok.1 h
  obtain ⟨owner, howner, h⟩ := bind_eq_ok.1 h
  obtain ⟨expires, hexpires, h⟩ := bind_eq_ok.1 h
  cases h
  exact ⟨hdigest, howner, hexpires⟩

theorem createKey_eq_ok {newId : String} {n : KeyParts} {key : ApiKey}
    (h : s.createKey newId now n = .ok (s', key)) :
    ∃ data, bindKey n = .ok data ∧ (∀ r ∈ s.keys, r.id ≠ newId) ∧
      s.digestTaken data.digest = false ∧
      s' = { s with keys := s.keys ++ [.newRow newId data now] } ∧
      key = .newItem newId data now := by
  obtain ⟨-, -, h⟩ := bind_eq_ok.1 h
  obtain ⟨data, hdata, h⟩ := bind_eq_ok.1 h
  split at h
  · cases h
  · rename_i hfree
    simp only [Bool.or_eq_true, List.any_eq_true, beq_iff_eq, not_or, not_exists, not_and,
      Bool.not_eq_true] at hfree
    cases h
    exact ⟨data, hdata, hfree.1, hfree.2, rfl, rfl⟩

theorem deleteKey_eq_ok (h : s.deleteKey id now = .ok (s', found)) :
    s' = s ∧ found = false ∨ found = true ∧ ∃ r, findRow? s.keys false r.id = some r ∧
      bind id = .ok r.id ∧ s' = { s with keys := reviseRow s.keys r.id (softDeleted now) } := by
  obtain ⟨-, -, h⟩ := bind_eq_ok.1 h
  obtain ⟨key, hkey, h⟩ := bind_eq_ok.1 h
  split at h
  · cases h; exact .inl ⟨rfl, rfl⟩
  · rename_i r hr
    obtain ⟨-, rfl, -⟩ := findRow?_live hr
    cases h
    exact .inr ⟨rfl, r, hr, hkey, rfl⟩

theorem deleteKey_write (h : s.deleteKey id now = .ok (s', found)) :
    s' = s ∧ found = false ∨ found = true ∧ Write now s s' := by
  obtain hs | ⟨hfound, r, hr, -, rfl⟩ := deleteKey_eq_ok h
  · exact .inl hs
  · exact .inr ⟨hfound, .deleteKey r hr⟩

end Store

end Pressroom
