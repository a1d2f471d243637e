import Pressroom.Proofs.Store.Lookup
import Pressroom.Proofs.Store.Write

/-!
What the live rows decide. Two stores are alike if they have the same live rows in the same order;
what is deleted in either makes no difference. Every question that does not ask for deleted rows has
one answer in both, and every change either fails alike in both or leaves them alike again. Only a
new row meets the deleted ones, by its id and, if it is a key, by its digest.
-/
namespace Pressroom

namespace Store

/-! ### Live rows -/

section Rows

variable {α : Type} {rows : List (Row α)} {id : String}

theorem findRow?_rowsFor (rows : List (Row α)) (id : String) :
    findRow? rows false id = (rowsFor rows false).find? fun r => r.id == id := by
  rw [findRow?, rowsFor, List.find?_filter]
  congr 1
  funext r
  rw [Bool.false_or, Bool.and_comm, Bool.decide_and, Bool.decide_coe, Bool.decide_coe]

theorem any_rowsFor (rows : List (Row α)) (p : Row α → Bool) :
    rows.any (fun r => r.isLive && p r) = (rowsFor rows false).any p := by
  rw [rowsFor, List.any_filter]
  rfl

/-- New data for a row changes it among the live rows. -/
theorem rowsFor_revised (now : Instant) (change : α → α) (rows : List (Row α)) (id : String) :
    rowsFor (reviseRow rows id (revised now change)) false
      = reviseRow (rowsFor rows false) id (revised now change) := by
  rw [rowsFor, rowsFor, reviseRow, reviseRow, List.filter_map]
  congr 2
  funext r
  rw [Function.comp_apply]
  split <;> rfl

/-- A row that is deleted is taken out of the live rows. -/
theorem rowsFor_softDeleted (now : Instant) (rows : List (Row α)) (id : String) :
    rowsFor (reviseRow rows id (softDeleted now)) false
      = (rowsFor rows false).filter fun r => !(r.id == id) := by
  have hlive : (fun r : Row α => false || r.isLive) ∘
      (fun r => if r.id == id then softDeleted now r else r)
      = fun r => !(r.id == id) && (false || r.isLive) := by
    funext r
    rw [Function.comp_apply]
    cases hid : r.id == id with
    | true => rfl
    | false => rfl
  rw [rowsFor, reviseRow, List.filter_map, hlive, rowsFor, List.filter_filter]
  refine (List.map_congr_left fun r hr => ?_).trans (List.map_id _)
  have hid := (List.mem_filter.1 hr).2
  rw [Bool.and_eq_true, Bool.not_eq_true'] at hid
  rw [hid.1]
  rfl

end Rows

/-! ### Stores that are alike -/

/-- Two stores with the same live rows. -/
structure Alike (s t : Store) : Prop where
  schema : s.schema = t.schema
  reachable : s.reachable = t.reachable
  users : rowsFor s.users false = rowsFor t.users false
  posts : rowsFor s.posts false = rowsFor t.posts false
  keys : rowsFor s.keys false = rowsFor t.keys false

/-- Two changes that fail alike, or give the same and leave stores that are alike. -/
inductive Matched {α : Type} : StoreResult (Store × α) → StoreResult (Store × α) → Prop
  | error (f : StoreFault) : Matched (.error f) (.error f)
  | ok {s t : Store} (alike : Alike s t) (a : α) : Matched (.ok (s, a)) (.ok (t, a))

/-- Changes that begin alike are matched if they go on matched. -/
theorem Matched.bind {α β : Type} (x : StoreResult β) {f g : β → StoreResult (Store × α)}
    (h : ∀ b, Matched (f b) (g b)) : Matched (x >>= f) (x >>= g) := by
  cases x with
  | error e => exact .error e
  | ok b => exact h b

namespace Alike

variable {s t : Store} (h : s.Alike t)
include h

/-! ### Questions -/

theorem need (table : String) : s.need table = t.need table := by
  rw [Store.need, Store.need, h.reachable, h.schema]

theorem findUser (id : String) : findRow? s.users false id = findRow? t.users false id := by
  rw [findRow?_rowsFor, findRow?_rowsFor, h.users]

theorem findPost (id : String) : findRow? s.posts false id = findRow? t.posts false id := by
  rw [findRow?_rowsFor, findRow?_rowsFor, h.posts]

theorem findKey (id : String) : findRow? s.keys false id = findRow? t.keys false id := by
  rw [findRow?_rowsFor, findRow?_rowsFor, h.keys]

theorem emailClash (id email : String) : s.emailClash id email = t.emailClash id email := by
  simp only [Store.emailClash, h.schema, Bool.and_assoc, any_rowsFor, h.users]

theorem user? (id : Text) : s.user? id false = t.user? id false := by
  simp only [Store.user?, h.need, h.findUser]

theorem userByEmail? (email : Text) : s.userByEmail? email false = t.userByEmail? email false := by
  simp only [Store.userByEmail?, h.need, h.users]

theorem listUsers : s.listUsers false = t.listUsers false := by
  simp only [Store.listUsers, h.need, h.users]

theorem countUsers : s.countUsers false = t.countUsers false := by
  simp only [Store.countUsers, h.need, h.users]

theorem post? (id : Text) : s.post? id false = t.post? id false := by
  simp only [Store.post?, h.need, h.findPost]

theorem listPosts (type author : Option Text) :
    s.listPosts ⟨type, author, false⟩ = t.listPosts ⟨type, author, false⟩ := by
  simp only [Store.listPosts, h.need, h.posts]

theorem countPosts : s.countPosts false = t.countPosts false := by
  simp only [Store.countPosts, h.need, h.posts]

theorem keyByDigest? (digest : Option Text) : s.keyByDigest? digest = t.keyByDigest? digest := by
  simp only [Store.keyByDigest?, h.need, h.keys]

theorem listKeys : s.listKeys false = t.listKeys false := by
  simp only [Store.listKeys, h.need, h.keys]

theorem listKeysOf (email : Option Text) : s.listKeysOf email = t.listKeysOf email := by
  simp only [Store.listKeysOf, h.need, h.keys]

/-! ### Changes -/

/-- The users of both are changed in one way. -/
theorem withUsers {a b : List (Row UserData)} (hrows : rowsFor a false = rowsFor b false) :
    Alike { s with users := a } { t with users := b } := { h with users := hrows }

theorem withPosts {a b : List (Row PostData)} (hrows : rowsFor a false = rowsFor b false) :
    Alike { s with posts := a } { t with posts := b } := { h with posts := hrows }

theorem withKeys {a b : List (Row KeyData)} (hrows : rowsFor a false = rowsFor b false) :
    Alike { s with keys := a } { t with keys := b } := { h with keys := hrows }

theorem reviseUser (id : String) (now : Instant) (change : UserData → UserData) :
    Alike { s with users := reviseRow s.users id (revised now change) }
      { t with users := reviseRow t.users id (revised now change) } := by
  apply h.withUsers
  rw [rowsFor_revised, rowsFor_revised, h.users]

theorem createUser {id : String} (hs : ∀ r ∈ s.users, r.id ≠ id) (ht : ∀ r ∈ t.users, r.id ≠ id)
    (now : Instant) (n : NewUser) : Matched (s.createUser id now n) (t.createUser id now n) := by
  rw [Store.createUser, Store.createUser, h.need, any_id hs, any_id ht]
  refine .bind _ fun _ => .bind _ fun data => ?_
  rw [h.emailClash]
  split
  · exact .error _
  · exact .ok (h.withUsers (by rw [rowsFor_newRow, rowsFor_newRow, h.users])) _

theorem updateUser (id : Text) (now : Instant) (c : UserChanges) :
    Matched (s.updateUser id now c) (t.updateUser id now c) := by
  rw [Store.updateUser, Store.updateUser, h.need, h.user?]
  split
  · exact .bind _ fun _ => .ok h _
  · refine .bind _ fun _ => .bind _ fun fullname => .bind _ fun email => .bind _ fun permissions =>
      .bind _ fun key => ?_
    rw [h.findUser]
    split
    · exact .ok h _
    · split
      · rw [h.emailClash]
        split
        · exact .error _
        · exact .ok (h.reviseUser ..) _
      · exact .error _

theorem updatePassword (id : Text) (now : Instant) (password : Option Text) :
    Matched (s.updatePassword id now password) (t.updatePassword id now password) := by
  rw [Store.updatePassword, Store.updatePassword, h.need]
  refine .bind _ fun _ => .bind _ fun password => .bind _ fun key => ?_
  rw [h.findUser]
  split
  · exact .ok h _
  · exact .error _
  · exact .ok (h.reviseUser ..) _

theorem deleteUser (id : Text) (now : Instant) :
    Matched (s.deleteUser id now) (t.deleteUser id now) := by
  rw [Store.deleteUser, Store.deleteUser, h.need]
  refine .bind _ fun _ => .bind _ fun key => ?_
  rw [h.findUser]
  split
  · exact .ok h _
  · exact .ok (h.withUsers (by rw [rowsFor_softDeleted, rowsFor_softDeleted, h.users])) _

theorem createPost {id : String} (hs : ∀ r ∈ s.posts, r.id ≠ id) (ht : ∀ r ∈ t.posts, r.id ≠ id)
    (now : Instant) (n : PostParts) : Matched (s.createPost id now n) (t.createPost id now n) := by
  rw [Store.createPost, Store.createPost, h.need, any_id hs, any_id ht]
  refine .bind _ fun _ => .bind _ fun data => ?_
  exact .ok (h.withPosts (by rw [rowsFor_newRow, rowsFor_newRow, h.posts])) _

theorem updatePost (id : Text) (now : Instant) (c : PostChanges) :
    Matched (s.updatePost id now c) (t.updatePost id now c) := by
  rw [Store.updatePost, Store.updatePost, h.need, h.post?]
  split
  · exact .bind _ fun _ => .ok h _
  · refine .bind _ fun _ => .bind _ fun type => .bind _ fun body => .bind _ fun title =>
      .bind _ fun author => .bind _ fun key => ?_
    rw [h.findPost]
    split
    · exact .ok h _
    · refine .ok (h.withPosts ?_) _
      rw [rowsFor_revised, rowsFor_revised, h.posts]

theorem deletePost (id : Text) (now : Instant) :
    Matched (s.deletePost id now) (t.deletePost id now) := by
  rw [Store.deletePost, Store.deletePost, h.need]
  refine .bind _ fun _ => .bind _ fun key => ?_
  rw [h.findPost]
  split
  · exact .ok h _
  · exact .ok (h.withPosts (by rw [rowsFor_softDeleted, rowsFor_softDeleted, h.posts])) _

/-- A digest that no deleted key has is taken in both or in neither. -/
theorem digestTaken {digest : String}
    (hs : ∀ k ∈ s.keys, k.isLive = false → k.data.digest ≠ some digest)
    (ht : ∀ k ∈ t.keys, k.isLive = false → k.data.digest ≠ some digest) :
    s.digestTaken (some digest) = t.digestTaken (some digest) := by
  have hlive : ∀ {keys : List (Row KeyData)},
      (∀ k ∈ keys, k.isLive = false → k.data.digest ≠ some digest) →
      (keys.any fun k => k.data.digest == some digest)
        = (rowsFor keys false).any fun k => k.data.digest == some digest := by
    intro keys hkeys
    rw [Bool.eq_iff_iff, List.any_eq_true, List.any_eq_true]
    constructor
    · rintro ⟨k, hk, hdigest⟩
      have hseen : k.isLive = true := by
        rw [← Bool.not_eq_false]
        exact fun hgone => hkeys k hk hgone (beq_iff_eq.1 hdigest)
      exact ⟨k, mem_rowsFor_live.2 ⟨hk, hseen⟩, hdigest⟩
    · rintro ⟨k, hk, hdigest⟩
      exact ⟨k, (mem_rowsFor_live.1 hk).1, hdigest⟩
  rw [Store.digestTaken, Store.digestTaken, hlive hs, hlive ht, h.keys]

theorem createKey {id digest : String} (hs : ∀ r ∈ s.keys, r.id ≠ id)
    (ht : ∀ r ∈ t.keys, r.id ≠ id)
    (hsd : ∀ k ∈ s.keys, k.isLive = false → k.data.digest ≠ some digest)
    (htd : ∀ k ∈ t.keys, k.isLive = false → k.data.digest ≠ some digest) (now : Instant)
    (owner : Option Text) (expires : Option Int) :
    Matched (s.createKey id now ⟨some (Text.ofString digest), owner, expires⟩)
      (t.createKey id now ⟨some (Text.ofString digest), owner, expires⟩) := by
  rw [Store.createKey, Store.createKey, h.need, any_id hs, any_id ht]
  refine .bind _ fun _ => ?_
  cases hdata : bindKey ⟨some (Text.ofString digest), owner, expires⟩ with
  | error f => exact .error f
  | ok data =>
    have hdigest : data.digest = some digest :=
      (Except.ok.inj ((bindOption_ofString digest).symm.trans (bindKey_eq_ok hdata).1)).symm
    have htaken := h.digestTaken hsd htd
    rw [← hdigest] at htaken
    have halike : Alike { s with keys := s.keys ++ [.newRow id data now] }
        { t with keys := t.keys ++ [.newRow id data now] } :=
      h.withKeys (by rw [rowsFor_newRow, rowsFor_newRow, h.keys])
    change Matched (if (false || s.digestTaken data.digest) = true then _ else _)
      (if (false || t.digestTaken data.digest) = true then _ else _)
    rw [htaken]
    split
    · exact .error _
    · exact .ok halike _

theorem deleteKey (id : Text) (now : Instant) :
    Matched (s.deleteKey id now) (t.deleteKey id now) := by
  rw [Store.deleteKey, Store.deleteKey, h.need]
  refine .bind _ fun _ => .bind _ fun key => ?_
  rw [h.findKey]
  split
  · exact .ok h _
  · exact .ok (h.withKeys (by rw [rowsFor_softDeleted, rowsFor_softDeleted, h.keys])) _

end Alike

end Store

end Pressroom
