import Pressroom.Proofs.Store.Sound

/-!
What a sound store answers when it is asked for one row: never a fault, and the row that is there if
there is one. An address belongs to one live user at most, and a digest to one key.
-/
namespace Pressroom

namespace Store

variable {s : Store}

/-- The live user with this id has an address, as the schema tells addresses apart: up to the case of
ASCII letters, and by its size alone behind U+0000. -/
def Holds (s : Store) (id address : String) : Prop :=
  ∃ r ∈ s.users, r.id = id ∧ r.isLive = true ∧ noCaseSame r.data.email address = true

instance (s : Store) (id address : String) : Decidable (s.Holds id address) :=
  inferInstanceAs (Decidable (∃ r ∈ s.users, _))

/-- One address is not held by two users. -/
theorem Sound.holder_unique (hs : s.Sound) {a b address : String} (ha : s.Holds a address)
    (hb : s.Holds b address) : a = b := by
  obtain ⟨x, hx, rfl, hlx, hsx⟩ := ha
  obtain ⟨y, hy, rfl, hly, hsy⟩ := hb
  rw [hs.emails x hx y hy hlx hly (noCaseSame_trans hsx (noCaseSame_symm hsy))]

theorem bindOption_ofString (t : String) : bindOption (some (Text.ofString t)) = .ok (some t) := by
  rw [bindOption, bind_ofString]; rfl

theorem mem_rowsFor_live {α : Type} {rows : List (Row α)} {r : Row α} :
    r ∈ rowsFor rows false ↔ r ∈ rows ∧ r.isLive = true := by
  simp [rowsFor]

theorem mem_of_rowsFor {α : Type} {rows : List (Row α)} {deletedToo : Bool} {r : Row α}
    (h : r ∈ rowsFor rows deletedToo) : r ∈ rows := (List.mem_filter.1 h).1

theorem mem_newestFirst {α : Type} {rows : List (Row α)} {r : Row α} :
    r ∈ newestFirst rows ↔ r ∈ rows := List.mem_mergeSort

theorem mem_oldestFirst {α : Type} {rows : List (Row α)} {r : Row α} :
    r ∈ oldestFirst rows ↔ r ∈ rows := List.mem_mergeSort

/-! ### Reading rows of a table -/

section Table

variable {α : Type} {rows found : List (Row α)}

/-- Rows of a table are read, whichever they are and in whatever order. -/
theorem Table.readRows (h : Table rows) (hfound : ∀ r ∈ found, r ∈ rows) :
    readRows found = .ok (found.map Entry.item) :=
  readRows_timed fun r hr => h.times r (hfound r hr)

/-- So is the row that an id finds. -/
theorem Table.readFound (h : Table rows) (deletedToo : Bool) (id : String) :
    readRow? (findRow? rows deletedToo id)
      = .ok ((findRow? rows deletedToo id).map Entry.item) := by
  cases hfound : findRow? rows deletedToo id with
  | none => rfl
  | some r =>
    rw [readRow?_timed (h.times r (findRow?_eq_some hfound).1)]
    rfl

end Table

/-! ### What is read is stored -/

/-- The user is a live one of the store, just as the store has it. -/
def HasUser (s : Store) (user : User) : Prop :=
  ∃ row ∈ s.users, row.isLive = true ∧ user.id = row.id ∧ user.data = row.data

theorem user?_hasUser {id : Text} {user : User} (h : s.user? id false = .ok (some user)) :
    s.HasUser user := by
  obtain ⟨-, -, h⟩ := bind_eq_ok.1 h
  obtain ⟨key, -, h⟩ := bind_eq_ok.1 h
  obtain ⟨row, hrow, hid, hdata⟩ := readRow?_eq_some h
  obtain ⟨hmem, -, hlive⟩ := findRow?_live hrow
  exact ⟨row, hmem, hlive, hid, hdata⟩

theorem userByEmail?_hasUser {email : Text} {user : User}
    (h : s.userByEmail? email false = .ok (some user)) : s.HasUser user := by
  obtain ⟨-, -, h⟩ := bind_eq_ok.1 h
  obtain ⟨address, -, h⟩ := bind_eq_ok.1 h
  obtain ⟨row, hrow, hid, hdata⟩ := readRow?_eq_some h
  have hmem := List.mem_of_head? hrow
  rw [mem_newestFirst, List.mem_filter, mem_rowsFor_live] at hmem
  exact ⟨row, hmem.1.1, hmem.1.2, hid, hdata⟩

/-- A user of the store who holds an address has it. -/
theorem Sound.email_of_holds (hs : s.Sound) {user : User} (huser : s.HasUser user)
    {address : String} (h : s.Holds user.id address) :
    noCaseSame user.data.email address = true := by
  obtain ⟨row, hrow, -, hid, hdata⟩ := huser
  obtain ⟨holder, hholder, hid', -, hsame⟩ := h
  rw [hdata, row_unique hs.users.ids hrow hholder (hid.symm.trans hid'.symm)]
  exact hsame

/-! ### What is stored is read -/

/-- The table of users is there, and its live rows can be read. -/
structure Intact (s : Store) : Prop where
  users : s.need "users" = .ok ()
  read : ∀ r ∈ s.users, r.isLive = true → ∃ user : User, r.read = .ok user

theorem Sound.intact (hs : s.Sound) : s.Intact where
  users := hs.ready.need.1
  read r hr _ := ⟨r.item, (hs.users.times r hr).read⟩

/-- Asked for the live user with an address, an intact store gives one who holds it. -/
theorem Intact.userByEmail? (hs : s.Intact) {email : Text} {address : String}
    (hemail : Store.bind email = .ok address) :
    s.userByEmail? email false = .ok none ∧ (∀ id, ¬ s.Holds id address) ∨
      ∃ user, s.userByEmail? email false = .ok (some user) ∧ s.Holds user.id address := by
  have hask : s.userByEmail? email false = readRow? (newestFirst
      ((rowsFor s.users false).filter fun r => noCaseSame r.data.email address)).head? := by
    rw [Store.userByEmail?, hs.users, hemail]; rfl
  rw [hask]
  have hmem : ∀ r, r ∈ newestFirst ((rowsFor s.users false).filter
      fun r => noCaseSame r.data.email address) ↔
      (r ∈ s.users ∧ r.isLive = true) ∧ noCaseSame r.data.email address = true := by
    intro r
    rw [mem_newestFirst, List.mem_filter, mem_rowsFor_live]
  cases hfound : newestFirst ((rowsFor s.users false).filter
      fun r => noCaseSame r.data.email address) with
  | nil =>
    left
    refine ⟨rfl, ?_⟩
    rintro id ⟨r, hr, -, hlive, hsame⟩
    have hin := (hmem r).2 ⟨⟨hr, hlive⟩, hsame⟩
    rw [hfound] at hin
    cases hin
  | cons r rest =>
    right
    obtain ⟨⟨hr, hlive⟩, hsame⟩ := (hmem r).1 (by rw [hfound]; exact List.mem_cons_self)
    obtain ⟨user, hread⟩ := hs.read r hr hlive
    exact ⟨user, by rw [List.head?_cons, readRow?, hread]; rfl,
      r, hr, (Entry.read_eq_ok hread).1.symm, hlive, hsame⟩

/-- So does a sound one. -/
theorem Sound.userByEmail? (hs : s.Sound) (address : String) :
    s.userByEmail? (Text.ofString address) false = .ok none ∧ (∀ id, ¬ s.Holds id address) ∨
      ∃ user, s.userByEmail? (Text.ofString address) false = .ok (some user) ∧
        s.Holds user.id address :=
  hs.intact.userByEmail? (bind_ofString address)

/-- Asked for the live key with a digest, a sound store gives the one that has it. -/
theorem Sound.keyByDigest? (hs : s.Sound) (digest : String) :
    s.keyByDigest? (some (Text.ofString digest)) = .ok none ∧
        (∀ r ∈ s.keys, r.isLive = true → r.data.digest ≠ some digest) ∨
      ∃ key, s.keyByDigest? (some (Text.ofString digest)) = .ok (some key) ∧
        ∃ r ∈ s.keys, r.isLive = true ∧ r.data.digest = some digest ∧
          key.id = r.id ∧ key.data = r.data := by
  have hask : s.keyByDigest? (some (Text.ofString digest)) = readRow? ((rowsFor s.keys false).find?
      fun r => (some digest).isSome && r.data.digest == some digest) := by
    rw [Store.keyByDigest?, hs.ready.need.2.2, bindOption_ofString]; rfl
  rw [hask]
  cases hfound : (rowsFor s.keys false).find?
      fun r => (some digest).isSome && r.data.digest == some digest with
  | none =>
    left
    refine ⟨rfl, fun r hr hlive hdigest => ?_⟩
    have hno := List.find?_eq_none.1 hfound r (mem_rowsFor_live.2 ⟨hr, hlive⟩)
    exact hno (by simp [hdigest])
  | some r =>
    right
    obtain ⟨hr, hlive⟩ := mem_rowsFor_live.1 (List.mem_of_find?_eq_some hfound)
    have hdigest : r.data.digest = some digest := by simpa using List.find?_some hfound
    exact ⟨r.item, readRow?_timed (hs.keys.times r hr), r, hr, hlive, hdigest, rfl, rfl⟩

/-- A sound store can always list its users, and its posts. -/
theorem Sound.listUsers (hs : s.Sound) (deletedToo : Bool) : s.listUsers deletedToo
    = .ok ((oldestFirst (rowsFor s.users deletedToo)).map Entry.item) := by
  rw [Store.listUsers, hs.ready.need.1]
  exact hs.users.readRows fun r hr => mem_of_rowsFor (mem_oldestFirst.1 hr)

theorem Sound.listPosts (hs : s.Sound) (deletedToo : Bool) :
    s.listPosts ⟨none, none, deletedToo⟩
      = .ok ((newestFirst (rowsFor s.posts deletedToo)).map Entry.item) := by
  have hlist : s.listPosts ⟨none, none, deletedToo⟩ = Store.readRows (newestFirst
      ((rowsFor s.posts deletedToo).filter fun _ => true)) := by
    rw [Store.listPosts, hs.ready.need.2.1]; rfl
  rw [hlist, List.filter_true]
  exact hs.posts.readRows fun r hr => mem_of_rowsFor (mem_newestFirst.1 hr)

/-- The live post with an id. -/
theorem Sound.post? (hs : s.Sound) (id : String) :
    s.post? (Text.ofString id) false = .ok ((findRow? s.posts false id).map Entry.item) := by
  rw [Store.post?, hs.ready.need.2.1, ok_bind, bind_ofString, ok_bind]
  exact hs.posts.readFound false id

end Store

end Pressroom
