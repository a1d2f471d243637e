import Pressroom.Proofs.Service.Issued
import Pressroom.Proofs.Store.Answer

/-!
What is created is what is read afterwards. The three tables bind the parts of a row one by one and read
its columns back, each in its own way; `Sound.create_eq` says for all of them that the row which comes to
the end of the table holds the data that the parts stand for, unless the table has something that the row
may not share. From there on the kind of the row makes no difference: its id is new, so it is found under
this id and listed once, and no other row was touched.
-/
namespace Pressroom

namespace RecordKind

/-- What a row of each kind is created from. -/
abbrev Parts : RecordKind → Type
  | .apiKey => KeyParts
  | .post => PostParts
  | .user => NewUser

/-- The parts of a row with this data: a part that is missing stays apart from an empty one. -/
def parts : (k : RecordKind) → k.Data → k.Parts
  | .apiKey, d => ⟨d.digest.map Text.ofString, d.owner.map Text.ofString, d.expires⟩
  | .post, d =>
    ⟨d.type.map Text.ofString, d.body.map Text.ofString, d.title.map Text.ofString,
      d.author.map Text.ofString⟩
  | .user, d =>
    ⟨some (Text.ofString d.fullname), some (Text.ofString d.email), some (Text.ofString d.password),
      some d.permissions⟩

/-- The number among the data, if there is one, fits into sixty-four bits with a sign. -/
def Bounded : (k : RecordKind) → k.Data → Prop
  | .apiKey, d => ∀ n ∈ d.expires, -0x8000000000000000 ≤ n ∧ n < 0x8000000000000000
  | .post, _ => True
  | .user, d => -0x8000000000000000 ≤ d.permissions ∧ d.permissions < 0x8000000000000000

end RecordKind

namespace Store

/-! ### The tables -/

/-- The data that parts stand for, on their way into the store. -/
def bindParts : (k : RecordKind) → k.Parts → StoreResult k.Data
  | .apiKey, n => bindKey n
  | .post, n => bindPost n
  | .user, n => bindUser n

/-- Adds a row of a kind. -/
def create (s : Store) (id : String) (now : Instant) :
    (k : RecordKind) → k.Parts → StoreResult (Store × Item k.Data)
  | .apiKey, n => s.createKey id now n
  | .post, n => s.createPost id now n
  | .user, n => s.createUser id now n

/-- The row of a kind with an id, as it is read. -/
def get? (s : Store) : (k : RecordKind) → Text → Bool → StoreResult (Option (Item k.Data))
  | .apiKey, id, deletedToo => s.key? id deletedToo
  | .post, id, deletedToo => s.post? id deletedToo
  | .user, id, deletedToo => s.user? id deletedToo

/-- The list of a kind. -/
def list (s : Store) : (k : RecordKind) → Bool → StoreResult (List (Item k.Data))
  | .apiKey, deletedToo => s.listKeys deletedToo
  | .post, deletedToo => s.listPosts ⟨none, none, deletedToo⟩
  | .user, deletedToo => s.listUsers deletedToo

/-- Somebody has what the new row may not share: the digest of a key, in any ASCII case the address of a
user, and nothing of a post. -/
def Taken (s : Store) : (k : RecordKind) → k.Data → Prop
  | .apiKey, d => ∃ r ∈ s.keys, r.data.digest.isSome = true ∧ r.data.digest = d.digest
  | .post, _ => False
  | .user, d => ∃ r ∈ s.users, r.isLive = true ∧ noCaseSame r.data.email d.email = true

/-- Whether the table refuses the data for that. -/
def refuses (s : Store) (id : String) : (k : RecordKind) → k.Data → Bool
  | .apiKey, d => s.digestTaken d.digest
  | .post, _ => false
  | .user, d => s.emailClash id d.email

variable {s : Store} {id : String} {now : Instant} {k : RecordKind}

/-- Nothing is changed on the way into the store. -/
theorem bindParts_eq_ok {n : k.Parts} {d : k.Data} (h : bindParts k n = .ok d) :
    n = k.parts d := by
  cases k with
  | apiKey =>
    obtain ⟨hdigest, howner, hexpires⟩ := bindKey_eq_ok h
    obtain ⟨digest, owner, expires⟩ := n
    rw [RecordKind.parts, bindOption_eq_ok hdigest, bindOption_eq_ok howner,
      bindWholeOption_eq_ok hexpires]
  | post =>
    obtain ⟨htype, hbody, htitle, hauthor⟩ := bindPost_eq_ok h
    rw [RecordKind.parts, htype, hbody, htitle, hauthor]
  | user =>
    obtain ⟨hname, hemail, hpassword, hpermissions⟩ := bindUser_eq_ok h
    rw [RecordKind.parts, ← hname, ← hemail, ← hpassword, ← hpermissions]

/-- The parts of data with a number that fits get into the store. -/
theorem bindParts_parts {d : k.Data} (h : k.Bounded d) : bindParts k (k.parts d) = .ok d := by
  cases k with
  | apiKey =>
    rw [bindParts, RecordKind.parts, bindKey, bindOption_strings, ok_bind, bindOption_strings,
      ok_bind, bindWholeOption_fits h, ok_bind]
    rfl
  | post =>
    rw [bindParts, RecordKind.parts, bindPost, bindOption_strings, ok_bind, bindOption_strings,
      ok_bind, bindOption_strings, ok_bind, bindOption_strings, ok_bind]
    rfl
  | user =>
    rw [bindParts, RecordKind.parts, bindUser, bindOption_ofString, ok_bind, bindOption_ofString,
      ok_bind, bindOption_ofString, ok_bind,
      bindWholeOption_fits fun n hn => Option.some.inj hn ▸ h, ok_bind]

theorem Sound.taken_of_refuses (hs : s.Sound) {d : k.Data} (h : s.refuses id k d = true) :
    s.Taken k d := by
  cases k with
  | apiKey =>
    have htaken : s.digestTaken d.digest = true := h
    rw [digestTaken.eq_def] at htaken
    split at htaken
    · cases htaken
    · rename_i digest hdigest
      obtain ⟨r, hr, hsame⟩ := List.any_eq_true.1 htaken
      have hsame : r.data.digest = some digest := by simpa using hsame
      exact ⟨r, hr, by rw [hsame]; rfl, hsame.trans hdigest.symm⟩
  | post => cases h
  | user => exact hs.clash h

/-- A new row comes to the end of its table with the data that its parts stand for. It is refused for
parts that do not get into the store, and for what it may not share. -/
theorem Sound.create_eq (hs : s.Sound) (hfresh : ∀ r ∈ s.rows k, r.id ≠ id) (n : k.Parts) :
    s.create id now k n = (bindParts k n).bind fun d =>
      if s.refuses id k d then .error .conflict
      else .ok (s.withRows k (s.rows k ++ [.newRow id d now]), .newItem id d now) := by
  obtain ⟨husers, hposts, hkeys⟩ := hs.ready.need
  cases k with
  | apiKey =>
    have hnew := any_id (show ∀ r ∈ s.keys, r.id ≠ id from hfresh)
    rw [create, Store.createKey, hkeys, ok_bind, hnew]
    rfl
  | post =>
    have hnew := any_id (show ∀ r ∈ s.posts, r.id ≠ id from hfresh)
    rw [create, Store.createPost, hposts, ok_bind, hnew]
    rfl
  | user =>
    have hnew := any_id (show ∀ r ∈ s.users, r.id ≠ id from hfresh)
    rw [create, Store.createUser, husers, ok_bind, hnew]
    rfl

/-- Asked for an id, a sound store gives the row that has it. -/
theorem Sound.get? (hs : s.Sound) (k : RecordKind) (id : String) (deletedToo : Bool) :
    s.get? k (Text.ofString id) deletedToo
      = .ok ((findRow? (s.rows k) deletedToo id).map Entry.item) := by
  rw [← (hs.table k).readFound deletedToo id]
  obtain ⟨husers, hposts, hkeys⟩ := hs.ready.need
  cases k with
  | apiKey => rw [Store.get?, Store.key?, hkeys, ok_bind, bind_ofString, ok_bind]; rfl
  | post => rw [Store.get?, Store.post?, hposts, ok_bind, bind_ofString, ok_bind]; rfl
  | user => rw [Store.get?, Store.user?, husers, ok_bind, bind_ofString, ok_bind]; rfl

/-- The list of a kind shows the live rows or all of them, in some order. -/
theorem Sound.list (hs : s.Sound) (k : RecordKind) (deletedToo : Bool) :
    ∃ shown : List (Row k.Data), s.list k deletedToo = .ok (shown.map Entry.item) ∧
      shown.Perm (rowsFor (s.rows k) deletedToo) := by
  cases k with
  | apiKey => exact ⟨_, hs.listKeys deletedToo, List.mergeSort_perm ..⟩
  | post => exact ⟨_, hs.listPosts deletedToo, List.mergeSort_perm ..⟩
  | user => exact ⟨_, hs.listUsers deletedToo, List.mergeSort_perm ..⟩

end Store

namespace Service

open Store

variable {s t : Service} {now : Instant} {k : RecordKind}

/-! ### Adding a row -/

/-- Adds a row of a kind under the next id. -/
def add (s : Service) (now : Instant) :
    (k : RecordKind) → k.Parts → Service × StoreResult (Item k.Data)
  | .apiKey, n => s.addKey now n
  | .post, n => s.addPost now n
  | .user, n => s.addUser now n

theorem add_adds (now : Instant) (n : k.Parts) : s.Adds now (s.add now k n) := by
  cases k with
  | apiKey => exact addKey_adds n
  | post => exact addPost_adds n
  | user => exact addUser_adds n

theorem add_eq (n : k.Parts) :
    s.add now k n = match s.store.create s.fresh.nextId now k n with
      | .error f => ({ s with fresh := s.fresh.usedId }, .error f)
      | .ok (store, item) => ({ s with fresh := s.fresh.usedId, store }, .ok item) := by
  cases k with
  | apiKey => rw [add, addKey, create]; cases s.store.createKey s.fresh.nextId now n <;> rfl
  | post => rw [add, addPost, create]; cases s.store.createPost s.fresh.nextId now n <;> rfl
  | user => rw [add, addUser, create]; cases s.store.createUser s.fresh.nextId now n <;> rfl

/-- The id that comes next is none of those of a kind. -/
theorem Issued.rows_ne (h : s.Issued) (k : RecordKind) :
    ∀ r ∈ s.store.rows k, r.id ≠ s.fresh.nextId := by
  cases k with
  | apiKey => exact keys_ne h.nextId
  | post => exact posts_ne h.nextId
  | user => exact users_ne h.nextId

/-- A row is added with the data that its parts stand for, or the store is left alone. Parts that get
into the store are refused only if somebody has what the row may not share. -/
theorem add_cases (hs : s.store.Sound) (hissued : s.Issued) (now : Instant) (n : k.Parts) :
    (∃ d, n = k.parts d ∧ s.add now k n = ({ s with
        fresh := s.fresh.usedId
        store := s.store.withRows k (s.store.rows k ++ [.newRow s.fresh.nextId d now]) },
      .ok (.newItem s.fresh.nextId d now))) ∨
    ∃ f, s.add now k n = ({ s with fresh := s.fresh.usedId }, .error f) ∧
      ∀ d, n = k.parts d → k.Bounded d → f = .conflict ∧ s.store.Taken k d := by
  rw [add_eq, hs.create_eq (hissued.rows_ne k)]
  cases hbind : bindParts k n with
  | error f =>
    refine .inr ⟨f, rfl, ?_⟩
    rintro d rfl hbounded
    rw [bindParts_parts hbounded] at hbind
    cases hbind
  | ok d =>
    dsimp only [Except.bind]
    by_cases hrefuses : s.store.refuses s.fresh.nextId k d = true
    · rw [if_pos hrefuses]
      refine .inr ⟨.conflict, rfl, ?_⟩
      rintro d' rfl hbounded
      rw [bindParts_parts hbounded] at hbind
      cases hbind
      exact ⟨rfl, hs.taken_of_refuses hrefuses⟩
    · rw [if_neg hrefuses]
      exact .inl ⟨d, bindParts_eq_ok hbind, rfl⟩

/-! ### Reading it back -/

/-- What it means that an item was created in a store and is there in the store afterwards. -/
structure Created (s t : Store) (now : Instant) (k : RecordKind) (n : k.Parts)
    (item : Item k.Data) : Prop where
  /-- It has the parts it was created from, -/
  parts : n = k.parts item.data
  /-- was created at this instant and is not deleted; -/
  times : item.created = some (.ofInstant now) ∧ item.updated = some (.ofInstant now) ∧
    item.deleted = none
  /-- its id finds it as it is, -/
  found : ∀ deletedToo, t.get? k (Text.ofString item.id) deletedToo = .ok (some item)
  /-- and it is the only one with its id on the list; -/
  listed : ∀ deletedToo, ∃ items, t.list k deletedToo = .ok items ∧
    items.filter (fun i => i.id == item.id) = [item]
  /-- the rest of the store is what it was. -/
  others : ∃ row, row.id = item.id ∧ t = s.withRows k (s.rows k ++ [row])

/-- A list that a new row was added to has one item with its id. -/
theorem filter_added {α : Type} {rows shown : List (Row α)} {deletedToo : Bool} {id : String}
    {data : α} (hnow : InEra now) (hfresh : ∀ r ∈ rows, r.id ≠ id)
    (hperm : shown.Perm (rowsFor (rows ++ [.newRow id data now]) deletedToo)) :
    (shown.map Entry.item).filter (fun i => i.id == id) = [.newItem id data now] := by
  have hitems := (hperm.map Entry.item).filter fun i => i.id == id
  have hold : ((rowsFor rows deletedToo).map Entry.item).filter (fun i => i.id == id) = [] := by
    rw [List.filter_eq_nil_iff]
    intro i hi
    obtain ⟨r, hr, rfl⟩ := List.mem_map.1 hi
    exact fun hid => hfresh r (mem_of_rowsFor hr) (beq_iff_eq.1 hid)
  have hnew : [(Entry.newItem id data now)].filter (fun i => i.id == id)
      = [.newItem id data now] := List.filter_eq_self.2 (by simp [Entry.newItem])
  rw [rowsFor_newRow, List.map_append, List.filter_append, hold, List.nil_append,
    List.map_singleton, Entry.item_newRow hnow, hnew] at hitems
  exact List.perm_singleton.1 hitems

/-- In every state that a service gets into, what is created is there afterwards: found by its id, once
on the list, with the parts it was created from, and beside rows that did not change. A creation that
fails changes nothing; if its texts have no lone half and its number fits, it fails because somebody has
the digest of the key or the address of the user. -/
theorem created_read_back {policy : Policy} {settings : Settings} {platform : String}
    {begin : Instant} {first : Service} (hbegin : InEra begin)
    (hstart : start policy settings platform begin = .ok first) (hreach : first.Reaches s)
    (hnow : InEra now) (k : RecordKind) (n : k.Parts) :
    (∀ t item, s.add now k n = (t, .ok item) → Created s.store t.store now k n item) ∧
      ∀ t f, s.add now k n = (t, .error f) → t.store = s.store ∧
        ∀ d, n = k.parts d → k.Bounded d → f = .conflict ∧ s.store.Taken k d := by
  have hs := (hreach.sound (start_sound hbegin hstart)).store
  have hissued := hreach.issued (start_issued hstart)
  have hfresh := hissued.rows_ne k
  have hadds := s.add_adds now n
  rcases add_cases hs hissued now n with ⟨d, rfl, hadd⟩ | ⟨f, hadd, hfault⟩
  · rw [hadd] at hadds ⊢
    refine ⟨?_, by rintro t f ⟨⟩⟩
    rintro t item ⟨⟩
    have ht := Write.sound hnow hadds hs
    refine ⟨rfl, ⟨rfl, rfl, rfl⟩, fun deletedToo => ?_, fun deletedToo => ?_, _, rfl, rfl⟩
    · have hrow : findRow? (s.store.rows k ++ [.newRow s.fresh.nextId d now]) deletedToo
          s.fresh.nextId = some (.newRow s.fresh.nextId d now) := findRow?_append hfresh rfl deletedToo
      have hget := ht.get? k s.fresh.nextId deletedToo
      rw [rows_withRows, hrow, Option.map_some, Entry.item_newRow hnow] at hget
      exact hget
    · obtain ⟨shown, hlist, hperm⟩ := ht.list k deletedToo
      rw [rows_withRows] at hperm
      exact ⟨_, hlist, filter_added hnow hfresh hperm⟩
  · rw [hadd]
    refine ⟨by rintro t item ⟨⟩, ?_⟩
    rintro t f ⟨⟩
    exact ⟨rfl, hfault⟩

/-- A user with empty parts, a zero in the address and a negative mask. -/
def strangeUser : UserData := ⟨"", "\x00", "", -1⟩

/-- Even such a user is kept as it was given, and cannot be added a second time. -/
theorem created_read_back_strange_user :
    ∃ first t u item f, start (.ofProfile .testing .standard) .standard "" 0 = .ok first ∧
      first.add 1 .user (RecordKind.user.parts strangeUser) = (t, .ok item) ∧
      t.add 2 .user (RecordKind.user.parts strangeUser) = (u, .error f) ∧
      t.store.get? .user (Text.ofString item.id) false = .ok (some item) ∧
      u.store = t.store ∧ f = .conflict := by
  obtain ⟨first, hstart, hadded, hrefused⟩ :
      ∃ first, start (.ofProfile .testing .standard) .standard "" 0 = .ok first ∧
        (first.add 1 .user (RecordKind.user.parts strangeUser)).2.isOk = true ∧
        ((first.add 1 .user (RecordKind.user.parts strangeUser)).1.add 2 .user
          (RecordKind.user.parts strangeUser)).2.isOk = false :=
    ⟨_, rfl, by decide +kernel, by decide +kernel⟩
  have hone : InEra 1 := by rw [InEra]; decide
  have htwo : InEra 2 := by rw [InEra]; decide
  obtain ⟨hcreated, -⟩ := created_read_back inEra_zero hstart .refl hone .user
    (RecordKind.user.parts strangeUser)
  have hstep : first.Reaches (first.add 1 .user (RecordKind.user.parts strangeUser)).1 :=
    .single (.call 1 (.createUser (RecordKind.user.parts strangeUser)) hone rfl)
  obtain ⟨-, hfailed⟩ := created_read_back inEra_zero hstart hstep htwo .user
    (RecordKind.user.parts strangeUser)
  cases hadd : first.add 1 .user (RecordKind.user.parts strangeUser) with
  | mk t made =>
    rw [hadd] at hadded hrefused hfailed
    cases made with
    | error f => cases hadded
    | ok item =>
      dsimp only at hrefused hfailed
      cases hagain : t.add 2 .user (RecordKind.user.parts strangeUser) with
      | mk u answer =>
        rw [hagain] at hrefused
        cases answer with
        | ok other => cases hrefused
        | error f =>
          obtain ⟨hsame, hfault⟩ := hfailed u f hagain
          have hbounded : RecordKind.user.Bounded strangeUser := by
            rw [RecordKind.Bounded]; decide
          exact ⟨first, t, u, item, f, hstart, hadd, hagain, (hcreated t item hadd).found false,
            hsame, (hfault strangeUser rfl hbounded).1⟩

end Service

end Pressroom
