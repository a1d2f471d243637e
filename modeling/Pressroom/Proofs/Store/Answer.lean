import Pressroom.Proofs.Store.Lifecycle
import Pressroom.Proofs.Store.Lookup

/-!
What a sound store never refuses. Its tables are there and its rows can be read, so it fails only for
what it is given: a text with a lone half, a number that does not fit, an id or a digest that is taken
already, or an address that somebody else has. Where the texts are whole and the ids are new, posts and
keys are stored and listed without a fault, and the change of a user ends in a conflict at worst.
-/
namespace Pressroom

namespace Store

variable {s : Store} {id : String} {now : Instant}

/-! ### Texts on their way -/

theorem bind_of_unbroken {t : Text} (h : t.Unbroken) : ∃ string, bind t = .ok string := by
  obtain ⟨string, rfl⟩ := h.string
  exact ⟨string, bind_ofString string⟩

theorem bindOption_of_unbroken {t : Option Text} (h : ∀ x ∈ t, x.Unbroken) :
    ∃ string, bindOption t = .ok string := by
  cases t with
  | none => exact ⟨none, rfl⟩
  | some t =>
    obtain ⟨string, hstring⟩ := bind_of_unbroken (h t rfl)
    exact ⟨some string, by rw [bindOption, hstring]; rfl⟩

theorem bindOption_strings (t : Option String) : bindOption (t.map Text.ofString) = .ok t := by
  cases t with
  | none => rfl
  | some t => exact bindOption_ofString t

/-- A change of a part gets into the store as well. -/
theorem bindPart_of_unbroken {c : Option (Option Text)} (h : ∀ t, c = some (some t) → t.Unbroken) :
    ∃ part, bindPart c = .ok part := by
  cases c with
  | none => exact ⟨none, rfl⟩
  | some t =>
    obtain ⟨string, hstring⟩ := bindOption_of_unbroken (t := t) fun x hx => h x (congrArg some hx)
    exact ⟨some string, by rw [bindPart, hstring]; rfl⟩

/-- So does one of a part that cannot be taken away. -/
theorem bindChange_of_unbroken {c : Option (Option Text)}
    (h : ∀ t, c = some (some t) → t.Unbroken) : ∃ part, bindChange c = .ok part := by
  have hsame : bindChange c = bindPart c := by cases c <;> rfl
  rw [hsame]
  exact bindPart_of_unbroken h

/-! ### Posts -/

end Store

/-- No part has a lone half. -/
structure PostParts.Unbroken (n : PostParts) : Prop where
  type : ∀ t ∈ n.type, t.Unbroken
  body : ∀ t ∈ n.body, t.Unbroken
  title : ∀ t ∈ n.title, t.Unbroken
  author : ∀ t ∈ n.author, t.Unbroken

/-- No changed part has a lone half. -/
structure PostChanges.Unbroken (c : PostChanges) : Prop where
  type : ∀ t, c.type = some (some t) → t.Unbroken
  body : ∀ t, c.body = some (some t) → t.Unbroken
  title : ∀ t, c.title = some (some t) → t.Unbroken
  author : ∀ t, c.author = some (some t) → t.Unbroken

namespace Store

variable {s : Store} {id : String} {now : Instant}

/-- A post is stored under a new id. -/
theorem Sound.createPost (hs : s.Sound) {n : PostParts} (h : n.Unbroken)
    (hfresh : ∀ r ∈ s.posts, r.id ≠ id) (now : Instant) :
    ∃ made, s.createPost id now n = .ok made := by
  obtain ⟨type, htype⟩ := bindOption_of_unbroken h.type
  obtain ⟨body, hbody⟩ := bindOption_of_unbroken h.body
  obtain ⟨title, htitle⟩ := bindOption_of_unbroken h.title
  obtain ⟨author, hauthor⟩ := bindOption_of_unbroken h.author
  have hdata : bindPost n = .ok ⟨type, body, title, author⟩ := by
    rw [bindPost, htype, ok_bind, hbody, ok_bind, htitle, ok_bind, hauthor, ok_bind]
    rfl
  have hnew : ¬ (s.posts.any fun r => r.id == id) = true := by simpa using hfresh
  rw [Store.createPost, hs.ready.need.2.1, ok_bind, hdata, ok_bind, if_neg hnew]
  exact ⟨_, rfl⟩

/-- A change of a post is made, or there is no live post to change. -/
theorem Sound.updatePost (hs : s.Sound) {c : PostChanges} (h : c.Unbroken) (id : String)
    (now : Instant) : ∃ made, s.updatePost (Text.ofString id) now c = .ok made := by
  obtain ⟨type, htype⟩ := bindPart_of_unbroken h.type
  obtain ⟨body, hbody⟩ := bindPart_of_unbroken h.body
  obtain ⟨title, htitle⟩ := bindPart_of_unbroken h.title
  obtain ⟨author, hauthor⟩ := bindPart_of_unbroken h.author
  rw [Store.updatePost]
  split
  · rw [hs.post?, ok_bind]
    exact ⟨_, rfl⟩
  · rw [hs.ready.need.2.1, ok_bind, htype, ok_bind, hbody, ok_bind, htitle, ok_bind, hauthor,
      ok_bind, bind_ofString, ok_bind]
    split <;> exact ⟨_, rfl⟩

theorem Sound.listKeys (hs : s.Sound) (deletedToo : Bool) : s.listKeys deletedToo
    = .ok ((newestFirst (rowsFor s.keys deletedToo)).map Entry.item) := by
  rw [Store.listKeys, hs.ready.need.2.2, ok_bind]
  exact hs.keys.readRows fun r hr => mem_of_rowsFor (mem_newestFirst.1 hr)

theorem Sound.listKeysOf (hs : s.Sound) (address : String) :
    ∃ keys, s.listKeysOf (some (Text.ofString address)) = .ok keys := by
  rw [Store.listKeysOf, hs.ready.need.2.2, ok_bind, bindOption_ofString, ok_bind]
  exact ⟨_, hs.keys.readRows fun r hr =>
    mem_of_rowsFor (List.mem_filter.1 (mem_newestFirst.1 hr)).1⟩

/-- A key is stored under a new id and a new digest, if its expiry fits into sixty-four bits. -/
theorem Sound.createKey (hs : s.Sound) {digest : String} {owner : Text} {expires : Option Int}
    (howner : owner.Unbroken)
    (hexpires : ∀ n ∈ expires, -0x8000000000000000 ≤ n ∧ n < 0x8000000000000000)
    (hfresh : ∀ r ∈ s.keys, r.id ≠ id) (hfree : s.digestTaken (some digest) = false)
    (now : Instant) :
    ∃ made, s.createKey id now ⟨some (Text.ofString digest), some owner, expires⟩ = .ok made := by
  obtain ⟨address, rfl⟩ := howner.string
  have hdata : bindKey ⟨some (Text.ofString digest), some (Text.ofString address), expires⟩
      = .ok ⟨some digest, some address, expires⟩ := by
    rw [bindKey, bindOption_ofString, ok_bind, bindOption_ofString, ok_bind, bindWholeOption_fits hexpires, ok_bind]
    rfl
  have hnew : ¬ ((s.keys.any fun r => r.id == id) || s.digestTaken (some digest)) = true := by
    rw [hfree, Bool.or_false]; simpa using hfresh
  rw [Store.createKey, hs.ready.need.2.2, ok_bind, hdata, ok_bind, if_neg hnew]
  exact ⟨_, rfl⟩

/-! ### Users -/

/-- The live user with an id. -/
theorem Sound.user? (hs : s.Sound) (id : String) :
    s.user? (Text.ofString id) false = .ok ((findRow? s.users false id).map Entry.item) := by
  rw [Store.user?, hs.ready.need.1, ok_bind, bind_ofString, ok_bind]
  exact hs.users.readFound false id

end Store

/-- No changed text has a lone half, and the permissions fit into sixty-four bits. -/
structure UserChanges.Storable (c : UserChanges) : Prop where
  fullname : ∀ t, c.fullname = some (some t) → t.Unbroken
  email : ∀ t, c.email = some (some t) → t.Unbroken
  permissions : ∀ n, c.permissions = some (some n) →
    -0x8000000000000000 ≤ n ∧ n < 0x8000000000000000

namespace Store

variable {s : Store} {now : Instant}

/-- A new user is refused for a conflict at worst. -/
theorem Sound.createUser (hs : s.Sound) {fullname email : Text} {hash id : String}
    {permissions : Int} (hname : fullname.Unbroken) (hemail : email.Unbroken)
    (hfits : -0x8000000000000000 ≤ permissions ∧ permissions < 0x8000000000000000) {f : StoreFault}
    (hfault : s.createUser id now
      ⟨some fullname, some email, some (Text.ofString hash), some permissions⟩ = .error f) :
    f = .conflict := by
  obtain ⟨name, rfl⟩ := hname.string
  obtain ⟨address, rfl⟩ := hemail.string
  have hdata : bindUser ⟨some (Text.ofString name), some (Text.ofString address),
      some (Text.ofString hash), some permissions⟩ = .ok ⟨name, address, hash, permissions⟩ := by
    rw [bindUser, bindOption_ofString, ok_bind, bindOption_ofString, ok_bind, bindOption_ofString,
      ok_bind, bindWholeOption_fits fun n hn => Option.some.inj hn ▸ hfits]
    rfl
  rw [Store.createUser, hs.ready.need.1, ok_bind, hdata, ok_bind] at hfault
  split at hfault
  · exact (Except.error.inj hfault).symm
  · cases hfault

/-- The change of a user is refused for a conflict at worst. -/
theorem Sound.updateUser (hs : s.Sound) {c : UserChanges} (h : c.Storable) {id : String}
    {f : StoreFault} (hfault : s.updateUser (Text.ofString id) now c = .error f) :
    f = .conflict := by
  obtain ⟨name, hname⟩ := bindChange_of_unbroken h.fullname
  obtain ⟨email, hemail⟩ := bindChange_of_unbroken h.email
  rw [Store.updateUser] at hfault
  split at hfault
  · rw [hs.user?, ok_bind] at hfault
    cases hfault
  · rw [hs.ready.need.1, ok_bind, hname, ok_bind, hemail, ok_bind] at hfault
    rcases bind_eq_error.1 hfault with hlarge | ⟨permissions, -, hfault⟩
    · split at hlarge
      · cases hlarge
      · rename_i p hsent
        cases p with
        | none => cases hlarge
        | some n =>
          rw [bindWholeOption_fits fun k hk => Option.some.inj hk ▸ h.permissions n hsent] at hlarge
          cases hlarge
    · rw [bind_ofString, ok_bind] at hfault
      split at hfault
      · cases hfault
      · split at hfault
        · split at hfault
          · exact (Except.error.inj hfault).symm
          · cases hfault
        · exact (Except.error.inj hfault).symm

/-- A new password is stored, or there is no live user to give it to. -/
theorem Sound.updatePassword (hs : s.Sound) (id : String) (now : Instant) (hash : String) :
    ∃ made, s.updatePassword (Text.ofString id) now (some (Text.ofString hash)) = .ok made := by
  rw [Store.updatePassword, hs.ready.need.1, ok_bind, bindOption_ofString, ok_bind, bind_ofString,
    ok_bind]
  cases findRow? s.users false id <;> exact ⟨_, rfl⟩

/-! ### Turns -/

/-- Nothing but bringing a user back can be refused. -/
theorem Sound.carryOut (hs : s.Sound) {t : Turn} (ht : t ≠ .restoreUser) (id : String)
    (now : Instant) (f : StoreFault) : t.carryOut s (Text.ofString id) now ≠ .error f := by
  cases hs.answered t id now with
  | done r _ answer => rw [answer]; exact fun h => nomatch h
  | missing _ answer => rw [answer]; exact fun h => nomatch h
  | blocked hblocked _ => exact absurd hblocked.1 ht

end Store

end Pressroom
