import Pressroom.Proofs.Service.Validity
import Pressroom.Proofs.Store.Answer

/-!
The change of a user, part by part. Everything that is sent is checked before anything is stored, but
the new password is hashed only after the other parts have been stored. A password may pass its check
and have no hash, so a change is not all or nothing: it is applied, or refused and nothing is stored,
or it breaks off with all parts stored except the password, and exactly the changes with such a
password and another part besides do so.
-/
namespace Pressroom

open Web

namespace Store

/-! ### Rows -/

variable {α : Type} {rows : List (Row α)}

/-- A change of the row with an id may be any function that does the same to this row. -/
theorem reviseRow_congr (hn : (rows.map (·.id)).Nodup) {r : Row α} (hr : r ∈ rows)
    {f g : Row α → Row α} (h : f r = g r) : reviseRow rows r.id f = reviseRow rows r.id g := by
  refine List.map_congr_left fun x hx => ?_
  split
  · rename_i hid
    rw [row_unique hn hx hr (by simpa using hid), h]
  · rfl

theorem reviseRow_reviseRow {f : Row α → Row α} (hf : KeepsId f) (id : String)
    (g : Row α → Row α) : reviseRow (reviseRow rows id f) id g = reviseRow rows id (g ∘ f) := by
  rw [reviseRow, reviseRow, List.map_map]
  refine List.map_congr_left fun x _ => ?_
  rw [Function.comp_apply]
  by_cases hid : (x.id == id) = true
  · rw [if_pos hid, if_pos (by rw [hf]; exact hid), if_pos hid, Function.comp_apply]
  · rw [if_neg hid, if_neg hid, if_neg hid]

/-- The store after the user with an id was given other data. -/
def withUserData (s : Store) (id : String) (now : Instant) (data : UserData) : Store :=
  { s with users := reviseRow s.users id (revised now fun _ => data) }

variable {s : Store} {row : Row UserData} {id : String} {now : Instant}

theorem withUserData_withUserData (a b : UserData) :
    (s.withUserData id now a).withUserData id now b = s.withUserData id now b := by
  rw [withUserData, withUserData, withUserData]
  dsimp only
  rw [reviseRow_reviseRow (keepsId_revised now _)]
  rfl

theorem findRow?_withUserData (hrow : findRow? s.users false id = some row) (now : Instant)
    (data : UserData) :
    findRow? (s.withUserData id now data).users false id
      = some (revised now (fun _ => data) row) := by
  obtain ⟨-, rfl, -⟩ := findRow?_live hrow
  exact findRow?_revised hrow now _

theorem reviseRow_eq_withUserData (hs : s.Sound) (hrow : findRow? s.users false row.id = some row)
    (now : Instant) (change : UserData → UserData) :
    { s with users := reviseRow s.users row.id (revised now change) }
      = s.withUserData row.id now (change row.data) := by
  rw [withUserData, reviseRow_congr hs.users.ids (findRow?_live hrow).1]
  rfl

/-! ### What the store does -/

/-- The index finds a clash exactly if another live user holds the address. -/
theorem Sound.emailClash_iff (hs : s.Sound) (id address : String) :
    s.emailClash id address = true ↔ ∃ other, other ≠ id ∧ s.Holds other address := by
  have hindex : s.schema.liveUnique? "users" "email" = some .noCase := by rw [hs.schema]; rfl
  simp only [emailClash, hindex, sameUnder, List.any_eq_true, Bool.and_eq_true, bne_iff_ne, ne_eq]
  constructor
  · rintro ⟨r, hr, ⟨hlive, hne⟩, hsame⟩
    exact ⟨r.id, hne, r, hr, rfl, hlive, hsame⟩
  · rintro ⟨other, hne, r, hr, rfl, hlive, hsame⟩
    exact ⟨r, hr, ⟨hlive, hne⟩, hsame⟩

/-- The lookup finds that an address is taken exactly if a live user other than the excepted one holds
it. -/
theorem Sound.emailTaken_eq (hs : s.Sound) (address : String) (except : Option String) :
    ∃ taken, Service.emailTaken s (Text.ofString address) except = .ok taken ∧
      (taken = true ↔ ∃ other, some other ≠ except ∧ s.Holds other address) := by
  rw [Service.emailTaken]
  rcases hs.userByEmail? address with ⟨hnone, hnobody⟩ | ⟨user, hsome, hholds⟩
  · rw [hnone]
    refine ⟨false, rfl, ⟨fun h => absurd h (by decide), ?_⟩⟩
    rintro ⟨other, -, hother⟩
    exact absurd hother (hnobody other)
  · rw [hsome]
    refine ⟨some user.id != except, rfl, ?_⟩
    rw [bne_iff_ne]
    constructor
    · exact fun hne => ⟨user.id, hne, hholds⟩
    · rintro ⟨other, hne, hother⟩
      rwa [hs.holder_unique hother hholds] at hne

/-- The address of nobody else is free. -/
theorem Sound.emailTaken (hs : s.Sound) (address id : String) :
    Service.emailTaken s (Text.ofString address) (some id) = .ok (s.emailClash id address) := by
  obtain ⟨taken, htaken, hiff⟩ := hs.emailTaken_eq address (some id)
  rw [htaken]
  refine congrArg _ (Bool.eq_iff_iff.2 ?_)
  rw [hiff, hs.emailClash_iff]
  simp only [ne_eq, Option.some.injEq]

/-- A change of a part that is a text gets into the store if the text does. -/
theorem bindChange_text (old : String) {t : Text} {new : String} :
    (∃ part, bindChange (some (some t)) = .ok part ∧ changedPart old part = some new) ↔
      t = Text.ofString new := by
  constructor
  · rintro ⟨part, hpart, hnew⟩
    obtain ⟨bound, hbound, rfl⟩ := map_eq_ok.1 hpart
    obtain ⟨string, hstring, rfl⟩ := map_eq_ok.1 hbound
    cases hnew
    exact bind_eq_ok_iff.1 hstring
  · rintro rfl
    refine ⟨some (some new), ?_, rfl⟩
    rw [bindChange, bindOption_ofString]
    rfl

/-- Changes that fit a live user are made, if nobody else has the address. -/
theorem updateUser_of_applies (hneed : s.need "users" = .ok ())
    (hids : (s.users.map (·.id)).Nodup) (hrow : findRow? s.users false id = some row) {c : UserChanges} (hsome : c.isEmpty = false)
    {new : UserData} (happlies : AppliesToUser c row.data new)
    (hwhole : ∀ m, c.permissions = some (some m) →
      -0x8000000000000000 ≤ m ∧ m < 0x8000000000000000)
    (hfree : s.emailClash id new.email = false) (now : Instant) :
    s.updateUser (Text.ofString id) now c = .ok (s.withUserData id now new, true) := by
  obtain ⟨⟨name, hname, hnewName⟩, ⟨email, hemail, hnewEmail⟩, hnewPermissions, hpassword⟩ := happlies
  have hmade : { s with users := reviseRow s.users id (revised now fun u => { u with
      fullname := new.fullname, email := new.email, permissions := new.permissions }) }
        = s.withUserData id now new := by
    obtain ⟨hmem, rfl, -⟩ := findRow?_live hrow
    rw [withUserData, reviseRow_congr hids hmem]
    rw [revised, revised, ← hpassword]
  rw [updateUser, if_neg (by rw [hsome]; decide), hneed, ok_bind, hname, ok_bind, hemail, ok_bind]
  refine (bind_of_eq_ok (a := c.permissions) ?_).trans ?_
  · cases hsent : c.permissions with
    | none => rfl
    | some p =>
      cases p with
      | none => rw [hsent] at hnewPermissions; cases hnewPermissions
      | some m =>
        have hfits : bindWhole m = .ok m := by
          rw [bindWhole, if_pos (by simpa using hwhole m hsent)]
        dsimp only
        rw [bindWholeOption, hfits]
        rfl
  · rw [bind_ofString, ok_bind, hrow]
    dsimp only
    rw [hnewName, hnewEmail, hnewPermissions]
    dsimp only
    rw [hfree, if_neg (by decide), hmade]
    rfl

theorem updatePassword_of_hash (hs : s.Sound) (hrow : findRow? s.users false id = some row)
    (now : Instant) (hash : String) :
    s.updatePassword (Text.ofString id) now (some (Text.ofString hash))
      = .ok (s.withUserData id now { row.data with password := hash }, true) := by
  have hid := (findRow?_live hrow).2.1
  rw [updatePassword, hs.ready.need.1, ok_bind, bindOption_ofString, ok_bind, bind_ofString, ok_bind,
    hrow]
  subst hid
  exact congrArg (fun t => Except.ok (t, true))
    (reviseRow_eq_withUserData hs hrow now fun u => { u with password := hash })

end Store

namespace Service

open Store

/-! ### What is sent -/

/-- What becomes of a part: it stays if nothing is sent for it, and else it is what was sent, in the
form in which it passed its check. -/
def Takes (sent : Option Json) (tidy : Json → Json) (check : Json → Verdict) (stays : Prop)
    (stored : Json) : Prop :=
  match sent with
  | none => stays
  | some v => check (tidy v) = .ok () ∧ tidy v = stored

/-- The parts of a user after a change, except the password. -/
structure PartsApply (data : Json) (old new : UserData) : Prop where
  fullname : Takes (data.get? "Fullname") tidyName Check.fullname (new.fullname = old.fullname)
    (.string new.fullname)
  email : Takes (data.get? "Email") tidyEmail Check.email (new.email = old.email)
    (.string new.email)
  permissions : Takes (data.get? "Permissions") (fun v => v) Check.permissions
    (new.permissions = old.permissions) (.whole new.permissions)

/-- The password after a change: it stays unless one is sent that is not null, and else it is a hash
that the one that is sent is right for. -/
def PasswordApplies (data : Json) (old new : UserData) : Prop :=
  data.getD "Password" = .null ∧ new.password = old.password ∨
    ∃ p, data.getD "Password" = .text p ∧ Check.password (.text p) = .ok () ∧
      Password.hash p = .ok new.password ∧ Password.check p new.password = true

/-- A part other than the password is sent. -/
def SendsPart (data : Json) : Prop :=
  data.get? "Fullname" ≠ none ∨ data.get? "Email" ≠ none ∨ data.get? "Permissions" ≠ none

variable {store t : Store} {id : String} {data : Json} {changes : UserChanges}
  {password : Option Text} {row : Row UserData} {old new : UserData} {p : Text}

/-- What passes for a name is a text. -/
theorem eq_text_of_fullname {v : Json} (h : Check.fullname v = .ok ()) : v = .text (textOf v) := by
  rw [Check.fullname] at h
  split at h
  · cases v <;> first | rfl | cases h
  · cases h

theorem readName_isNone {name : Option (Option Text)} (h : readName data = .ok name) :
    name.isNone = (data.get? "Fullname").isNone := by
  rw [readName] at h
  split at h
  · rename_i hnone; cases h; rw [hnone]; rfl
  · rename_i hsome
    split at h
    · cases h
    · cases h; rw [hsome]; rfl

/-- The name is read and gets into the store exactly if it becomes what it should. -/
theorem readName_takes (old new : String) :
    (∃ name part, readName data = .ok name ∧ bindChange name = .ok part ∧
      changedPart old part = some new) ↔
      Takes (data.get? "Fullname") tidyName Check.fullname (new = old) (.string new) := by
  unfold readName Takes
  cases data.get? "Fullname" with
  | none =>
    constructor
    · rintro ⟨name, part, hname, hpart, hnew⟩
      cases hname; cases hpart; cases hnew; rfl
    · rintro rfl; exact ⟨none, none, rfl, rfl, rfl⟩
  | some v =>
    dsimp only
    cases hcheck : Check.fullname (tidyName v) with
    | error c =>
      constructor
      · rintro ⟨name, part, hname, -⟩; cases hname
      · rintro ⟨h, -⟩; cases h
    | ok _ =>
      rw [eq_text_of_fullname hcheck]
      constructor
      · rintro ⟨name, part, hname, hpart⟩
        cases hname
        exact ⟨rfl, congrArg _ ((bindChange_text old).1 ⟨part, hpart⟩)⟩
      · rintro ⟨-, htext⟩
        obtain ⟨part, hpart⟩ := (bindChange_text old).2 (Json.text.inj htext)
        exact ⟨_, part, rfl, hpart⟩

theorem readEmail_isNone {email : Option (Option Text)} (h : readEmail store id data = .ok email) :
    email.isNone = (data.get? "Email").isNone := by
  rw [readEmail] at h
  split at h
  · rename_i hnone; cases h; rw [hnone]; rfl
  · rename_i hsome
    split at h
    · cases h
    · dsimp only at h
      split at h <;> cases h
      rw [hsome]; rfl

/-- So is the address, unless it is another user's. -/
theorem readEmail_takes (hs : store.Sound) (old : String) {new : String}
    (hfree : store.emailClash id new = false) :
    (∃ email part, readEmail store id data = .ok email ∧ bindChange email = .ok part ∧
      changedPart old part = some new) ↔
      Takes (data.get? "Email") tidyEmail Check.email (new = old) (.string new) := by
  unfold readEmail Takes
  cases data.get? "Email" with
  | none =>
    constructor
    · rintro ⟨email, part, hemail, hpart, hnew⟩
      cases hemail; cases hpart; cases hnew; rfl
    · rintro rfl; exact ⟨none, none, rfl, rfl, rfl⟩
  | some v =>
    dsimp only
    cases hcheck : Check.email (tidyEmail v) with
    | error c =>
      constructor
      · rintro ⟨email, part, hemail, -⟩; cases hemail
      · rintro ⟨h, -⟩; cases h
    | ok _ =>
      obtain ⟨t, ht⟩ : ∃ t, tidyEmail v = .text t := ⟨_, eq_text_of_email hcheck⟩
      rw [ht]
      dsimp only [textOf]
      constructor
      · rintro ⟨email, part, hemail, hpart⟩
        have hsent : email = some (some t) := by
          split at hemail <;> cases hemail
          rfl
        rw [hsent] at hpart
        exact ⟨rfl, congrArg _ ((bindChange_text old).1 ⟨part, hpart⟩)⟩
      · rintro ⟨-, htext⟩
        have htext : t = Text.ofString new := Json.text.inj htext
        obtain ⟨part, hpart⟩ := (bindChange_text old).2 htext
        exact ⟨_, part, by rw [htext, hs.emailTaken, hfree], hpart⟩

theorem readPermissions_isNone {permissions : Option (Option Int)}
    (h : readPermissions data = .ok permissions) :
    permissions.isNone = (data.get? "Permissions").isNone := by
  rw [readPermissions] at h
  split at h
  · rename_i hnone; cases h; rw [hnone]; rfl
  · rename_i hsome
    split at h
    · cases h
    · cases h; rw [hsome]; rfl

/-- So are the permissions. -/
theorem readPermissions_takes (old new : Int) :
    (∃ permissions, readPermissions data = .ok permissions ∧
      changedPart old permissions = some new) ↔
      Takes (data.get? "Permissions") (fun v => v) Check.permissions (new = old)
        (.whole new) := by
  unfold readPermissions Takes
  cases data.get? "Permissions" with
  | none =>
    constructor
    · rintro ⟨permissions, hpermissions, hnew⟩
      cases hpermissions; cases hnew; rfl
    · rintro rfl; exact ⟨none, rfl, rfl⟩
  | some v =>
    dsimp only
    cases hcheck : Check.permissions v with
    | error c =>
      constructor
      · rintro ⟨permissions, hpermissions, -⟩; cases hpermissions
      · rintro ⟨h, -⟩; cases h
    | ok _ =>
      cases v with
      | whole n =>
        constructor
        · rintro ⟨permissions, hpermissions, hnew⟩
          cases hpermissions; cases hnew; exact ⟨rfl, rfl⟩
        · rintro ⟨-, hwhole⟩; exact ⟨_, rfl, congrArg _ (Json.whole.inj hwhole)⟩
      | _ => cases hcheck

theorem readPassword_eq_ok : readPassword data = .ok password ↔
    password = none ∧ data.getD "Password" = .null ∨
      ∃ p, password = some p ∧ data.getD "Password" = .text p ∧
        Check.password (.text p) = .ok () := by
  rw [readPassword]
  cases hsent : data.getD "Password" with
  | null =>
    constructor
    · intro h; cases h; exact .inl ⟨rfl, rfl⟩
    · rintro (⟨rfl, -⟩ | ⟨p, -, h, -⟩)
      · rfl
      · cases h
  | text p =>
    dsimp only [Json.isNull]
    constructor
    · intro h
      simp only [Bool.false_eq_true, if_false] at h
      cases hcheck : Check.password (.text p) with
      | error c => rw [hcheck] at h; cases h
      | ok _ => rw [hcheck] at h; cases h; exact .inr ⟨p, rfl, rfl, hcheck⟩
    · rintro (⟨-, h⟩ | ⟨p', rfl, h, hcheck⟩)
      · cases h
      · cases h; rw [hcheck]; rfl
  | _ =>
    constructor
    · intro h
      simp only [Json.isNull, Bool.false_eq_true, if_false] at h
      split at h
      · cases h
      · rename_i hcheck
        unfold Check.password at hcheck
        split at hcheck <;> cases hcheck
    · rintro (⟨-, h⟩ | ⟨p', -, h, -⟩) <;> cases h

/-! ### What is stored -/

/-- A part is sent exactly if there are changes other than that of the password. -/
theorem sendsPart_iff (hname : readName data = .ok changes.fullname)
    (hemail : readEmail store id data = .ok changes.email)
    (hpermissions : readPermissions data = .ok changes.permissions) :
    SendsPart data ↔ changes.isEmpty = false := by
  rw [UserChanges.isEmpty, readName_isNone hname, readEmail_isNone hemail,
    readPermissions_isNone hpermissions, SendsPart]
  cases data.get? "Fullname" <;> cases data.get? "Email" <;>
    cases data.get? "Permissions" <;> simp

theorem partsApply_refl (h : ¬ SendsPart data) : PartsApply data old old := by
  simp only [SendsPart, not_or, not_not] at h
  obtain ⟨hname, hemail, hpermissions⟩ := h
  constructor
  · rw [hname]; rfl
  · rw [hemail]; rfl
  · rw [hpermissions]; rfl

/-- The parts become what they should exactly if the changes that are read make them so. -/
theorem partsApply_iff (hs : store.Sound) (hfree : store.emailClash id new.email = false) :
    PartsApply data old new ∧ new.password = old.password ↔
      ∃ changes : UserChanges, readName data = .ok changes.fullname ∧
        readEmail store id data = .ok changes.email ∧
        readPermissions data = .ok changes.permissions ∧ AppliesToUser changes old new := by
  constructor
  · rintro ⟨⟨hname, hemail, hpermissions⟩, hpassword⟩
    obtain ⟨name, part, hname, happlies⟩ := (readName_takes _ _).2 hname
    obtain ⟨email, part', hemail, happlies'⟩ := (readEmail_takes hs _ hfree).2 hemail
    obtain ⟨permissions, hpermissions, happlies''⟩ := (readPermissions_takes _ _).2 hpermissions
    exact ⟨⟨name, email, permissions⟩, hname, hemail, hpermissions,
      ⟨part, happlies⟩, ⟨part', happlies'⟩, happlies'', hpassword⟩
  · rintro ⟨changes, hname, hemail, hpermissions, happlies⟩
    obtain ⟨part, hpart⟩ := happlies.fullname
    obtain ⟨part', hpart'⟩ := happlies.email
    exact ⟨⟨(readName_takes _ _).1 ⟨_, part, hname, hpart⟩,
      (readEmail_takes hs _ hfree).1 ⟨_, part', hemail, hpart'⟩,
      (readPermissions_takes _ _).1 ⟨_, hpermissions, happlies.permissions⟩⟩, happlies.password⟩

section Stored

variable {v : Visit} (hs : store.Sound) (hrow : findRow? store.users false v.id = some row)

include hs hrow

/-- What is stored of the parts of a live user: nothing if none is sent, and else all of them. -/
theorem storeChanges_applies (hread : readUserChanges store v.id data = .ok (changes, password))
    (h : storeChanges store v changes = .ok t) :
    ¬ SendsPart data ∧ t = store ∨ ∃ new, SendsPart data ∧ PartsApply data row.data new ∧
      new.password = row.data.password ∧ store.emailClash v.id new.email = false ∧
      t = store.withUserData v.id v.now new := by
  obtain ⟨hname, hemail, hpermissions, -, -⟩ := readUserChanges_eq_ok.1 hread
  have hsends := sendsPart_iff hname hemail hpermissions
  obtain ⟨hempty, rfl⟩ | ⟨hsome, found, hupdate⟩ := storeChanges_eq_ok h
  · exact .inl ⟨by rw [hsends, hempty]; decide, rfl⟩
  · have hkey : ∀ key, Store.bind v.key = .ok key → key = v.id := by
      intro key hkey
      rw [Visit.key, bind_ofString] at hkey
      exact (Except.ok.inj hkey).symm
    obtain ⟨-, hempty | ⟨key, hid, hnone⟩⟩ | ⟨-, r, change, hr, hid, happlies, hfree, rfl⟩ :=
      updateUser_eq_ok hupdate
    · rw [hempty] at hsome; cases hsome
    · rw [hkey key hid, hrow] at hnone; cases hnone
    · have hid := hkey r.id hid
      have hsame : r = row := by
        rw [← hid, hr] at hrow
        exact Option.some.inj hrow
      rw [hid] at hfree
      obtain ⟨hparts, hstays⟩ := (partsApply_iff hs hfree).2
        ⟨changes, hname, hemail, hpermissions, happlies⟩
      refine .inr ⟨change r.data, hsends.2 hsome, hsame ▸ hparts, hsame ▸ hstays, hfree, ?_⟩
      rw [reviseRow_eq_withUserData hs hr, hid]

/-- Parts that become what they should are stored. -/
theorem storeChanges_of_applies (hsends : SendsPart data) (hparts : PartsApply data row.data new)
    (hstays : new.password = row.data.password)
    (hfree : store.emailClash v.id new.email = false)
    (hpassword : readPassword data = .ok password) :
    ∃ changes, readUserChanges store v.id data = .ok (changes, password) ∧
      storeChanges store v changes = .ok (store.withUserData v.id v.now new) := by
  obtain ⟨changes, hname, hemail, hpermissions, happlies⟩ :=
    (partsApply_iff hs hfree).1 ⟨hparts, hstays⟩
  have hsome := (sendsPart_iff hname hemail hpermissions).1 hsends
  have hwhole : ∀ m, changes.permissions = some (some m) →
      -0x8000000000000000 ≤ m ∧ m < 0x8000000000000000 := by
    intro m hm
    obtain ⟨hleast, hmost⟩ := readPermissions_fit (hpermissions.trans (congrArg Except.ok hm))
    rw [Check.permissionsMax] at hmost
    omega
  have hstored := updateUser_of_applies hs.ready.need.1 hs.users.ids hrow hsome happlies hwhole hfree v.now
  refine ⟨changes, readUserChanges_eq_ok.2 ⟨hname, hemail, hpermissions, hpassword, ?_⟩, ?_⟩
  · rw [hsome, Bool.false_and]; decide
  · rw [storeChanges, hsome, if_neg (by decide), Visit.key, hstored]

/-- A new password is stored exactly if it has a hash. -/
theorem storeNewPassword_text (p : Text) : storeNewPassword store v (some p) =
    match Password.hash p with
    | .error _ => .error (.error 500 "Failed to update user")
    | .ok hash => .ok (store.withUserData v.id v.now { row.data with password := hash }) := by
  rw [storeNewPassword]
  dsimp only
  cases Password.hash p with
  | error f => rfl
  | ok hash =>
    dsimp only
    rw [Visit.key, updatePassword_of_hash hs hrow]

end Stored

/-! ### How a change ends -/

/-- A new password that passes its check and has no hash, sent with other parts that are stored. -/
structure BreaksOff (s : Store) (id : String) (data : Json) (row : Row UserData) (new : UserData)
    (p : Text) : Prop where
  sends : SendsPart data
  parts : PartsApply data row.data new
  stays : new.password = row.data.password
  free : s.emailClash id new.email = false
  sent : data.getD "Password" = .text p
  fits : Check.password (.text p) = .ok ()
  hashless : Password.Hashless p

/-- How the change of a live user can end. -/
inductive ChangeEnds (s : Service) (v : Visit) (data : Json) (row : Row UserData) :
    Service × Reply → Prop
  | applied {new : UserData} {reply : Reply} (parts : PartsApply data row.data new)
      (password : PasswordApplies data row.data new) (status : reply.status = 200) :
      ChangeEnds s v data row (s.withStore (s.store.withUserData v.id v.now new), reply)
  | refused {reply : Reply} (status : ¬ Successful reply.status) : ChangeEnds s v data row (s, reply)
  | brokenOff {new : UserData} {p : Text} (h : BreaksOff s.store v.id data row new p) :
      ChangeEnds s v data row (s.withStore (s.store.withUserData v.id v.now new),
        .error 500 "Failed to update user")

section Change

variable {s : Service} {v : Visit}

/-- A user who is there after the change is shown. -/
theorem reread_user (s : Service) {u : Row UserData} (ht : t.Sound)
    (hfound : findRow? t.users false v.id = some u) :
    (match t.user? v.key false with
      | .ok (some u) => (s.withStore t, userReply 200 u)
      | _ => (s.withStore t, Reply.failure)) = (s.withStore t, userReply 200 u.item) := by
  rw [Visit.key, ht.user?, hfound]
  rfl

/-- The new password is stored after the other parts, or something else becomes of a change with a
password that has no hash. -/
theorem newPassword_ends (hnow : InEra v.now) {u : Row UserData} (ht : t.Sound)
    (hfound : findRow? t.users false v.id = some u)
    (hback : ∀ d, t.withUserData v.id v.now d = s.store.withUserData v.id v.now d)
    (hparts : PartsApply data row.data u.data) (hsent : data.getD "Password" = .text p)
    (hcheck : Check.password (.text p) = .ok ())
    (hhashless : Password.Hashless p →
      ChangeEnds s v data row (s.withStore t, .error 500 "Failed to update user")) :
    ChangeEnds s v data row
      (match storeNewPassword t v (some p) with
      | .error reply => (s.withStore t, reply)
      | .ok store =>
        match store.user? v.key false with
        | .ok (some u) => (s.withStore store, userReply 200 u)
        | _ => (s.withStore store, .failure)) := by
  have hstored := storeNewPassword_text ht hfound p
  cases hhash : Password.hash p with
  | error f =>
    rw [hhash] at hstored
    rw [hstored]
    exact hhashless (Password.hash_fails_iff.1 ⟨f, hhash⟩)
  | ok hash =>
    rw [hhash] at hstored
    dsimp only at hstored
    have hfinal := (storeNewPassword_writes hstored).sound hnow ht
    rw [hstored]
    dsimp only
    rw [reread_user s hfinal (findRow?_withUserData hfound _ _), hback]
    exact .applied ⟨hparts.fullname, hparts.email, hparts.permissions⟩
      (.inr ⟨p, hsent, hcheck, hhash, Password.check_hash hhash⟩) rfl

/-- The change of a live user is applied, or refused, or breaks off. -/
theorem changeUser_ends (hs : s.store.Sound) (hnow : InEra v.now)
    (hrow : findRow? s.store.users false v.id = some row) (data : Json) :
    ChangeEnds s v data row (s.changeUser v data) := by
  rw [changeUser]
  cases hread : readUserChanges s.store v.id data with
  | error f => exact .refused (changeFault_status f)
  | ok read =>
    obtain ⟨changes, password⟩ := read
    dsimp only
    cases hstore : storeChanges s.store v changes with
    | error reply => exact .refused (storeChanges_status hstore)
    | ok t =>
      have ht : t.Sound := (storeChanges_writes hstore).sound hnow hs
      obtain ⟨hname, hemail, hpermissions, hpassword, hsome⟩ := readUserChanges_eq_ok.1 hread
      have hsends := sendsPart_iff hname hemail hpermissions
      rcases storeChanges_applies hs hrow hread hstore with
        ⟨hnone, rfl⟩ | ⟨new, hsent, hparts, hstays, hfree, rfl⟩
      · -- Only a password was sent, so nothing is stored before it.
        rcases readPassword_eq_ok.1 hpassword with ⟨rfl, -⟩ | ⟨p, rfl, hp, hcheck⟩
        · rw [hsends] at hnone
          exact absurd (by simpa using hnone) hsome
        · exact newPassword_ends hnow hs hrow (fun _ => rfl) (partsApply_refl hnone) hp hcheck
            fun _ => .refused (not_successful 500 (by decide))
      · have hfound := findRow?_withUserData hrow v.now new
        rcases readPassword_eq_ok.1 hpassword with ⟨rfl, hp⟩ | ⟨p, rfl, hp, hcheck⟩
        · exact (congrArg (ChangeEnds s v data row) (reread_user s ht hfound)).mpr
            (.applied hparts (.inl ⟨hp, hstays⟩) rfl)
        · exact newPassword_ends hnow ht hfound (fun d => withUserData_withUserData new d) hparts hp
            hcheck fun h => .brokenOff ⟨hsent, hparts, hstays, hfree, hp, hcheck, h⟩

/-- A change that meets the conditions breaks off. -/
theorem changeUser_breaks (hs : s.store.Sound)
    (hrow : findRow? s.store.users false v.id = some row)
    (h : BreaksOff s.store v.id data row new p) : s.changeUser v data
      = (s.withStore (s.store.withUserData v.id v.now new), .error 500 "Failed to update user") := by
  obtain ⟨changes, hread, hstore⟩ := storeChanges_of_applies hs hrow h.sends h.parts h.stays h.free
    (readPassword_eq_ok.2 (.inr ⟨p, rfl, h.sent, h.fits⟩))
  obtain ⟨f, hhash⟩ := Password.hash_fails_iff.2 h.hashless
  have hpassword : storeNewPassword (s.store.withUserData v.id v.now new) v (some p)
      = .error (.error 500 "Failed to update user") := by
    rw [storeNewPassword, hhash]
  rw [changeUser, hread]
  dsimp only
  rw [hstore]
  dsimp only
  rw [hpassword]
  rfl

end Change

/-! ### Requests -/

/-- How a request to change a user can end. -/
inductive UpdateEnds (s : Service) (v : Visit) : Service × Reply → Prop
  | refused {reply : Reply} (status : ¬ Successful reply.status) : UpdateEnds s v (s, reply)
  | changed {caller : Caller} {data : Json} {row : Row UserData} {a : Service × Reply}
      (permitted : s.permitted v Registry.adminName = .ok caller)
      (content : v.request.object? = some data)
      (found : findRow? s.store.users false v.id = some row)
      (ends : ChangeEnds s v data row a) : UpdateEnds s v a

theorem updateUser_ends {s : Service} {v : Visit} (hs : s.store.Sound) (hnow : InEra v.now) :
    UpdateEnds s v (s.updateUser v) := by
  refine guarded_cases (fun reply hrefused => .refused ?_) fun caller hpermitted => ?_
  · exact (permitted_refuses hrefused).not_successful
  · cases hdata : v.request.object? with
    | none => exact .refused (not_successful 400 (by decide))
    | some data =>
      have huser := hs.user? v.id
      rw [← Visit.key] at huser
      dsimp only
      rw [huser]
      cases hfound : findRow? s.store.users false v.id with
      | none => exact .refused (not_successful 404 (by decide))
      | some row => exact .changed hpermitted hdata hfound (changeUser_ends hs hnow hfound data)

/-- A live user is changed if that is asked for by an administrator. -/
theorem updateUser_of_live {s : Service} {v : Visit} {caller : Caller} (hs : s.store.Sound)
    (hpermitted : s.permitted v Registry.adminName = .ok caller)
    (hdata : v.request.object? = some data)
    (hrow : findRow? s.store.users false v.id = some row) :
    s.updateUser v = s.changeUser v data := by
  rw [updateUser, guarded, hpermitted]
  dsimp only
  rw [hdata]
  dsimp only
  rw [Visit.key, hs.user?, hrow]
  rfl

/-- A change that meets the conditions breaks off if it is asked for by an administrator. -/
theorem updateUser_breaks {s : Service} {v : Visit} {caller : Caller} (hs : s.store.Sound)
    (hpermitted : s.permitted v Registry.adminName = .ok caller)
    (hdata : v.request.object? = some data)
    (hrow : findRow? s.store.users false v.id = some row)
    (h : BreaksOff s.store v.id data row new p) : s.updateUser v
      = (s.withStore (s.store.withUserData v.id v.now new), .error 500 "Failed to update user") := by
  rw [updateUser_of_live hs hpermitted hdata hrow, changeUser_breaks hs hrow h]

section Ends

variable {s : Service} {v : Visit} {a : Service × Reply}

/-- There is one answer that reports success. -/
theorem UpdateEnds.status (h : s.UpdateEnds v a) (hok : Successful a.2.status) :
    a.2.status = 200 := by
  cases h with
  | refused hfails => exact absurd hok hfails
  | changed _ _ _ ends =>
    cases ends with
    | applied _ _ hstatus => exact hstatus
    | refused hfails => exact absurd hok hfails
    | brokenOff _ => exact absurd hok (not_successful 500 (by decide))

/-- Success means that everything that was sent is applied, and nothing else is changed. -/
theorem UpdateEnds.applied (h : s.UpdateEnds v a) (hok : a.2.status = 200) :
    ∃ data row new, v.request.object? = some data ∧ findRow? s.store.users false v.id = some row ∧
      PartsApply data row.data new ∧ PasswordApplies data row.data new ∧
      a.1.store = s.store.withUserData v.id v.now new := by
  cases h with
  | refused hfails => exact absurd (hok ▸ successful_ok) hfails
  | changed _ hdata hrow ends =>
    cases ends with
    | applied hparts hpassword _ => exact ⟨_, _, _, hdata, hrow, hparts, hpassword, rfl⟩
    | refused hfails => exact absurd (hok ▸ successful_ok) hfails
    | brokenOff _ => cases hok

/-- Everything else leaves the store alone, unless it breaks off. -/
theorem UpdateEnds.breaksOff (h : s.UpdateEnds v a) (hfails : a.2.status ≠ 200) :
    a.1.store = s.store ∨ ∃ caller data row new p,
      s.permitted v Registry.adminName = .ok caller ∧ v.request.object? = some data ∧
      findRow? s.store.users false v.id = some row ∧ BreaksOff s.store v.id data row new p := by
  cases h with
  | refused => exact .inl rfl
  | changed hpermitted hdata hrow ends =>
    cases ends with
    | applied _ _ hstatus => exact absurd hstatus hfails
    | refused => exact .inl rfl
    | brokenOff hbreaks => exact .inr ⟨_, _, _, _, _, hpermitted, hdata, hrow, hbreaks⟩

end Ends

/-- A request of an administrator reaches the handler and asks for a change that breaks off. -/
def BreaksOffAt (s : Service) (now : Instant) (r : Request) (data : Json) (row : Row UserData)
    (new : UserData) (p : Text) : Prop :=
  ∃ m v caller, s.arrival? now r = some (m, .updateUser, v) ∧
    m.permitted v Registry.adminName = .ok caller ∧ r.object? = some data ∧
    findRow? s.store.users false v.id = some row ∧ BreaksOff s.store v.id data row new p

/-- In every state that a service gets into, a request to change a user that is answered with success
has applied everything that was sent, at the time of the request, and has changed nothing else. A
request that is answered otherwise has changed nothing at all, except for those that break off: these
are answered with a failure, and all parts but the password are changed. -/
theorem user_change_breaks_off {policy : Policy} {settings : Settings} {platform : String}
    {begin now : Instant} {first s : Service} {r : Request} {id : String} (hbegin : InEra begin)
    (hstart : start policy settings platform begin = .ok first) (hreach : first.Reaches s)
    (hnow : InEra now) (hfound : find r.target.path r.method = .handler .updateUser id) :
    ((s.handle now r).2.status = 200 → ∃ data row new, r.object? = some data ∧
      findRow? s.store.users false id = some row ∧ PartsApply data row.data new ∧
      PasswordApplies data row.data new ∧
      (s.handle now r).1.store = s.store.withUserData id now new) ∧
    ((s.handle now r).2.status ≠ 200 → (s.handle now r).1.store = s.store ∨
      ∃ data row new p, s.BreaksOffAt now r data row new p) ∧
    ∀ data row new p, s.BreaksOffAt now r data row new p →
      (s.handle now r).2.status = 500 ∧
        (s.handle now r).1.store = s.store.withUserData id now new := by
  have hs : s.store.Sound := (hreach.sound (start_sound hbegin hstart)).store
  cases harrival : s.arrival? now r with
  | none =>
    have haway := answer_turned_away harrival
    refine ⟨fun hok => absurd hok (haway.status _ _ hfound), fun _ => .inl haway.same.store, ?_⟩
    rintro data row new p ⟨m, v, caller, harrives, -⟩
    cases harrival.symm.trans harrives
  | some arrival =>
    obtain ⟨m, e, v⟩ := arrival
    obtain ⟨rfl, rfl, -⟩ := arrival?_visit harrival
    obtain ⟨hstore, hstatus⟩ := handle_arrived harrival
    obtain ⟨rfl, rfl⟩ : e = .updateUser ∧ v.id = id := by
      cases hfound.symm.trans (arrival?_found harrival); exact ⟨rfl, rfl⟩
    have hsame := (arrival?_same harrival).store
    have hm : m.store.Sound := hsame ▸ hs
    have hends := updateUser_ends hm hnow
    rw [hstore, hstatus, dispatch, ← hsame]
    refine ⟨hends.applied, fun hfails => ?_, ?_⟩
    · refine (hends.breaksOff hfails).imp_right ?_
      rintro ⟨caller, data, row, new, p, hpermitted, hdata, hrow, hbreaks⟩
      exact ⟨data, row, new, p, m, v, caller, harrival, hpermitted, hdata, hsame ▸ hrow,
        hsame ▸ hbreaks⟩
    · rintro data row new p ⟨m', v', caller, harrives, hpermitted, hdata, hrow, hbreaks⟩
      cases harrival.symm.trans harrives
      rw [← hsame] at hrow hbreaks
      rw [updateUser_breaks hm hpermitted hdata hrow hbreaks]
      exact ⟨rfl, rfl⟩

/-! ### A name and a password without a hash -/

/-- The first administrator, logged in, asks for a change of the own account. -/
def ownChange (content : String) : Request :=
  ⟨"PUT", ⟨defaultHost, ("/api/users/" ++ Fresh.idText 1).toList, []⟩, [], false, some seedCookie,
    some ⟨some "application/json", content⟩⟩

/-- A new name alone. -/
def newName : Request := ownChange "\x7b\"Fullname\":\"New\"\x7d"

/-- It is applied, and nothing else is changed. -/
theorem user_change_breaks_off_rename :
    ∃ first, start (.ofProfile .testing .standard) .standard "" 0 = .ok first ∧
      (first.handle 0 newName).2.status = 200 ∧
      ∃ data row new, newName.object? = some data ∧
        findRow? first.store.users false (Fresh.idText 1) = some row ∧
        PartsApply data row.data new ∧ PasswordApplies data row.data new ∧
        (first.handle 0 newName).1.store = first.store.withUserData (Fresh.idText 1) 0 new := by
  obtain ⟨first, hstart, hok⟩ :
      ∃ first, start (.ofProfile .testing .standard) .standard "" 0 = .ok first ∧
        (first.handle 0 newName).2.status = 200 := ⟨_, rfl, by decide +kernel⟩
  have hfound : find newName.target.path newName.method
      = .handler .updateUser (Fresh.idText 1) := by decide +kernel
  exact ⟨first, hstart, hok,
    (user_change_breaks_off inEra_zero hstart .refl inEra_zero hfound).1 hok⟩

/-- A password of seventy-three letters passes its check and has no hash. The name that is sent with
it is stored, although the answer is a failure. -/
def halfChange : Request :=
  ownChange ("\x7b\"Fullname\":\"Half\",\"Password\":\"" ++ String.ofList (List.replicate 73 'x')
    ++ "\"\x7d")

theorem half_change_keeps_name :
    ∃ first, start (.ofProfile .testing .standard) .standard "" 0 = .ok first ∧
      (first.handle 0 seedLogin).2.status = 200 ∧
      (first.handle 0 seedLogin).2.cookie = .replace halfChange.cookie ∧
      ((first.handle 0 seedLogin).1.handle 0 halfChange).2.status = 500 ∧
      first.store.users.map (·.data.fullname) = ["Administrator"] ∧
      (first.handleAll [(0, seedLogin), (0, halfChange)]).store.users.map (·.data.fullname)
        = ["Half"] := by
  obtain ⟨first, hstart, hstatus, hbefore, hafter⟩ :
      ∃ first, start (.ofProfile .testing .standard) .standard "" 0 = .ok first ∧
        (first.handle 0 halfChange).2.status = 500 ∧
        first.store.users.map (·.data.fullname) = ["Administrator"] ∧
        (first.handle 0 halfChange).1.store.users.map (·.data.fullname) = ["Half"] :=
    ⟨_, rfl, by decide +kernel, by decide +kernel, by decide +kernel⟩
  obtain ⟨hleft, hlogged, hcookie, -⟩ := seedLogin_succeeds hstart
  refine ⟨first, hstart, hlogged, hcookie, by rw [hleft]; exact hstatus, hbefore, ?_⟩
  rw [handleAll, List.foldl_cons, List.foldl_cons, List.foldl_nil, hleft]
  exact hafter

end Service

end Pressroom
