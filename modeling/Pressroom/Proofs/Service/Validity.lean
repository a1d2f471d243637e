import Pressroom.Proofs.Access.Administrator
import Pressroom.Proofs.Service.Fit

/-!
Everything stored is valid. A handler checks and cleans what it is sent by rules of its own, takes some
parts from the caller, and changes some and leaves others; each time what it stores is fit. So a
service keeps nothing but fit rows from its start, whatever requests it gets, and the record of every
row passes its check, long after the row was written or deleted.
-/
namespace Pressroom

open Web

/-- A hash is not empty. -/
theorem Password.hash_ne_empty {password : Text} {hash : String}
    (h : Password.hash password = .ok hash) : hash ≠ "" := by
  rintro rfl
  have hright := check_hash h
  rw [Password.check] at hright
  cases hright

namespace Service

open Store

variable {s : Service} {v : Visit} {n : Nat} {data : Json}

/-! ### What is read is fit -/

/-- A name that passes its check is a text, and neither empty nor with control characters. -/
theorem name_fit {v : Json} (h : Check.fullname (tidyName v) = .ok ()) :
    textOf (tidyName v) ≠ [] ∧ (textOf (tidyName v)).Plain := by
  rw [Check.fullname] at h
  split at h
  · rename_i htruthy
    cases v with
    | text t =>
      refine ⟨?_, Text.plain_kept Check.fullnameMax t⟩
      intro hnil
      have hfalse : (tidyName (.text t)).truthy = false := by
        have hempty : tidyName (.text t) = .text [] := congrArg Json.text hnil
        rw [hempty]; rfl
      exact absurd htruthy (by rw [hfalse]; decide)
    | _ => cases h
  · cases h

/-- What passes for an address is a text. -/
theorem eq_text_of_email {v : Json} (h : Check.email v = .ok ()) : v = .text (textOf v) := by
  obtain ⟨t, rfl⟩ := Check.email_holds h
  rfl

/-- Permissions that pass their check are a mask of sixty-three bits. -/
theorem permissions_fit {v : Json} (h : Check.permissions v = .ok ()) :
    0 ≤ wholeOf v ∧ wholeOf v ≤ Check.permissionsMax := by
  cases v with
  | whole n => exact Check.permissions_whole.1 h
  | _ => cases h

/-- A part of a post that is read is plain and not too long. -/
theorem cleanPart_fit {f : PostField} {v : Json} {t : Text}
    (h : cleanPart f.name v = .ok (some t)) : t.Plain ∧ t.length ≤ f.limit := by
  cases v with
  | null => cases h
  | text sent =>
    rw [cleanPart_text] at h
    split at h
    · cases h
    · rename_i hfits
      cases h
      exact ⟨Text.plain_kept _ _, Nat.not_lt.1 hfits⟩
  | _ => cases h

/-! ### Users -/

/-- What a new user is to be, as far as it is checked when it is read. -/
structure NewAccount.Fit (a : NewAccount) : Prop where
  fullname : a.fullname ≠ []
  plain : a.fullname.Plain
  email : Check.email (.text a.email) = .ok ()
  permissions : 0 ≤ a.permissions ∧ a.permissions ≤ Check.permissionsMax

theorem readAccount_fit {a : NewAccount} (h : readAccount data = .ok a) : a.Fit := by
  obtain ⟨-, -, h⟩ := bind_eq_ok.1 h
  obtain ⟨⟨⟩, hname, h⟩ := bind_eq_ok.1 h
  obtain ⟨⟨⟩, hemail, h⟩ := bind_eq_ok.1 h
  obtain ⟨-, -, h⟩ := bind_eq_ok.1 h
  obtain ⟨⟨⟩, hpermissions, h⟩ := bind_eq_ok.1 h
  cases h
  obtain ⟨hfilled, hplain⟩ := name_fit hname
  have htext := eq_text_of_email hemail
  exact ⟨hfilled, hplain, htext ▸ hemail, permissions_fit hpermissions⟩

/-- The data of a new user with a hash is fit. -/
theorem NewAccount.Fit.bound {a : NewAccount} (h : a.Fit) {password : Text} {hash : String}
    (hhash : Password.hash password = .ok hash) {d : UserData}
    (hd : bindUser ⟨some a.fullname, some a.email, some (Text.ofString hash), some a.permissions⟩
      = .ok d) : d.Fit := by
  obtain ⟨hname, hemail, hpassword, hpermissions⟩ := bindUser_eq_ok hd
  have hname : a.fullname = Text.ofString d.fullname := Option.some.inj hname
  have hemail : a.email = Text.ofString d.email := Option.some.inj hemail
  have hpassword : hash = d.password := Text.ofString_injective (Option.some.inj hpassword)
  have hpermissions : a.permissions = d.permissions := Option.some.inj hpermissions
  refine ⟨fun hempty => h.fullname ?_, hname ▸ h.plain, ?_, ?_, hpermissions ▸ h.permissions⟩
  · rw [hname, hempty]; rfl
  · rw [Json.string, ← hemail]; exact h.email
  · rw [← hpassword]; exact Password.hash_ne_empty hhash

/-- A new name is neither empty nor with control characters. -/
theorem readName_fit {t : Text} (h : readName data = .ok (some (some t))) : t ≠ [] ∧ t.Plain := by
  rw [readName] at h
  split at h
  · cases h
  · split at h
    · cases h
    · rename_i hcheck
      cases h
      exact name_fit hcheck

/-- A new address has the form of one. -/
theorem readEmail_fit {store : Store} {id : String} {t : Text}
    (h : readEmail store id data = .ok (some (some t))) : Check.email (.text t) = .ok () := by
  rw [readEmail] at h
  split at h
  · cases h
  · split at h
    · cases h
    · rename_i hcheck
      have htext := eq_text_of_email hcheck
      dsimp only at h
      split at h
      · cases h
      · cases h
      · cases h
        exact htext ▸ hcheck

/-- New permissions are a mask of sixty-three bits. -/
theorem readPermissions_fit {m : Int} (h : readPermissions data = .ok (some (some m))) :
    0 ≤ m ∧ m ≤ Check.permissionsMax := by
  rw [readPermissions] at h
  split at h
  · cases h
  · split at h
    · cases h
    · rename_i hcheck
      cases h
      exact permissions_fit hcheck

theorem readUserChanges_fit {store : Store} {id : String} {changes : UserChanges}
    {password : Option Text} (h : readUserChanges store id data = .ok (changes, password)) :
    changes.Fit := by
  obtain ⟨hname, hemail, hpermissions, -, -⟩ := readUserChanges_eq_ok.1 h
  refine ⟨fun t ht => ?_, fun t ht => ?_, fun m hm => ?_⟩
  · exact readName_fit (hname.trans (congrArg Except.ok ht))
  · exact readEmail_fit (hemail.trans (congrArg Except.ok ht))
  · exact readPermissions_fit (hpermissions.trans (congrArg Except.ok hm))

theorem updatePassword_fit {store t : Store} {id : Text} {now : Instant} {password : Text}
    {hash : String} {found : Bool} (h : store.Fit n .user) (hs : store.Keyed)
    (hhash : Password.hash password = .ok hash)
    (hmade : store.updatePassword id now (some (Text.ofString hash)) = .ok (t, found)) :
    t.Fit n .user := by
  obtain rfl | ⟨-, r, hash', hr, -, hbound, rfl⟩ := updatePassword_eq_ok hmade
  · exact h
  · rw [bindOption_ofString] at hbound
    cases hbound
    have hmem := (findRow?_live hr).1
    have hold : r.data.Fit := h r hmem
    exact h.revise (k := .user) hs hmem
      { hold with password := Password.hash_ne_empty hhash }

/-- A user is added with fit data, or not at all. -/
theorem addUser_fit (h : s.store.Fit n .user) (now : Instant) {new : NewUser}
    (hnew : ∀ d, bindUser new = .ok d → d.Fit) : (s.addUser now new).1.store.Fit n .user := by
  rw [addUser]
  split
  · exact h
  · rename_i made
    obtain ⟨d, hd, -, -, hstore, -⟩ := createUser_eq_ok made
    rw [hstore]
    exact h.add (k := .user) (hnew d hd) _ _

theorem createUser_fit (h : s.store.Fit n .user) : (s.createUser v).1.store.Fit n .user := by
  refine guarded_cases (motive := fun r => r.1.store.Fit n .user) (fun _ _ => h) fun _ _ => ?_
  split
  · exact h
  · split
    · exact h
    · rename_i account haccount
      have hfit := readAccount_fit haccount
      split
      · exact h
      · exact h
      · rw [addAccount]
        cases hhash : Password.hash account.password with
        | error f => exact h
        | ok hash =>
          dsimp only
          have hadded := addUser_fit h v.now fun d hd => hfit.bound hhash hd
          split <;> rename_i hmade <;> rw [hmade] at hadded <;> exact hadded

theorem changeUser_fit (h : s.store.Fit n .user) (hs : s.store.Keyed) (data : Json) :
    (s.changeUser v data).1.store.Fit n .user := by
  obtain hsame | ⟨changes, password, store, hread, hchanges, hmade⟩ :=
    changeUser_eq (s := s) (v := v) data
  · rw [hsame]; exact h
  · have hfit : store.Fit n .user := by
      obtain ⟨-, rfl⟩ | ⟨-, found, hupdate⟩ := storeChanges_eq_ok hchanges
      · exact h
      · obtain ⟨rfl, -⟩ | ⟨-, r, change, hr, -, happlies, -, rfl⟩ := updateUser_eq_ok hupdate
        · exact h
        · have hmem := (findRow?_live hr).1
          exact h.revise (k := .user) hs hmem
            ((readUserChanges_fit hread).applies happlies (h r hmem))
    have hkeyed : store.Keyed := Edits.keyed (storeChanges_edits hchanges) hs
    obtain hmade | ⟨final, hpassword, hmade⟩ := hmade
    · rw [hmade]; exact hfit
    · rw [hmade]
      obtain ⟨-, rfl⟩ | ⟨new, hash, found, -, hhash, hupdate⟩ := storeNewPassword_eq_ok hpassword
      · exact hfit
      · exact updatePassword_fit hfit hkeyed hhash hupdate

theorem updateUser_fit (h : s.store.Fit n .user) (hs : s.store.Keyed) :
    (s.updateUser v).1.store.Fit n .user := by
  refine guarded_cases (motive := fun r => r.1.store.Fit n .user) (fun _ _ => h) fun _ _ => ?_
  split
  · exact h
  · split
    · exact h
    · exact h
    · exact changeUser_fit h hs _

theorem changePassword_fit (h : s.store.Fit n .user) (hs : s.store.Keyed) :
    (s.changePassword v).1.store.Fit n .user := by
  have hstored : ∀ user new, (s.storePassword v user new).1.store.Fit n .user := by
    intro user new
    unfold storePassword
    split
    · split
      · exact h
      · rename_i hhash
        split
        · exact h
        · rename_i hupdate; exact updatePassword_fit h hs hhash hupdate
    · exact h
  unfold changePassword
  split
  · exact h
  · dsimp only
    split
    · exact h
    · split
      · split
        · exact hstored _ _
        · exact h
      · exact h

/-! ### Posts -/

/-- The parts of a post that are read are plain and not too long. -/
theorem readParts_fit {parts : PostParts} (h : readParts data = .ok parts) (f : PostField)
    {t : Text} (ht : f.part parts = some t) : f.Fits n t := by
  have hpart := readParts_part h f
  rw [ht] at hpart
  obtain ⟨hplain, hshort⟩ := cleanPart_fit hpart
  exact ⟨hplain, .inl hshort⟩

/-- A new post of a user is fit, whether or not it names an author. -/
theorem newPost_fit {caller : User} {parts : PostParts} (h : newPost data caller = .ok parts)
    (hcaller : ∃ i ≤ n, caller.id = Fresh.idText i) (f : PostField) {t : Text}
    (ht : f.part parts = some t) : f.Fits n t := by
  obtain ⟨read, hread, rfl⟩ := newPost_eq_ok h
  cases f with
  | title => exact readParts_fit hread .title ht
  | type => exact readParts_fit hread .type ht
  | author =>
    have hauthor : (if isBlankPart read.author then some (Text.ofString caller.id)
      else read.author) = some t := ht
    split at hauthor
    · obtain ⟨i, hi, hid⟩ := hcaller
      cases hauthor
      rw [hid]
      exact ⟨Fresh.plain_idText i, .inr ⟨rfl, i, hi, rfl⟩⟩
    · exact readParts_fit hread .author hauthor

/-- A post is added with fit data, or not at all. -/
theorem addPost_fit (h : s.store.Fit n .post) (now : Instant) {new : PostParts}
    (hnew : ∀ d, bindPost new = .ok d → d.Fit n) : (s.addPost now new).1.store.Fit n .post := by
  rw [addPost]
  split
  · exact h
  · rename_i made
    obtain ⟨d, hd, -, hstore, -⟩ := createPost_eq_ok made
    rw [hstore]
    exact h.add (k := .post) (hnew d hd) _ _

theorem createPost_fit (h : s.store.Fit n .post)
    (hcaller : ∀ caller, s.permitted v editPosts = .ok caller →
      ∃ i ≤ n, caller.user.id = Fresh.idText i) : (s.createPost v).1.store.Fit n .post := by
  refine guarded_cases (motive := fun r => r.1.store.Fit n .post) (fun _ _ => h)
    fun caller hpermitted => ?_
  split
  · exact h
  · split
    · exact h
    · rename_i parts hparts
      have hnew : ∀ d, bindPost parts = .ok d → d.Fit n := by
        intro d hd f t ht
        have hpart := bindPost_stored hd f
        rw [ht] at hpart
        exact newPost_fit hparts (hcaller caller hpermitted) f hpart.symm
      have hadded := addPost_fit h v.now hnew
      split <;> rename_i hmade <;> rw [hmade] at hadded <;> exact hadded

/-- What changes leave of a fit post is fit. -/
theorem readChanges_fit {changes : PostChanges} (h : readChanges data = .ok changes)
    {old new : PostData} (happlies : AppliesToPost changes old new) (hold : old.Fit n) :
    new.Fit n := by
  intro f t ht
  have hchange := readChanges_change h f
  rw [readChange] at hchange
  split at hchange
  · exact hold f t ((appliesToPost_kept happlies (Except.ok.inj hchange).symm).symm.trans ht)
  · obtain ⟨part, hpart, hsome⟩ := map_eq_ok.1 hchange
    have hnew := appliesToPost_stored happlies hsome.symm
    rw [ht] at hnew
    rw [← hnew] at hpart
    obtain ⟨hplain, hshort⟩ := cleanPart_fit hpart
    exact ⟨hplain, .inl hshort⟩

theorem updatePost_fit (h : s.store.Fit n .post) (hs : s.store.Keyed) :
    (s.updatePost v).1.store.Fit n .post := by
  refine guarded_cases (motive := fun r => r.1.store.Fit n .post) (fun _ _ => h) fun _ _ => ?_
  split
  · exact h
  · split
    · exact h
    · rename_i changes hchanges
      split
      · exact h
      · dsimp only
        split
        · exact h
        · exact h
        · rename_i store hupdate
          have hfit : store.Fit n .post := by
            obtain ⟨rfl, -⟩ | ⟨-, r, change, hr, -, happlies, rfl⟩ := updatePost_eq_ok hupdate
            · exact h
            · have hmem := (findRow?_live hr).1
              exact h.revise (k := .post) hs hmem (readChanges_fit hchanges happlies (h r hmem))
          split <;> exact hfit

/-! ### Keys -/

/-- The expiry of a new key is a time after the beginning of 1970, as the clock is past it. -/
theorem readExpiry_fit {now : Instant} {v : Json} {expires : Int} (hnow : 0 ≤ now)
    (h : readExpiry now v = .ok (some expires)) : 0 ≤ expires := by
  obtain ⟨-, hnone⟩ | ⟨-, days, -, hdays, -, hexpires⟩ := readExpiry_eq_ok h
  · cases hnone
  · cases hexpires
    have hseconds : 0 ≤ Cookie.secondsOf now := Int.tdiv_nonneg hnow (by decide)
    have hspan : 0 ≤ days * secondsPerDay := Int.mul_nonneg (by omega) (by decide)
    omega

/-- An owner that is read is an address, and the store has a live user for it. -/
theorem readOwner_eq_ok {store : Store} {owner : Json} {email : Text}
    (h : readOwner store owner = .ok email) :
    Check.email (.text email) = .ok () ∧ ∃ user, store.userByEmail? email false = .ok (some user) := by
  rw [readOwner] at h
  split at h
  · cases h
  · rename_i hcheck
    have htext := eq_text_of_email hcheck
    have hsame : owner.display = textOf owner := congrArg Json.display htext
    dsimp only at h
    split at h
    · cases h
    · cases h
    · rename_i user hfound
      obtain rfl := Except.ok.inj h
      exact ⟨by rw [hsame, ← htext]; exact hcheck, user, hfound⟩

theorem readNewKey_fit {store : Store} {caller : User} {owner : Text} {expires : Option Int}
    (hnow : 0 ≤ v.now) (h : readNewKey store v caller = .ok (owner, expires)) :
    Check.email (.text owner) = .ok () ∧ ∀ m, expires = some m → 0 ≤ m := by
  obtain ⟨data, named, -, howner, hexpires⟩ := readNewKey_eq_ok h
  refine ⟨(readOwner_eq_ok howner).1, ?_⟩
  rintro m rfl
  exact readExpiry_fit hnow hexpires

/-- The data of a new key is fit if its owner is an address and its expiry after 1970. -/
theorem bindKey_fit {digest owner : Text} {expires : Option Int} {d : KeyData}
    (hd : bindKey ⟨some digest, some owner, expires⟩ = .ok d)
    (howner : Check.email (.text owner) = .ok ()) (hexpires : ∀ m, expires = some m → 0 ≤ m) :
    d.Fit := by
  obtain ⟨-, hbound, hmoment⟩ := bindKey_eq_ok hd
  refine ⟨fun address haddress => ?_, fun m hm => ?_⟩
  · have hsame := bindOption_eq_ok hbound
    rw [haddress] at hsame
    have hsame : Text.ofString address = owner := Option.some.inj hsame
    rw [Json.string, hsame]
    exact howner
  · rw [hm] at hmoment
    cases expires with
    | none => cases hmoment
    | some k =>
      obtain ⟨k', hk, hsome⟩ := map_eq_ok.1 hmoment
      cases hsome
      obtain ⟨rfl, -, hlt⟩ := bindWhole_eq_ok hk
      exact ⟨hexpires m rfl, hlt⟩

/-- A key is issued with fit data, or not at all. -/
theorem issueKey_fit (h : s.store.Fit n .apiKey) (now : Instant) {owner : Text}
    {expires : Option Int} (howner : Check.email (.text owner) = .ok ())
    (hexpires : ∀ m, expires = some m → 0 ≤ m) :
    (s.issueKey now (some owner) expires).1.store.Fit n .apiKey := by
  rw [issueKey]
  split
  · exact h
  · rename_i made
    obtain ⟨d, hd, -, -, hstore, -⟩ := createKey_eq_ok made
    rw [hstore]
    exact h.add (k := .apiKey) (bindKey_fit hd howner hexpires) _ _

theorem createKey_fit (h : s.store.Fit n .apiKey) (hnow : 0 ≤ v.now) :
    (s.createKey v).1.store.Fit n .apiKey := by
  refine guarded_cases (motive := fun r => r.1.store.Fit n .apiKey) (fun _ _ => h)
    fun caller _ => ?_
  split
  · exact h
  · rename_i owner expires hread
    obtain ⟨howner, hexpires⟩ := readNewKey_fit hnow hread
    have hadded := issueKey_fit h v.now howner hexpires
    split <;> rename_i hmade <;> rw [hmade] at hadded <;> exact hadded

/-! ### All handlers -/

/-- Whoever a handler is used by, what it stores is fit. -/
theorem dispatch_fit (h : ∀ k, s.store.Fit n k) (hs : s.store.Keyed) (hnow : 0 ≤ v.now)
    (hcaller : ∀ permission caller, s.permitted v permission = .ok caller →
      ∃ i ≤ n, caller.user.id = Fresh.idText i) (e : Endpoint) (k : RecordKind) :
    (s.dispatch e v).1.store.Fit n k := by
  by_cases hk : k = e.kind
  · subst hk
    cases he : e.turn? with
    | some t =>
      have hkind : t.kind = e.kind := by cases e <;> cases he <;> rfl
      obtain hsame | hturned := dispatch_turns (s := s) (v := v) he
      · rw [hsame]; exact h _
      · rw [← hkind]; exact (h _).turn hs hturned
    | none =>
      by_cases hasked : e.isAsked = true
      · rw [asked_store hasked]; exact h _
      · cases e <;> try exact absurd rfl hasked
        case login | logout => exact h _
        case changePassword => exact changePassword_fit (h _) hs
        case createPost => exact createPost_fit (h _) (hcaller _)
        case updatePost => exact updatePost_fit (h _) hs
        case createUser => exact createUser_fit (h _)
        case updateUser => exact updateUser_fit (h _) hs
        case createKey => exact createKey_fit (h _) hnow
        all_goals cases he
  · intro r hr
    rw [dispatch_rows_of_ne hk] at hr
    exact h k r hr

/-! ### Runs -/

/-- A service that keeps nothing but fit rows. -/
structure Fit (s : Service) : Prop where
  sound : s.Sound
  issued : s.Issued
  rows : ∀ k, s.store.Fit s.fresh.ids k

theorem id_mem_ids {store : Store} {k : RecordKind} {r : Row k.Data} (h : r ∈ store.rows k) :
    r.id ∈ store.ids := by
  have hmem : r.id ∈ (store.rows k).map (·.id) := List.mem_map_of_mem h
  cases k with
  | apiKey => exact List.mem_append_right _ (List.mem_append_right _ hmem)
  | post => exact List.mem_append_right _ (List.mem_append_left _ hmem)
  | user => exact List.mem_append_left _ hmem

/-- A user of the store has an id that was given out. -/
theorem Issued.user {user : User} (h : s.Issued) (huser : s.store.HasUser user) :
    ∃ i ≤ s.fresh.ids, user.id = Fresh.idText i := by
  obtain ⟨row, hrow, -, hid, -⟩ := huser
  rw [hid]
  exact h _ (id_mem_ids (k := .user) hrow)

/-- Whatever a request asks for, what it leaves behind is fit. -/
theorem Fit.handle (h : s.Fit) {now : Instant} (hera : InEra now) (hnow : 0 ≤ now) (r : Request) :
    (s.handle now r).1.Fit where
  sound := (Step.request now r hera).sound h.sound
  issued := h.issued.grows (handle_grows s now r)
  rows k := by
    have hcounter := (handle_grows s now r).counter
    suffices hstill : (s.handle now r).1.store.Fit s.fresh.ids k from
      fun x hx => (hstill x hx).mono hcounter
    cases harrival : s.arrival? now r with
    | none => rw [(handle_turned_away harrival).store]; exact h.rows k
    | some arrival =>
      obtain ⟨m, e, v⟩ := arrival
      have hsame := arrival?_same harrival
      have hvisit := arrival?_visit harrival
      rw [(handle_arrived harrival).1]
      refine dispatch_fit (by rw [hsame.store]; exact h.rows)
        (by rw [hsame.store]; exact h.sound.store.keyed) (by rw [hvisit.1]; exact hnow) ?_ e k
      intro permission caller hcaller
      rw [permitted_same hsame] at hcaller
      exact h.issued.user (sender?_hasUser (permitted_granted hvisit hcaller).1)

theorem Fit.handleAll (h : s.Fit) (requests : List (Instant × Request))
    (hclock : ∀ p ∈ requests, InEra p.1 ∧ 0 ≤ p.1) : (s.handleAll requests).Fit := by
  induction requests generalizing s with
  | nil => exact h
  | cons p rest ih =>
    obtain ⟨hfirst, hrest⟩ := List.forall_mem_cons.1 hclock
    exact ih (h.handle hfirst.1 hfirst.2 p.2) hrest

theorem seedData_fit {settings : Settings} {hash : String}
    (hemail : Check.email (.string settings.adminEmail) = .ok ()) (hhash : hash ≠ "") :
    (seedData settings hash).Fit := by
  have hplain : (Text.ofString "Administrator").Plain := by rw [Text.Plain]; decide +kernel
  have hmask : 0 ≤ seedPermissions ∧ seedPermissions ≤ Check.permissionsMax := by decide
  have hname : "Administrator" ≠ "" := by decide
  exact ⟨hname, hplain, hemail, hhash, hmask⟩

/-- A service that has started keeps its administrator, who is fit if the address of the settings
passes for one. -/
theorem start_fit {policy : Policy} {settings : Settings} {platform : String} {begin : Instant}
    {first : Service} (hbegin : InEra begin)
    (hemail : Check.email (.string settings.adminEmail) = .ok ())
    (hstart : start policy settings platform begin = .ok first) : first.Fit where
  sound := start_sound hbegin hstart
  issued := start_issued hstart
  rows k := by
    intro r hr
    by_cases hk : k = .user
    · subst hk
      obtain ⟨-, hash, hhash, husers⟩ := start_users hstart
      have hr : r ∈ first.store.users := hr
      rw [husers, List.mem_singleton] at hr
      subst hr
      exact seedData_fit hemail (Password.hash_ne_empty hhash)
    · rw [start_rows hstart hk] at hr
      cases hr

/-! ### Everything stored is valid -/

/-- Every id that has been given out has the thirty-six characters of an id. -/
def IdsHaveWidth (s : Service) : Prop :=
  ∀ n ≤ s.fresh.ids, (Text.ofString (Fresh.idText n)).length = 36

/-- Everything that a service stores, in live rows and in deleted ones, is valid. -/
structure StoresValid (s : Service) : Prop where
  /-- Every row is read, as a record that passes its check. -/
  records : ∀ k, ∀ r ∈ s.store.rows k, ∃ item : Item k.Data,
    r.read = .ok item ∧ (k.record item).check = .ok ()
  /-- Authors have at most thirty-six code points. -/
  authors : ∀ r ∈ s.store.posts, ∀ author, r.data.author = some author →
    (Text.ofString author).length ≤ 36
  permissions : ∀ r ∈ s.store.users, 0 ≤ r.data.permissions ∧ r.data.permissions ≤ 0x7FFFFFFFFFFFFFFF
  /-- The times at which keys expire fit into sixty-four bits with a sign. -/
  expiries : ∀ r ∈ s.store.keys, ∀ expires, r.data.expires = some expires →
    -0x8000000000000000 ≤ expires ∧ expires < 0x8000000000000000
  /-- No title, type or author has control characters. -/
  plain : ∀ r ∈ s.store.posts, ∀ (f : PostField) (part : String), f.stored r.data = some part →
    ∀ p ∈ Text.ofString part, p.isControl = false
  /-- Neither has a name. -/
  plainNames : ∀ r ∈ s.store.users, ∀ p ∈ Text.ofString r.data.fullname, p.isControl = false

theorem Fit.storesValid (h : s.Fit) (hwidth : s.IdsHaveWidth) : s.StoresValid where
  records k r hr := by
    have hid : r.id ≠ "" := by
      obtain ⟨n, -, hid⟩ := h.issued r.id (id_mem_ids hr)
      rw [hid]
      exact Fresh.idText_ne_empty n
    exact ⟨r.item, ((h.sound.store.table k).times r hr).read,
      Entry.record_check hid (h.rows k r hr)⟩
  authors r hr author hauthor := by
    obtain ⟨-, hshort | ⟨-, n, hn, hid⟩⟩ := h.rows .post r hr .author author hauthor
    · exact hshort
    · rw [hid]
      exact (hwidth n hn).le
  permissions r hr := (h.rows .user r hr : r.data.Fit).permissions
  expiries r hr expires hexpires := by
    obtain ⟨hlow, hhigh⟩ := (h.rows .apiKey r hr : r.data.Fit).expires expires hexpires
    exact ⟨by omega, hhigh⟩
  plain r hr f part hpart := (h.rows .post r hr f part hpart).1
  plainNames r hr := (h.rows .user r hr : r.data.Fit).plain

/-- Whatever requests a service gets after its start, everything that it stores is valid. -/
theorem stores_valid {policy : Policy} {settings : Settings} {platform : String}
    {begin : Instant} {first : Service} (hbegin : InEra begin)
    (hemail : Check.email (.string settings.adminEmail) = .ok ())
    (hstart : start policy settings platform begin = .ok first)
    {requests : List (Instant × Request)} (hclock : ∀ p ∈ requests, InEra p.1 ∧ 0 ≤ p.1)
    (hwidth : (first.handleAll requests).IdsHaveWidth) :
    (first.handleAll requests).StoresValid :=
  ((start_fit hbegin hemail hstart).handleAll requests hclock).storesValid hwidth

/-- So it is after the first administrator has sent a post under the name of somebody else. -/
theorem stores_valid_post :
    ∃ first, start (.ofProfile .testing .standard) .standard "" 0 = .ok first ∧
      Check.email (.string Settings.standard.adminEmail) = .ok () ∧
      (∀ p ∈ [((0 : Instant), longAuthorRequest)], InEra p.1 ∧ 0 ≤ p.1) ∧
      (first.handleAll [(0, longAuthorRequest)]).store.posts ≠ [] ∧
      (first.handleAll [(0, longAuthorRequest)]).IdsHaveWidth ∧
      (first.handleAll [(0, longAuthorRequest)]).StoresValid := by
  obtain ⟨first, hstart, hposts, hids⟩ :
      ∃ first, start (.ofProfile .testing .standard) .standard "" 0 = .ok first ∧
        (first.handleAll [(0, longAuthorRequest)]).store.posts ≠ [] ∧
        (first.handleAll [(0, longAuthorRequest)]).fresh.ids = 2 :=
    ⟨_, rfl, by decide +kernel, by decide +kernel⟩
  have hemail : Check.email (.string Settings.standard.adminEmail) = .ok () := by decide +kernel
  have hclock : ∀ p ∈ [((0 : Instant), longAuthorRequest)], InEra p.1 ∧ 0 ≤ p.1 := by
    intro p hp
    rw [List.mem_singleton.1 hp]
    exact ⟨inEra_zero, Int.le_refl 0⟩
  have hwidth : (first.handleAll [(0, longAuthorRequest)]).IdsHaveWidth := fun n hn =>
    Fresh.length_idText (by omega)
  exact ⟨first, hstart, hemail, hclock, hposts, hwidth,
    stores_valid inEra_zero hemail hstart hclock hwidth⟩

end Service

end Pressroom
