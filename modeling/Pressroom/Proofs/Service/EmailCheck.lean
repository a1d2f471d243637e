import Pressroom.Proofs.Access.NewAccount
import Pressroom.Proofs.Service.NewPassword

/-!
The check of an address and the index over the live users. A handler that gives a user an address looks
first whether somebody else has it, and the index looks again when the row is written. Both compare
addresses up to the case of ASCII letters, and no address has two holders; so the lookup finds the one
holder there can be, and what it lets pass never meets a conflict.
-/
namespace Pressroom

open Web

namespace Store

/-! ### Letters beyond ASCII -/

/-- Somewhere two texts have different letters that are not both of ASCII. -/
def DiffersBeyondAscii (a b : String) : Prop :=
  ∃ (i : Nat) (c d : Char), a.toList[i]? = some c ∧ b.toList[i]? = some d ∧ c ≠ d ∧
    ¬ (c.toNat < 128 ∧ d.toNat < 128)

/-- A letter beyond ASCII is the same as another in lower case only if the two are equal. -/
theorem eq_of_toLower_eq {c d : Char} (h : c.toLower = d.toLower) (hc : ¬ c.toNat < 128) : c = d := by
  have hascii : ∀ n < 128, (Char.ofNat n).toNat < 128 ∧ (Char.ofNat n).toLower.toNat < 128 := by decide
  have hself : c.toLower = c := by
    refine (toLower_eq_or c).resolve_right ?_
    rintro ⟨n, hn, rfl⟩
    exact hc (hascii n hn).1
  rw [hself] at h
  rcases toLower_eq_or d with hd | ⟨n, hn, rfl⟩
  · rw [h, hd]
  · rw [h] at hc
    exact absurd (hascii n hn).2 hc

theorem DiffersBeyondAscii.not_sameAddress {a b : String} (h : DiffersBeyondAscii a b) :
    ¬ SameAddress a b := by
  obtain ⟨i, c, d, hc, hd, hne, hascii⟩ := h
  intro hsame
  have hletter := congrArg (·[i]?) hsame
  simp only [List.getElem?_map, hc, hd, Option.map_some, Option.some.injEq] at hletter
  by_cases hlow : c.toNat < 128
  · exact hne (eq_of_toLower_eq hletter.symm fun h => hascii ⟨hlow, h⟩).symm
  · exact hne (eq_of_toLower_eq hletter hlow)

/-! ### The lookup -/

/-- A live user has an address, up to the case of ASCII letters. -/
structure HasAddress (s : Store) (email : Text) (r : Row UserData) : Prop where
  mem : r ∈ s.users
  live : r.isLive = true
  same : ∃ address, email = Text.ofString address ∧ SameAddress r.data.email address

variable {s : Store} {email : Text} {id : String} {now : Instant}

theorem DiffersBeyondAscii.not_hasAddress {r : Row UserData} {address : String}
    (h : DiffersBeyondAscii r.data.email address) : ¬ s.HasAddress (Text.ofString address) r := by
  rintro ⟨-, -, address', haddress, hsame⟩
  cases Text.ofString_injective haddress
  exact h.not_sameAddress hsame

/-- Without U+0000 the holders of an address are the live users who have it. -/
theorem holds_iff {address other : String} (hnul : '\x00' ∉ address.toList) :
    s.Holds other address ↔ ∃ r, s.HasAddress (Text.ofString address) r ∧ r.id = other := by
  constructor
  · rintro ⟨r, hr, hid, hlive, hsame⟩
    exact ⟨r, ⟨hr, hlive, address, rfl, (noCaseSame_iff_sameAddress hnul).1 hsame⟩, hid⟩
  · rintro ⟨r, ⟨hr, hlive, address', haddress, hsame⟩, hid⟩
    cases Text.ofString_injective haddress
    exact ⟨r, hr, hid, hlive, hsame.noCaseSame⟩

/-- The lookup finds an address taken exactly if a live user other than the excepted one has it. -/
theorem Sound.emailTaken_iff (hs : s.Sound) (hnul : Point.char '\x00' ∉ email)
    (except : Option String) : Service.emailTaken s email except = .ok true ↔
      ∃ r, s.HasAddress email r ∧ some r.id ≠ except := by
  by_cases hstring : ∃ address, email = Text.ofString address
  · obtain ⟨address, rfl⟩ := hstring
    have hnul : '\x00' ∉ address.toList := fun h => hnul (List.mem_map_of_mem h)
    obtain ⟨taken, htaken, hiff⟩ := hs.emailTaken_eq address except
    rw [htaken, Except.ok.injEq, hiff]
    constructor
    · rintro ⟨other, hne, hother⟩
      obtain ⟨r, hr, rfl⟩ := (holds_iff hnul).1 hother
      exact ⟨r, hr, hne⟩
    · rintro ⟨r, hr, hne⟩
      exact ⟨r.id, hne, (holds_iff hnul).2 ⟨r, hr, rfl⟩⟩
  · -- With a lone half it cannot be looked up, and nobody has it.
    constructor
    · intro htaken
      obtain ⟨found, hfound, -⟩ := map_eq_ok.1 htaken
      obtain ⟨-, -, hfound⟩ := bind_eq_ok.1 hfound
      obtain ⟨address, haddress, -⟩ := bind_eq_ok.1 hfound
      exact absurd ⟨address, bind_eq_ok_iff.1 haddress⟩ hstring
    · rintro ⟨r, hr, -⟩
      obtain ⟨address, haddress, -⟩ := hr.same
      exact absurd ⟨address, haddress⟩ hstring

/-! ### The index -/

/-- The index finds no clash for an address that no other live user has. -/
theorem Sound.emailClash_of_free (hs : s.Sound) {address : String} (hnul : '\x00' ∉ address.toList)
    (hfree : ¬ ∃ r, s.HasAddress (Text.ofString address) r ∧ r.id ≠ id) :
    s.emailClash id address = false := by
  rw [← Bool.not_eq_true, hs.emailClash_iff]
  rintro ⟨other, hne, hother⟩
  obtain ⟨r, hr, rfl⟩ := (holds_iff hnul).1 hother
  exact hfree ⟨r, hr, hne⟩

/-! ### Conflicts -/

/-- A step that comes to no conflict, followed by one that does not. -/
theorem bind_ne_conflict {α β : Type} {x : StoreResult α} {f : α → StoreResult β}
    (hx : x ≠ .error .conflict) (hf : ∀ a, x = .ok a → f a ≠ .error .conflict) :
    (x >>= f) ≠ .error .conflict := by
  intro h
  rcases bind_eq_error.1 h with h | ⟨a, ha, h⟩
  · exact hx h
  · exact hf a ha h

theorem map_ne_conflict {α β : Type} {x : StoreResult α} (f : α → β) (hx : x ≠ .error .conflict) :
    x.map f ≠ .error .conflict := by
  cases x with
  | ok a => rintro ⟨⟩
  | error e => exact fun h => hx (congrArg _ (Except.error.inj h))

/-- A text or a number on its way into the store meets no conflict. -/
theorem bindOption_ne_conflict (t : Option Text) : bindOption t ≠ .error .conflict := by
  cases t with
  | none => rintro ⟨⟩
  | some t => refine map_ne_conflict _ ?_; rw [bind]; split <;> rintro ⟨⟩

theorem bindWholeOption_ne_conflict (n : Option Int) : bindWholeOption n ≠ .error .conflict := by
  cases n with
  | none => rintro ⟨⟩
  | some n => refine map_ne_conflict _ ?_; rw [bindWhole]; split <;> rintro ⟨⟩

theorem bindChange_ne_conflict (c : Option (Option Text)) : bindChange c ≠ .error .conflict := by
  cases c with
  | none => rintro ⟨⟩
  | some t => exact map_ne_conflict _ (bindOption_ne_conflict t)

/-- The change of a text that does not take it away leaves one. -/
theorem changedPart_bindChange {c : Option (Option Text)} {part : Option (Option String)}
    (h : bindChange c = .ok part) (hc : c ≠ some none) (old : String) :
    ∃ new, changedPart old part = some new := by
  cases c with
  | none => cases h; exact ⟨old, rfl⟩
  | some t =>
    cases t with
    | none => exact absurd rfl hc
    | some t =>
      obtain ⟨bound, hbound, rfl⟩ := map_eq_ok.1 h
      obtain ⟨new, -, rfl⟩ := map_eq_ok.1 hbound
      exact ⟨new, rfl⟩

theorem bindUser_ne_conflict (fullname email hash : Text) (permissions : Int) :
    bindUser ⟨some fullname, some email, some hash, some permissions⟩ ≠ .error .conflict := by
  refine bind_ne_conflict (bindOption_ne_conflict _) fun name hname =>
    bind_ne_conflict (bindOption_ne_conflict _) fun address haddress =>
      bind_ne_conflict (bindOption_ne_conflict _) fun password hpassword =>
        bind_ne_conflict (bindWholeOption_ne_conflict _) fun whole hwhole => ?_
  obtain ⟨name, -, rfl⟩ := map_eq_ok.1 hname
  obtain ⟨address, -, rfl⟩ := map_eq_ok.1 haddress
  obtain ⟨password, -, rfl⟩ := map_eq_ok.1 hpassword
  obtain ⟨whole, -, rfl⟩ := map_eq_ok.1 hwhole
  rintro ⟨⟩

/-- A change of a user that takes no part away. -/
structure KeepsParts (c : UserChanges) : Prop where
  fullname : c.fullname ≠ some none
  email : c.email ≠ some none
  permissions : c.permissions ≠ some none

/-- A change that takes no part away meets no conflict if no other live user has the address. -/
theorem Sound.updateUser_ne_conflict (hs : s.Sound) {c : UserChanges}
    (hemail : c.email = some (some email)) (hkeeps : KeepsParts c)
    (hnul : Point.char '\x00' ∉ email)
    (hfree : ¬ ∃ r, s.HasAddress email r ∧ r.id ≠ id) (now : Instant) :
    s.updateUser (Text.ofString id) now c ≠ .error .conflict := by
  have hsome : ¬ c.isEmpty = true := by simp [UserChanges.isEmpty, hemail]
  rw [Store.updateUser, if_neg hsome, hs.ready.need.1, ok_bind, bind_ofString]
  refine bind_ne_conflict (bindChange_ne_conflict _) fun name hboundName =>
    bind_ne_conflict (bindChange_ne_conflict _) fun address hboundEmail =>
      bind_ne_conflict ?_ fun whole hwhole => ?_
  · cases c.permissions with
    | none => rintro ⟨⟩
    | some p => exact map_ne_conflict _ (bindWholeOption_ne_conflict p)
  · rw [ok_bind]
    cases findRow? s.users false id with
    | none => rintro ⟨⟩
    | some r =>
      obtain ⟨newName, hnewName⟩ := changedPart_bindChange hboundName hkeeps.fullname r.data.fullname
      rw [hemail] at hboundEmail
      obtain ⟨bound, hbound, rfl⟩ := map_eq_ok.1 hboundEmail
      obtain ⟨newEmail, hnewEmail, rfl⟩ := map_eq_ok.1 hbound
      obtain rfl := bind_eq_ok_iff.1 hnewEmail
      obtain ⟨newWhole, hnewWhole⟩ : ∃ new, changedPart r.data.permissions whole = some new := by
        cases hgiven : c.permissions with
        | none => rw [hgiven] at hwhole; cases hwhole; exact ⟨_, rfl⟩
        | some p =>
          cases p with
          | none => exact absurd hgiven hkeeps.permissions
          | some n =>
            rw [hgiven] at hwhole
            obtain ⟨bound, hbound, rfl⟩ := map_eq_ok.1 hwhole
            obtain ⟨new, -, rfl⟩ := map_eq_ok.1 hbound
            exact ⟨new, rfl⟩
      have hclash : s.emailClash id newEmail = false :=
        hs.emailClash_of_free (fun h => hnul (List.mem_map_of_mem h)) hfree
      dsimp only
      rw [hnewName, hnewWhole, changedPart]
      dsimp only
      rw [hclash, if_neg (by decide)]
      rintro ⟨⟩

end Store

namespace Service

open Store

variable {s m : Service} {v : Visit} {email : Text} {data : Json} {now : Instant}

/-- A new user meets no conflict if no live user has the address. -/
theorem addUser_ne_conflict (hs : s.store.Sound) (hissued : s.Issued) (hnul : Point.char '\x00' ∉ email)
    (hfree : ¬ ∃ r, s.store.HasAddress email r) (now : Instant) (fullname hash : Text)
    (permissions : Int) :
    (s.addUser now ⟨some fullname, some email, some hash, some permissions⟩).2
      ≠ .error .conflict := by
  cases hdata : bindUser ⟨some fullname, some email, some hash, some permissions⟩ with
  | ok data =>
    obtain ⟨-, hemail, -, -⟩ := bindUser_eq_ok hdata
    obtain rfl := Option.some.inj hemail
    have hnobody : s.store.candidates data.email = [] := by
      refine List.eq_nil_iff_forall_not_mem.2 fun r hr => hfree ⟨r, ?_⟩
      obtain ⟨⟨hmem, hlive⟩, hsame⟩ := mem_candidates.1 hr
      have hnul : '\x00' ∉ data.email.toList := fun h => hnul (List.mem_map_of_mem h)
      exact ⟨hmem, hlive, data.email, rfl, (noCaseSame_iff_sameAddress hnul).1 hsame⟩
    rw [addUser_free hs hissued hdata hnobody]
    rintro ⟨⟩
  | error f =>
    have hne : f ≠ .conflict := by
      rintro rfl
      exact bindUser_ne_conflict _ _ _ _ hdata
    have hmade : s.store.createUser s.fresh.nextId now
        ⟨some fullname, some email, some hash, some permissions⟩ = .error f := by
      rw [Store.createUser, hs.ready.need.1, ok_bind, hdata]
      rfl
    rw [addUser, hmade]
    exact fun h => hne (Except.error.inj h)

/-- The lookup for a new user agrees with the index, since nobody has the id that is next. -/
theorem emailTaken_new (hs : s.store.Sound) (hissued : s.Issued) (address : String) :
    emailTaken s.store (Text.ofString address) none
      = .ok (s.store.emailClash s.fresh.nextId address) := by
  obtain ⟨taken, htaken, hiff⟩ := hs.emailTaken_eq address none
  rw [htaken]
  refine congrArg _ (Bool.eq_iff_iff.2 ?_)
  rw [hiff, hs.emailClash_iff]
  constructor
  · rintro ⟨other, -, hother⟩
    obtain ⟨r, hr, rfl, -⟩ := id hother
    exact ⟨r.id, users_ne hissued.nextId r hr, hother⟩
  · rintro ⟨other, -, hother⟩
    exact ⟨other, nofun, hother⟩

/-! ### New users -/

theorem nul_strip {sent : Text} (h : Point.char '\x00' ∉ sent) :
    Point.char '\x00' ∉ Text.strip sent := fun hin => h ((trimBoth_sublist _ _).subset hin)

/-- The address of an account that is read is the one that was sent, stripped. -/
theorem readAccount_email {a : NewAccount} {sent : Text} (h : readAccount data = .ok a)
    (hsent : data.get? "Email" = some (.text sent)) : a.email = Text.strip sent :=
  (readAccount_eq_ok h hsent (Json.get?_of_getD (readAccount_password h).1 nofun)).1

/-- Adding an account with an address that nobody has ends in no conflict. -/
theorem addAccount_status (hs : s.store.Sound) (hissued : s.Issued) {a : NewAccount}
    (hnul : Point.char '\x00' ∉ a.email) (hfree : ¬ ∃ r, s.store.HasAddress a.email r) :
    (s.addAccount v a).2.status ≠ 409 := by
  rw [addAccount]
  cases Password.hash a.password with
  | error f => rintro ⟨⟩
  | ok hash =>
    have hne := addUser_ne_conflict hs hissued hnul hfree v.now a.fullname (Text.ofString hash)
      a.permissions
    dsimp only
    split
    · rename_i hmade; rw [hmade] at hne; exact absurd rfl hne
    · rintro ⟨⟩
    · rintro ⟨⟩

/-- A new user is refused for the address exactly if all that is sent passes and a live user has the
address. -/
theorem createUser_conflict_iff (hs : s.store.Sound) (hissued : s.Issued) {caller : Caller} {sent : Text}
    (hcaller : s.permitted v Registry.adminName = .ok caller) (hdata : v.request.object? = some data)
    (hsent : data.get? "Email" = some (.text sent)) (hnul : Point.char '\x00' ∉ sent) :
    (s.createUser v).2.status = 409 ↔
      (∃ a, readAccount data = .ok a) ∧ ∃ r, s.store.HasAddress (Text.strip sent) r := by
  rw [createUser, guarded, hcaller]
  dsimp only
  rw [hdata]
  dsimp only
  cases hread : readAccount data with
  | error c =>
    constructor
    · rintro ⟨⟩
    · rintro ⟨⟨a, ⟨⟩⟩, -⟩
  | ok a =>
    have hemail := readAccount_email hread hsent
    have hnul' : Point.char '\x00' ∉ a.email := hemail ▸ nul_strip hnul
    have htaken : emailTaken s.store a.email none = .ok true ↔ ∃ r, s.store.HasAddress a.email r := by
      rw [hs.emailTaken_iff hnul']
      simp
    rw [← hemail, ← htaken]
    dsimp only
    cases hlooked : emailTaken s.store a.email none with
    | error f =>
      constructor
      · rintro ⟨⟩
      · rintro ⟨-, ⟨⟩⟩
    | ok taken =>
      rw [hlooked] at htaken
      cases taken with
      | true => exact ⟨fun _ => ⟨⟨a, rfl⟩, rfl⟩, fun _ => rfl⟩
      | false =>
        have hfree : ¬ ∃ r, s.store.HasAddress a.email r := fun h => by cases htaken.2 h
        constructor
        · exact fun h => absurd h (addAccount_status hs hissued hnul' hfree)
        · rintro ⟨-, ⟨⟩⟩

/-! ### Changes of users -/

section Change

variable {store t : Store} {id : String} {changes : UserChanges} {password : Option Text} {sent : Text}

/-- The address is refused exactly if it passes and another live user has it. -/
theorem readEmail_inUse_iff (hs : store.Sound) (hsent : data.get? "Email" = some (.text sent))
    (hnul : Point.char '\x00' ∉ sent) : readEmail store id data = .error .emailInUse ↔
      Check.email (.text (Text.strip sent)) = .ok () ∧
        ∃ r, store.HasAddress (Text.strip sent) r ∧ r.id ≠ id := by
  have htaken := hs.emailTaken_iff (nul_strip hnul) (some id)
  simp only [ne_eq, Option.some.injEq] at htaken ⊢
  rw [readEmail, hsent]
  dsimp only [tidyEmail, textOf]
  cases Check.email (.text (Text.strip sent)) with
  | error c =>
    constructor
    · rintro ⟨⟩
    · rintro ⟨⟨⟩, -⟩
  | ok _ =>
    dsimp only
    rw [← htaken]
    cases emailTaken store (Text.strip sent) (some id) with
    | error f =>
      constructor
      · rintro ⟨⟩
      · rintro ⟨-, ⟨⟩⟩
    | ok taken =>
      cases taken with
      | true => exact ⟨fun _ => ⟨rfl, rfl⟩, fun _ => rfl⟩
      | false =>
        constructor
        · rintro ⟨⟩
        · rintro ⟨-, ⟨⟩⟩

theorem readName_complains {f : ChangeFault} (h : readName data = .error f) :
    ∃ c, f = .complaint c := by
  rw [readName] at h
  split at h
  · cases h
  · split at h <;> cases h
    exact ⟨_, rfl⟩

theorem readPermissions_complains {f : ChangeFault} (h : readPermissions data = .error f) :
    ∃ c, f = .complaint c := by
  rw [readPermissions] at h
  split at h
  · cases h
  · split at h <;> cases h
    exact ⟨_, rfl⟩

theorem readPassword_complains {f : ChangeFault} (h : readPassword data = .error f) :
    ∃ c, f = .complaint c := by
  rw [readPassword] at h
  split at h
  · cases h
  · split at h <;> cases h
    exact ⟨_, rfl⟩

/-- Changes are refused for the address exactly if the name, which is read first, passes, and the
address is refused. -/
theorem readUserChanges_inUse_iff : readUserChanges store id data = .error .emailInUse ↔
    (∃ name, readName data = .ok name) ∧ readEmail store id data = .error .emailInUse := by
  constructor
  · intro h
    rcases bind_eq_error.1 h with h | ⟨name, hname, h⟩
    · obtain ⟨c, hc⟩ := readName_complains h; cases hc
    refine ⟨⟨name, hname⟩, ?_⟩
    rcases bind_eq_error.1 h with h | ⟨email, -, h⟩
    · exact h
    rcases bind_eq_error.1 h with h | ⟨permissions, -, h⟩
    · obtain ⟨c, hc⟩ := readPermissions_complains h; cases hc
    rcases bind_eq_error.1 h with h | ⟨password, -, h⟩
    · obtain ⟨c, hc⟩ := readPassword_complains h; cases hc
    dsimp only at h
    split at h <;> cases h
  · rintro ⟨⟨name, hname⟩, hemail⟩
    rw [readUserChanges, hname, ok_bind, hemail]
    rfl

/-- Changes that are read take no part away. -/
theorem readUserChanges_keepsParts (h : readUserChanges store id data = .ok (changes, password)) :
    KeepsParts changes := by
  obtain ⟨hname, hemail, hpermissions, -, -⟩ := readUserChanges_eq_ok.1 h
  constructor <;> intro hnone
  · rw [hnone, readName] at hname
    split at hname
    · cases hname
    · split at hname <;> cases hname
  · rw [hnone, readEmail] at hemail
    split at hemail
    · cases hemail
    · dsimp only at hemail
      split at hemail
      · cases hemail
      · split at hemail <;> cases hemail
  · rw [hnone, readPermissions] at hpermissions
    split at hpermissions
    · cases hpermissions
    · split at hpermissions <;> cases hpermissions

/-- An address that is read is the one that was sent, stripped, and was not found taken. -/
theorem readEmail_free {part : Option (Option Text)} (h : readEmail store id data = .ok part)
    (hsent : data.get? "Email" = some (.text sent)) : part = some (some (Text.strip sent)) ∧
      emailTaken store (Text.strip sent) (some id) = .ok false := by
  rw [readEmail, hsent] at h
  dsimp only [tidyEmail, textOf] at h
  split at h
  · cases h
  · split at h <;> cases h
    exact ⟨rfl, by assumption⟩

/-- Changes that are read with an address meet no conflict. -/
theorem storeChanges_ne_conflict (hs : store.Sound) (hsent : data.get? "Email" = some (.text sent))
    (hnul : Point.char '\x00' ∉ sent)
    (hread : readUserChanges store v.id data = .ok (changes, password)) {reply : Reply}
    (h : storeChanges store v changes = .error reply) : reply.status ≠ 409 := by
  obtain ⟨-, hemail, -, -, -⟩ := readUserChanges_eq_ok.1 hread
  obtain ⟨hstripped, hfree⟩ := readEmail_free hemail hsent
  have htaken := hs.emailTaken_iff (nul_strip hnul) (some v.id)
  simp only [hfree, ne_eq, Option.some.injEq, Except.ok.injEq, Bool.false_eq_true, false_iff]
    at htaken
  rw [storeChanges] at h
  split at h
  · cases h
  · split at h
    · rename_i f hfault
      cases h
      have hne := hs.updateUser_ne_conflict hstripped (readUserChanges_keepsParts hread)
        (nul_strip hnul) htaken v.now
      rw [← Visit.key, hfault] at hne
      cases f with
      | conflict => exact absurd rfl hne
      | _ => rintro ⟨⟩
    · cases h

theorem storeNewPassword_ne_conflict (hs : store.Sound) {reply : Reply}
    (h : storeNewPassword store v password = .error reply) : reply.status ≠ 409 := by
  cases password with
  | none => cases h
  | some p =>
    rw [storeNewPassword] at h
    cases hhash : Password.hash p with
    | error f => rw [hhash] at h; cases h; decide
    | ok hash =>
      obtain ⟨made, hmade⟩ := hs.updatePassword v.id v.now hash
      rw [hhash] at h
      dsimp only at h
      rw [Visit.key, hmade] at h
      cases h

/-- The change of a live user is refused for the address exactly if the name and the address pass and
another live user has the address. -/
theorem changeUser_conflict_iff (hs : s.store.Sound) (hnow : InEra v.now)
    (hsent : data.get? "Email" = some (.text sent)) (hnul : Point.char '\x00' ∉ sent) :
    (s.changeUser v data).2.status = 409 ↔
      (∃ name, readName data = .ok name) ∧ Check.email (.text (Text.strip sent)) = .ok () ∧
        ∃ r, s.store.HasAddress (Text.strip sent) r ∧ r.id ≠ v.id := by
  rw [← readEmail_inUse_iff hs hsent hnul, ← readUserChanges_inUse_iff, changeUser]
  cases hread : readUserChanges s.store v.id data with
  | error f =>
    rw [Except.error.injEq]
    cases f with
    | emailInUse => exact ⟨fun _ => rfl, fun _ => rfl⟩
    | _ => constructor <;> rintro ⟨⟩
  | ok read =>
    obtain ⟨changes, password⟩ := read
    refine ⟨fun h => absurd h ?_, by rintro ⟨⟩⟩
    dsimp only
    cases hstore : storeChanges s.store v changes with
    | error reply => exact storeChanges_ne_conflict hs hsent hnul hread hstore
    | ok t =>
      dsimp only
      cases hpassword : storeNewPassword t v password with
      | error reply =>
        exact storeNewPassword_ne_conflict ((storeChanges_writes hstore).sound hnow hs) hpassword
      | ok final =>
        dsimp only
        split <;> rintro ⟨⟩

/-- So is the change that somebody asks for who may do so, if there is such a live user. -/
theorem updateUser_conflict_iff (hs : s.store.Sound) (hnow : InEra v.now) {caller : Caller}
    (hcaller : s.permitted v Registry.adminName = .ok caller) (hdata : v.request.object? = some data)
    (hsent : data.get? "Email" = some (.text sent)) (hnul : Point.char '\x00' ∉ sent) :
    (s.updateUser v).2.status = 409 ↔ (∃ row, findRow? s.store.users false v.id = some row) ∧
      (∃ name, readName data = .ok name) ∧ Check.email (.text (Text.strip sent)) = .ok () ∧
        ∃ r, s.store.HasAddress (Text.strip sent) r ∧ r.id ≠ v.id := by
  rw [updateUser, guarded, hcaller]
  dsimp only
  rw [hdata]
  dsimp only
  rw [Visit.key, hs.user?]
  cases hfound : findRow? s.store.users false v.id with
  | none =>
    constructor
    · rintro ⟨⟩
    · rintro ⟨⟨row, ⟨⟩⟩, -⟩
  | some row =>
    refine (changeUser_conflict_iff hs hnow hsent hnul).trans ⟨fun h => ⟨⟨row, rfl⟩, h⟩, And.right⟩

/-! ### The own address -/

/-- Nothing but an address is sent. -/
structure SendsOnlyEmail (data : Json) (sent : Text) : Prop where
  email : data.get? "Email" = some (.text sent)
  fullname : data.get? "Fullname" = none
  permissions : data.get? "Permissions" = none
  password : data.getD "Password" = .null

/-- An address that is the own one up to the case of ASCII letters is nobody else's. -/
theorem emailClash_own (hs : store.Sound) {row : Row UserData} {address : String}
    (hrow : findRow? store.users false id = some row) (hsame : SameAddress row.data.email address) :
    store.emailClash id address = false := by
  obtain ⟨hmem, hid, hlive⟩ := findRow?_live hrow
  rw [← Bool.not_eq_true, hs.emailClash_iff]
  rintro ⟨other, hne, hother⟩
  exact hne (hs.holder_unique hother ⟨row, hmem, hid, hlive, hsame.noCaseSame⟩)

/-- The address of a live user is changed, alone, if nobody else has the new one. -/
theorem changeUser_email (hs : s.store.Sound) (hnow : InEra v.now) {row : Row UserData}
    {address : String} (hrow : findRow? s.store.users false v.id = some row)
    (hsends : SendsOnlyEmail data sent) (hcheck : Check.email (.text (Text.strip sent)) = .ok ())
    (haddress : Text.strip sent = Text.ofString address)
    (hfree : s.store.emailClash v.id address = false) : s.changeUser v data
      = (s.withStore (s.store.withUserData v.id v.now { row.data with email := address }),
        userReply 200 (revised v.now (fun _ => { row.data with email := address }) row).item) := by
  have hparts : PartsApply data row.data { row.data with email := address } := by
    refine ⟨?_, ?_, ?_⟩
    · rw [hsends.fullname]; rfl
    · rw [hsends.email]; exact ⟨hcheck, congrArg _ haddress⟩
    · rw [hsends.permissions]; rfl
  obtain ⟨changes, hread, hstore⟩ := storeChanges_of_applies hs hrow
    (.inr (.inl (by rw [hsends.email]; rintro ⟨⟩))) hparts rfl hfree
    (readPassword_eq_ok.2 (.inl ⟨rfl, hsends.password⟩))
  have ht := (storeChanges_writes hstore).sound hnow hs
  rw [changeUser, hread]
  dsimp only
  rw [hstore]
  exact reread_user s ht (findRow?_withUserData hrow v.now _)

/-- The own address is changed to one that differs only in the case of ASCII letters. -/
theorem updateUser_own_email (hs : s.store.Sound) (hnow : InEra v.now) {caller : Caller}
    {row : Row UserData} {address : String}
    (hcaller : s.permitted v Registry.adminName = .ok caller) (hdata : v.request.object? = some data)
    (hrow : findRow? s.store.users false v.id = some row) (hsends : SendsOnlyEmail data sent)
    (hcheck : Check.email (.text (Text.strip sent)) = .ok ())
    (haddress : Text.strip sent = Text.ofString address)
    (hsame : SameAddress row.data.email address) :
    (s.updateUser v).2.status = 200 ∧ (s.updateUser v).1.store
      = s.store.withUserData v.id v.now { row.data with email := address } := by
  rw [updateUser_of_live hs hcaller hdata hrow, changeUser_email hs hnow hrow hsends hcheck haddress (emailClash_own hs hrow hsame)]
  exact ⟨rfl, rfl⟩

end Change

/-! ### Requests -/

/-- A request sends an address to a handler, without U+0000 and from somebody who may do so. -/
structure SendsEmail (s : Service) (now : Instant) (r : Request) (e : Endpoint) (m : Service)
    (v : Visit) (data : Json) (sent : Text) : Prop where
  arrives : s.arrival? now r = some (m, e, v)
  permitted : ∃ caller, m.permitted v Registry.adminName = .ok caller
  content : r.object? = some data
  sends : data.get? "Email" = some (.text sent)
  plain : Point.char '\x00' ∉ sent

/-- In every state that a service gets into, a request for a new user meets a conflict exactly if
everything that it sends passes and a live user has its address, and a request to change a user
exactly if there is such a live user, the name and the address pass, and another live user has the
address. An address that no live user has, or none but the one who is changed, never meets a conflict in
the store, and the lookup finds what the index finds. So everybody can change the case of the own
address, and nobody has an address that differs from theirs in letters beyond ASCII. -/
theorem email_check_agrees {policy : Policy} {settings : Settings} {platform : String}
    {begin now : Instant} {first s : Service} {r : Request} (hbegin : InEra begin)
    (hstart : start policy settings platform begin = .ok first) (hreach : first.Reaches s)
    (hnow : InEra now) :
    (∀ address, emailTaken s.store (Text.ofString address) none
      = .ok (s.store.emailClash s.fresh.nextId address)) ∧
    (∀ address id, emailTaken s.store (Text.ofString address) (some id)
      = .ok (s.store.emailClash id address)) ∧
    (∀ m v data sent, s.SendsEmail now r .createUser m v data sent →
      ((s.handle now r).2.status = 409 ↔ (∃ a, readAccount data = .ok a) ∧
        ∃ u, s.store.HasAddress (Text.strip sent) u)) ∧
    (∀ email, Point.char '\x00' ∉ email → (¬ ∃ u, s.store.HasAddress email u) →
      ∀ t fullname hash permissions,
        (s.addUser t ⟨some fullname, some email, some hash, some permissions⟩).2
          ≠ .error .conflict) ∧
    (∀ m v data sent, s.SendsEmail now r .updateUser m v data sent →
      ((s.handle now r).2.status = 409 ↔
        (∃ row, findRow? s.store.users false v.id = some row) ∧
        (∃ name, readName data = .ok name) ∧ Check.email (.text (Text.strip sent)) = .ok () ∧
        ∃ u, s.store.HasAddress (Text.strip sent) u ∧ u.id ≠ v.id)) ∧
    (∀ email id (changes : UserChanges), Point.char '\x00' ∉ email →
      changes.email = some (some email) → KeepsParts changes →
      (¬ ∃ u, s.store.HasAddress email u ∧ u.id ≠ id) →
      ∀ t, s.store.updateUser (Text.ofString id) t changes ≠ .error .conflict) ∧
    (∀ m v data sent row address, s.SendsEmail now r .updateUser m v data sent →
      SendsOnlyEmail data sent → Check.email (.text (Text.strip sent)) = .ok () →
      findRow? s.store.users false v.id = some row → Text.strip sent = Text.ofString address →
      SameAddress row.data.email address →
      (s.handle now r).2.status = 200 ∧ (s.handle now r).1.store
        = s.store.withUserData v.id now { row.data with email := address }) ∧
    ∀ u address, DiffersBeyondAscii u.data.email address →
      ¬ s.store.HasAddress (Text.ofString address) u := by
  have hs : s.store.Sound := (hreach.sound (start_sound hbegin hstart)).store
  have hissued : s.Issued := hreach.issued (start_issued hstart)
  refine ⟨emailTaken_new hs hissued, hs.emailTaken, ?_, fun email hnul hfree t fullname hash permissions =>
    addUser_ne_conflict hs hissued hnul hfree t fullname hash permissions, ?_,
    fun email id changes hnul hemail hkeeps hfree t =>
      hs.updateUser_ne_conflict hemail hkeeps hnul hfree t, ?_,
    fun u address hdiffer => hdiffer.not_hasAddress⟩
  · intro m v data sent h
    obtain ⟨caller, hcaller⟩ := h.permitted
    obtain ⟨-, hrequest, -⟩ := arrival?_visit h.arrives
    have hsame := arrival?_same h.arrives
    have hissued' : m.Issued := by rw [Issued, hsame.store, hsame.fresh]; exact hissued
    rw [(handle_arrived h.arrives).2, ← hsame.store]
    exact createUser_conflict_iff (hsame.store ▸ hs) hissued' hcaller (hrequest ▸ h.content) h.sends
      h.plain
  · intro m v data sent h
    obtain ⟨caller, hcaller⟩ := h.permitted
    obtain ⟨rfl, hrequest, -⟩ := arrival?_visit h.arrives
    have hsame := arrival?_same h.arrives
    rw [(handle_arrived h.arrives).2, ← hsame.store]
    exact updateUser_conflict_iff (hsame.store ▸ hs) hnow hcaller (hrequest ▸ h.content) h.sends
      h.plain
  · intro m v data sent row address h honly hcheck hrow haddress hown
    obtain ⟨caller, hcaller⟩ := h.permitted
    obtain ⟨rfl, hrequest, -⟩ := arrival?_visit h.arrives
    have hsame := arrival?_same h.arrives
    obtain ⟨hleft, hstatus⟩ := handle_arrived h.arrives
    rw [hleft, hstatus, ← hsame.store]
    exact updateUser_own_email (hsame.store ▸ hs) hnow hcaller (hrequest ▸ h.content)
      (hsame.store ▸ hrow) honly hcheck haddress hown

/-! ### The address of the first administrator -/

/-- A request of an administrator that has an address in it sends that address. -/
theorem sendsEmail_of_arrival {r : Request} {e : Endpoint} {sent : Text}
    (harrives : (s.arrival? now r).any (mayAsk e Registry.adminName) = true)
    (hdata : r.object? = some data)
    (hsent : (data.get? "Email").map textOf = some sent) (hsome : sent ≠ [])
    (hplain : Point.char '\x00' ∉ sent) : ∃ m v, s.SendsEmail now r e m v data sent := by
  obtain ⟨⟨m, e', v⟩, harrival, hmay⟩ := (Option.any_eq_true _ _).1 harrives
  obtain ⟨rfl, hpermitted⟩ := mayAsk_iff.1 hmay
  obtain ⟨value, hvalue, rfl⟩ := Option.map_eq_some_iff.1 hsent
  rw [eq_text_of_textOf hsome] at hvalue
  exact ⟨m, v, harrival, hpermitted, hdata, hvalue, hplain⟩

/-- The first administrator sends the own address in capitals. -/
def ownCapitals : Request := ownChange "\x7b\"Email\":\"ADMIN@EXAMPLE.COM\"\x7d"

/-- It is refused for a new user, and accepted as the own one. -/
theorem email_check_agrees_capitals :
    ∃ first row, start (.ofProfile .testing .standard) .standard "" 0 = .ok first ∧
      (first.handle 0 (accountRequest "ADMIN@EXAMPLE.COM")).2.status = 409 ∧
      findRow? first.store.users false (Fresh.idText 1) = some row ∧
      (first.handle 0 ownCapitals).2.status = 200 ∧
      (first.handle 0 ownCapitals).1.store = first.store.withUserData (Fresh.idText 1) 0
        { row.data with email := "ADMIN@EXAMPLE.COM" } := by
  have hplain : Point.char '\x00' ∉ Text.ofString "ADMIN@EXAMPLE.COM" := by decide +kernel
  have hsome : Text.ofString "ADMIN@EXAMPLE.COM" ≠ [] := by decide
  have hstrip : Text.strip (Text.ofString "ADMIN@EXAMPLE.COM") = Text.ofString "ADMIN@EXAMPLE.COM" := by
    decide +kernel
  obtain ⟨first, hstart, hadd, hchange⟩ :
      ∃ first, start (.ofProfile .testing .standard) .standard "" 0 = .ok first ∧
        (first.arrival? 0 (accountRequest "ADMIN@EXAMPLE.COM")).any
          (mayAsk .createUser Registry.adminName) = true ∧
        (first.arrival? 0 ownCapitals).any (mayAsk .updateUser Registry.adminName) = true :=
    ⟨_, rfl, by decide +kernel, by decide +kernel⟩
  obtain ⟨-, hash, -, husers⟩ := start_users hstart
  have hrow : findRow? first.store.users false (Fresh.idText 1) = some
      (.newRow (Fresh.idText 1) (seedData .standard hash) 0) := by rw [husers]; rfl
  have hsame : SameAddress (seedData .standard hash).email "ADMIN@EXAMPLE.COM" := by
    change SameAddress "admin@example.com" _
    decide
  have hfit : Check.email (.text (Text.ofString "ADMIN@EXAMPLE.COM")) = .ok () := rfl
  refine ⟨first, _, hstart, ?_, hrow, ?_⟩
  · obtain ⟨data, hdata, hread⟩ := Option.map_eq_some_iff.1 (show
      (accountRequest "ADMIN@EXAMPLE.COM").object?.map (fun d =>
        ((readAccount d).toOption.isSome, (d.get? "Email").map textOf))
        = some (true, some (Text.ofString "ADMIN@EXAMPLE.COM")) by decide +kernel)
    rw [Prod.mk.injEq, Option.isSome_iff_exists] at hread
    obtain ⟨⟨account, haccount⟩, hsent⟩ := hread
    obtain ⟨m, v, hsends⟩ := sendsEmail_of_arrival hadd hdata hsent hsome hplain
    obtain ⟨-, -, hnew, -⟩ := email_check_agrees inEra_zero hstart .refl inEra_zero
    obtain ⟨hmem, -, hlive⟩ := findRow?_live hrow
    exact (hnew m v data _ hsends).2
      ⟨⟨account, toOption_eq_some.1 haccount⟩, _, hmem, hlive, _, hstrip, hsame⟩
  · obtain ⟨data, hdata, hread⟩ := Option.map_eq_some_iff.1 (show
      ownCapitals.object?.map (fun d => ((d.get? "Email").map textOf, (d.get? "Fullname").isNone,
        (d.get? "Permissions").isNone, (d.getD "Password").isNull))
        = some (some (Text.ofString "ADMIN@EXAMPLE.COM"), true, true, true) by decide +kernel)
    simp only [Prod.mk.injEq, Option.isNone_iff_eq_none] at hread
    obtain ⟨hsent, hname, hpermissions, hpassword⟩ := hread
    obtain ⟨m, v, hsends⟩ := sendsEmail_of_arrival hchange hdata hsent hsome hplain
    obtain ⟨-, -, -, -, -, -, hown, -⟩ := email_check_agrees inEra_zero hstart .refl inEra_zero
    have hid : v.id = Fresh.idText 1 := by
      have hfound : find ownCapitals.target.path ownCapitals.method
          = .handler .updateUser (Fresh.idText 1) := by decide +kernel
      exact (Found.handler.inj ((arrival?_found hsends.arrives).symm.trans hfound)).2
    have hnull : data.getD "Password" = .null := by
      cases hvalue : data.getD "Password" with
      | null => rfl
      | _ => rw [hvalue] at hpassword; cases hpassword
    rw [← hid] at hrow ⊢
    exact hown m v data _ _ _ hsends ⟨hsends.sends, hname, hpermissions, hnull⟩
      (hstrip.symm ▸ hfit) hrow hstrip hsame

end Service

end Pressroom
