import Pressroom.Proofs.Json.Object
import Pressroom.Proofs.Access.Resolution
import Pressroom.Proofs.Service.Tokens
import Pressroom.Proofs.Service.UserChange

/-!
Handlers that never fail. A handler that hashes no password answers something other than a failure,
whatever it is sent, as long as the texts in it have no lone halves. Every value is checked before it is
used, so what reaches the store can be stored; the id and the digest that come next are in no table; and
what has been stored is there when it is read back. `dispatch_answers` says so for all of them at once.
-/
namespace Pressroom

open Web

/-- No text among the members has a lone half. -/
def Json.Unbroken (data : Json) : Prop :=
  ∀ name t, data.get? name = some (.text t) → t.Unbroken

/-- A member that reads as a text is there. -/
theorem Json.Unbroken.getD {data : Json} (h : data.Unbroken) {name : String} {t : Text}
    (ht : data.getD name = .text t) : t.Unbroken := h name t (Json.get?_of_getD ht nofun)

/-- Neither the name nor the address among the members has a lone half. -/
def Json.NamesUnbroken (data : Json) : Prop :=
  ∀ name ∈ ["Fullname", "Email"], ∀ t, data.get? name = some (.text t) → t.Unbroken

theorem Json.Unbroken.names {data : Json} (h : data.Unbroken) : data.NamesUnbroken :=
  fun name _ => h name

namespace Service

open Store

variable {s m : Service} {v : Visit} {now : Instant} {r : Request} {data : Json}

/-! ### Guards of the handlers -/

/-- Somebody who is not known is told so. -/
theorem caller_answers (hs : s.store.Sound) {reply : Reply} (h : s.caller v = .error reply) :
    reply.status ≠ 500 := by
  rw [caller] at h
  split at h
  · rename_i token _
    split at h
    · cases h; rintro ⟨⟩
    · obtain ⟨answer, hanswer, -⟩ := Account.resolve_answers hs token none v.now
      have hanswer : Account.resolve s.store token (Account.reachedAt v.now) = .ok answer := hanswer
      rw [hanswer] at h
      cases answer with
      | ok user => cases h
      | error why => cases why <;> (cases h; rintro ⟨⟩)
  · split at h <;> cases h
    rintro ⟨⟩

theorem permitted_answers (hs : s.Sound) {e : Endpoint} {permission : String}
    (hguard : e.permission? = some permission) {reply : Reply}
    (h : s.permitted v permission = .error reply) : reply.status ≠ 500 := by
  obtain ⟨bit, hbit⟩ := hs.registry.knows hguard
  rw [permitted] at h
  split at h
  · rename_i hrefused; cases h; exact caller_answers hs.store hrefused
  · split at h
    · rename_i hunknown
      rw [Registry.has, Registry.valueOf, hbit] at hunknown
      split at hunknown <;> cases hunknown
    · cases h; rintro ⟨⟩
    · cases h

theorem tidyName_unbroken {sent : Json} (hsent : ∀ x, sent = .text x → x.Unbroken) :
    (textOf (tidyName sent)).Unbroken := by
  cases sent with
  | text x => exact (hsent x rfl).sublist (x.kept_sublist Check.fullnameMax)
  | _ => exact Text.unbroken_ofString ""

theorem tidyEmail_unbroken {sent : Json} (hsent : ∀ x, sent = .text x → x.Unbroken) :
    (textOf (tidyEmail sent)).Unbroken := by
  cases sent with
  | text x => exact (hsent x rfl).sublist (trimBoth_sublist _ _)
  | _ => exact Text.unbroken_ofString ""

/-- A name or an address that is read has no lone half, and permissions that are read fit. -/
theorem readUserChanges_storable (hdata : data.NamesUnbroken) {store : Store} {id : String}
    {changes : UserChanges} {password : Option Text}
    (h : readUserChanges store id data = .ok (changes, password)) : changes.Storable := by
  obtain ⟨hname, hemail, hpermissions, -, -⟩ := readUserChanges_eq_ok.1 h
  refine ⟨fun t ht => ?_, fun t ht => ?_, fun n hn => ?_⟩
  · rw [ht, readName] at hname
    split at hname
    · cases hname
    · rename_i sent hsent
      split at hname
      · cases hname
      · rename_i hcheck
        cases hname
        exact tidyName_unbroken fun x hx => hdata _ (by simp) x (hsent.trans (congrArg some hx))
  · rw [ht, readEmail] at hemail
    split at hemail
    · cases hemail
    · rename_i sent hsent
      split at hemail
      · cases hemail
      · dsimp only at hemail
        split at hemail <;> cases hemail
        exact tidyEmail_unbroken fun x hx => hdata _ (by simp) x (hsent.trans (congrArg some hx))
  · obtain ⟨hleast, hmost⟩ := readPermissions_fit (hpermissions.trans (congrArg Except.ok hn))
    rw [Check.permissionsMax] at hmost
    omega

/-- Whether somebody else has the address is always known. -/
theorem readEmail_answers {store : Store} (hs : store.Sound) (hdata : data.NamesUnbroken) {id : String} :
    readEmail store id data ≠ .error .store := by
  intro h
  rw [readEmail] at h
  split at h
  · cases h
  · rename_i sent hsent
    split at h
    · cases h
    · have hunbroken : (textOf (tidyEmail sent)).Unbroken :=
        tidyEmail_unbroken fun x hx => hdata _ (by simp) x (hsent.trans (congrArg some hx))
      obtain ⟨address, haddress⟩ := hunbroken.string
      dsimp only at h
      rw [haddress, hs.emailTaken] at h
      split at h
      · rename_i hfault; cases hfault
      · cases h
      · cases h

theorem readUserChanges_answers {store : Store} (hs : store.Sound) (hdata : data.NamesUnbroken)
    {id : String} {f : ChangeFault} (h : readUserChanges store id data = .error f) :
    f.reply.status ≠ 500 := by
  have hstore : f ≠ .store := by
    rintro rfl
    rcases bind_eq_error.1 h with hname | ⟨_, -, h⟩
    · rw [readName] at hname
      split at hname
      · cases hname
      · split at hname <;> cases hname
    · rcases bind_eq_error.1 h with hemail | ⟨_, -, h⟩
      · exact readEmail_answers hs hdata hemail
      · rcases bind_eq_error.1 h with hpermissions | ⟨_, -, h⟩
        · rw [readPermissions] at hpermissions
          split at hpermissions
          · cases hpermissions
          · split at hpermissions <;> cases hpermissions
        · rcases bind_eq_error.1 h with hpassword | ⟨_, -, h⟩
          · rw [readPassword] at hpassword
            split at hpassword
            · cases hpassword
            · split at hpassword <;> cases hpassword
          · dsimp only at h
            split at h <;> cases h
  cases f with
  | store => exact absurd rfl hstore
  | _ => rintro ⟨⟩

/-- Changes that can be stored are stored, or somebody else has the address. -/
theorem storeChanges_answers {store : Store} (hs : store.Sound) {changes : UserChanges}
    (hchanges : changes.Storable) {reply : Reply} (h : storeChanges store v changes = .error reply) :
    reply.status ≠ 500 := by
  rw [storeChanges] at h
  split at h
  · cases h
  · split at h
    · rename_i f hfault
      cases h
      rw [hs.updateUser hchanges hfault]
      rintro ⟨⟩
    · cases h

/-- The change of a user is made and read back, or refused, unless it comes to a password without a
hash. -/
theorem changeUser_fails (hs : s.store.Sound) (hnow : InEra v.now) {row : Row UserData}
    (hrow : findRow? s.store.users false v.id = some row) (hdata : data.NamesUnbroken)
    (hfails : (s.changeUser v data).2.status = 500) :
    ∃ changes p t, readUserChanges s.store v.id data = .ok (changes, some p) ∧
      storeChanges s.store v changes = .ok t ∧ Password.Hashless p := by
  rw [changeUser] at hfails
  cases hread : readUserChanges s.store v.id data with
  | error f =>
    rw [hread] at hfails
    exact absurd hfails (readUserChanges_answers hs hdata hread)
  | ok read =>
    obtain ⟨changes, password⟩ := read
    rw [hread] at hfails
    dsimp only at hfails
    cases hstore : storeChanges s.store v changes with
    | error reply =>
      rw [hstore] at hfails
      exact absurd hfails (storeChanges_answers hs (readUserChanges_storable hdata hread) hstore)
    | ok t =>
      rw [hstore] at hfails
      dsimp only at hfails
      have ht : t.Sound := (storeChanges_writes hstore).sound hnow hs
      obtain ⟨u, hfound⟩ : ∃ u, findRow? t.users false v.id = some u := by
        rcases storeChanges_applies hs hrow hread hstore with ⟨-, rfl⟩ | ⟨new, -, -, -, -, rfl⟩
        · exact ⟨row, hrow⟩
        · exact ⟨_, findRow?_withUserData hrow v.now new⟩
      cases password with
      | none =>
        have hreread := reread_user s ht hfound
        have hstatus := congrArg (fun a => a.2.status) hreread
        exact absurd (hstatus.symm.trans hfails) (by rintro ⟨⟩)
      | some p =>
        refine ⟨changes, p, t, rfl, hstore, Password.hash_fails_iff.1 ?_⟩
        have hstored := storeNewPassword_text ht hfound p
        cases hhash : Password.hash p with
        | error f => exact ⟨f, rfl⟩
        | ok hash =>
          rw [hhash] at hstored
          dsimp only at hstored
          have hfinal := (storeNewPassword_writes hstored).sound hnow ht
          have hreread := reread_user s hfinal (findRow?_withUserData hfound v.now _)
          rw [hstored] at hfails
          have hstatus := congrArg (fun a => a.2.status) hreread
          exact absurd (hstatus.symm.trans hfails) (by rintro ⟨⟩)

/-- An expiry that is read is less than a hundred years away from the clock, and fits into sixty-four
bits. -/
theorem readExpiry_storable (hnow : InEra now) {sent : Json} {expires : Option Int}
    (h : readExpiry now sent = .ok expires) :
    ∀ n ∈ expires, -0x8000000000000000 ≤ n ∧ n < 0x8000000000000000 := by
  rintro n rfl
  have hbegin : (1 - epochDay) * microsPerDay = -62135596800000000 := by decide +kernel
  have hend : (Calendar.lastDay + 1 - epochDay) * microsPerDay = 253402300800000000 := by
    decide +kernel
  have hseconds := Int.natAbs_tdiv_le_natAbs now microsPerSecond
  rw [InEra, hbegin, hend] at hnow
  obtain ⟨-, hnone⟩ | ⟨-, days, -, hleast, hmost, hexpires⟩ := readExpiry_eq_ok h
  · cases hnone
  · cases hexpires
    rw [maxDays] at hmost
    rw [Cookie.secondsOf, secondsPerDay]
    omega

end Service

end Pressroom
