import Pressroom.Proofs.Access.Mediation
import Pressroom.Proofs.Service.Lifecycle
import Pressroom.Proofs.Service.Seed

/-!
Whether somebody is left who may do everything. Only administrators change users other than by a new
password, and none of them can delete the own account. But an administrator can take the bit of
administrators off the own account, and nobody asks whether there is another one. `hasAdmin_iff` shows
that requests lose the last administrator in this way and in no other.
-/
namespace Pressroom

open Web

namespace Store

/-- A live user with the bit of administrators. -/
def IsAdmin (r : Row UserData) : Prop :=
  r.isLive = true ∧ Registry.carries r.data.permissions Registry.adminBit = true

instance (r : Row UserData) : Decidable (IsAdmin r) := inferInstanceAs (Decidable (_ ∧ _))

/-- Somebody is an administrator. -/
def HasAdmin (s : Store) : Prop := ∃ r ∈ s.users, IsAdmin r

instance (s : Store) : Decidable s.HasAdmin := inferInstanceAs (Decidable (∃ r ∈ s.users, _))

variable {s s' : Store} {now : Instant} {id : Text} {found : Bool}

theorem hasAdmin_congr (h : s'.users = s.users) : s'.HasAdmin ↔ s.HasAdmin := by
  rw [HasAdmin, h, HasAdmin]

/-- After a change of one user the administrator is this one or another one. -/
theorem hasAdmin_reviseRow (hs : s.Keyed) {r : Row UserData} (hr : r ∈ s.users)
    (f : Row UserData → Row UserData) :
    ({ s with users := reviseRow s.users r.id f } : Store).HasAdmin ↔
      IsAdmin (f r) ∨ ∃ x ∈ s.users, x.id ≠ r.id ∧ IsAdmin x := by
  have hmem : ∀ {x}, x ∈ reviseRow s.users r.id f ↔ x = f r ∨ x ∈ s.users ∧ x.id ≠ r.id :=
    mem_reviseRow (hs .user) hr
  constructor
  · rintro ⟨x, hx, hadmin⟩
    obtain rfl | ⟨hold, hid⟩ := hmem.1 hx
    · exact .inl hadmin
    · exact .inr ⟨x, hold, hid, hadmin⟩
  · rintro (hadmin | ⟨x, hx, hid, hadmin⟩)
    · exact ⟨f r, hmem.2 (.inl rfl), hadmin⟩
    · exact ⟨x, hmem.2 (.inr ⟨hx, hid⟩), hadmin⟩

/-- A change that leaves a user an administrator or none leaves the others their administrator. -/
theorem hasAdmin_reviseRow_same (hs : s.Keyed) {r : Row UserData} (hr : r ∈ s.users)
    {f : Row UserData → Row UserData} (hf : IsAdmin (f r) ↔ IsAdmin r) :
    ({ s with users := reviseRow s.users r.id f } : Store).HasAdmin ↔ s.HasAdmin := by
  rw [hasAdmin_reviseRow hs hr, hf]
  constructor
  · rintro (hadmin | ⟨x, hx, -, hadmin⟩)
    · exact ⟨r, hr, hadmin⟩
    · exact ⟨x, hx, hadmin⟩
  · rintro ⟨x, hx, hadmin⟩
    by_cases hid : x.id = r.id
    · rw [row_unique (hs .user) hx hr hid] at hadmin; exact .inl hadmin
    · exact .inr ⟨x, hx, hid, hadmin⟩

theorem updatePassword_hasAdmin (hs : s.Keyed) {password : Option Text}
    (h : s.updatePassword id now password = .ok (s', found)) : s'.HasAdmin ↔ s.HasAdmin := by
  obtain rfl | ⟨-, r, hash, hr, -, -, rfl⟩ := updatePassword_eq_ok h
  · exact .rfl
  · exact hasAdmin_reviseRow_same hs (findRow?_live hr).1 .rfl

end Store

namespace Service

open Store Registry

variable {s m : Service} {now : Instant} {r : Request} {e : Endpoint} {v : Visit}

/-! ### Who is an administrator -/

/-- Whoever gets through the guard of administrators is one. -/
theorem permitted_isAdmin (hknown : s.registry.Standard)
    (hv : v.now = now ∧ v.request = r ∧ v.session.user = (Cookie.sessionAt r.cookie now).user)
    {caller : Caller} (h : s.permitted v adminName = .ok caller) :
    ∃ row ∈ s.store.users, row.id = caller.user.id ∧ IsAdmin row := by
  obtain ⟨hsender, hgranted⟩ := permitted_granted hv h
  obtain ⟨row, hrow, hlive, hid, hdata⟩ := sender?_hasUser hsender
  refine ⟨row, hrow, hid.symm, hlive, ?_⟩
  rw [← hdata]
  obtain hadmin | ⟨bit, hbit, hcarries⟩ := allows_of_has hgranted
  · exact hadmin
  · cases hknown.admin.symm.trans hbit
    exact hcarries

/-- What the guard of administrators lets through is done for an administrator. -/
def GuardsAdmins (s : Service) (v : Visit) : Prop :=
  ∀ caller, s.permitted v adminName = .ok caller →
    ∃ row ∈ s.store.users, row.id = caller.user.id ∧ IsAdmin row

/-! ### The change of a user -/

/-- The permissions that are sent are stored as they are. -/
theorem readUserChanges_permissions {store : Store} {id : String} {data : Json}
    {changes : UserChanges} {password : Option Text}
    (h : readUserChanges store id data = .ok (changes, password)) :
    data.get? "Permissions" = none ∧ changes.permissions = none ∨
      ∃ mask, data.get? "Permissions" = some (.whole mask) ∧
        changes.permissions = some (some mask) := by
  have hpermissions := (readUserChanges_eq_ok.1 h).2.2.1
  rw [readPermissions] at hpermissions
  split at hpermissions
  · rename_i hnone; exact .inl ⟨hnone, (Except.ok.inj hpermissions).symm⟩
  · rename_i value hvalue
    split at hpermissions
    · cases hpermissions
    · rename_i hcheck
      rw [← Except.ok.inj hpermissions]
      cases value with
      | whole mask => exact .inr ⟨mask, hvalue, rfl⟩
      | _ => cases hcheck

/-- What the change of a user leaves of the administrators: all of them, or those other than the user
and this one as the permissions say that are stored. -/
theorem storeChanges_hasAdmin (hs : s.store.Keyed) {changes : UserChanges} {store : Store}
    (h : storeChanges s.store v changes = .ok store) :
    store = s.store ∧ (changes.permissions = none ∨
        ∀ row ∈ s.store.users, row.isLive = true → row.id ≠ v.id) ∨
      ∃ row ∈ s.store.users, row.id = v.id ∧ ∃ mask,
        changedPart row.data.permissions changes.permissions = some mask ∧
        (store.HasAdmin ↔
          carries mask adminBit = true ∨ ∃ x ∈ s.store.users, x.id ≠ v.id ∧ IsAdmin x) := by
  obtain ⟨hempty, rfl⟩ | ⟨hsome, found, hu⟩ := storeChanges_eq_ok h
  · simp only [UserChanges.isEmpty, Bool.and_eq_true, Option.isNone_iff_eq_none] at hempty
    exact .inl ⟨rfl, .inl hempty.2⟩
  · obtain ⟨rfl, hempty | ⟨key, hkey, hnone⟩⟩ | ⟨-, row, change, hrow, hid, happly, -, rfl⟩ :=
      updateUser_eq_ok hu
    · rw [hempty] at hsome; cases hsome
    · rw [Visit.key, bind_ofString] at hkey
      cases hkey
      refine .inl ⟨rfl, .inr fun row hrow hlive hid => ?_⟩
      have hn : (s.store.users.map (·.id)).Nodup := hs .user
      rw [← hid, findRow?_of_mem hn hrow (.inr hlive)] at hnone
      cases hnone
    · obtain ⟨hmem, -, hlive⟩ := findRow?_live hrow
      have hid : row.id = v.id := by
        rw [Visit.key, bind_ofString] at hid; exact (Except.ok.inj hid).symm
      refine .inr ⟨row, hmem, hid, _, happly.permissions, ?_⟩
      rw [hasAdmin_reviseRow hs hmem, hid]
      have hrevised : IsAdmin (revised v.now change row) ↔
          carries (change row.data).permissions adminBit = true :=
        ⟨And.right, fun hcarries => ⟨hlive, hcarries⟩⟩
      rw [hrevised]

theorem storeNewPassword_hasAdmin {store final : Store} (hs : store.Keyed) {password : Option Text}
    (h : storeNewPassword store v password = .ok final) : final.HasAdmin ↔ store.HasAdmin := by
  obtain ⟨-, rfl⟩ | ⟨new, hash, found, -, -, hu⟩ := storeNewPassword_eq_ok h
  · exact .rfl
  · exact updatePassword_hasAdmin hs hu

/-- The only administrator takes the bit of administrators off the own account, and this is stored. -/
structure Resigns (s : Service) (v : Visit) (caller : Caller) (mask : Int) : Prop where
  permitted : s.permitted v adminName = .ok caller
  own : v.id = caller.user.id
  only : ∀ x ∈ s.store.users, IsAdmin x → x.id = v.id
  sent : v.request.object?.bind (Json.get? · "Permissions") = some (.whole mask)
  lacks : carries mask adminBit = false
  stored : (s.updateUser v).1.store ≠ s.store

/-- What the handler that changes a user does, if it changes anything. -/
theorem updateUser_changes (h : (s.updateUser v).1.store ≠ s.store) :
    ∃ caller data changes password store, s.permitted v adminName = .ok caller ∧
      v.request.object? = some data ∧
      readUserChanges s.store v.id data = .ok (changes, password) ∧
      storeChanges s.store v changes = .ok store ∧
      ((s.updateUser v).1.store = store ∨
        storeNewPassword store v password = .ok (s.updateUser v).1.store) := by
  have hmade : ∃ caller data, s.permitted v adminName = .ok caller ∧
      v.request.object? = some data ∧ s.updateUser v = s.changeUser v data := by
    rw [updateUser, guarded] at h ⊢
    split at h
    · exact absurd rfl h
    · rename_i caller hcaller
      split at h
      · exact absurd rfl h
      · rename_i data hdata
        split at h
        · exact absurd rfl h
        · exact absurd rfl h
        · rename_i hfound
          exact ⟨caller, data, hcaller, hdata, rfl⟩
  obtain ⟨caller, data, hcaller, hdata, hmade⟩ := hmade
  rw [hmade] at h ⊢
  obtain hsame | ⟨changes, password, store, hread, hchanges, hmade⟩ :=
    changeUser_eq (s := s) (v := v) data
  · exact absurd (congrArg Service.store hsame) h
  · refine ⟨caller, data, changes, password, store, hcaller, hdata, hread, hchanges, ?_⟩
    obtain hmade | ⟨final, hpassword, hmade⟩ := hmade
    · rw [hmade]; exact .inl rfl
    · rw [hmade]; exact .inr hpassword

section Stored

variable {caller : Caller} {data : Json} {changes : UserChanges} {password : Option Text}
  {store : Store} (hcaller : s.permitted v adminName = .ok caller)
  (hdata : v.request.object? = some data)
  (hread : readUserChanges s.store v.id data = .ok (changes, password))
  (hchanges : storeChanges s.store v changes = .ok store) {admin : Row UserData}
  (hadmin : admin ∈ s.store.users) (hid : admin.id = caller.user.id) (hisAdmin : IsAdmin admin)

include hdata hread in
theorem sent_iff (mask : Int) :
    v.request.object?.bind (Json.get? · "Permissions") = some (.whole mask) ↔
      changes.permissions = some (some mask) := by
  rw [hdata, Option.bind_some]
  obtain ⟨hnone, hkept⟩ | ⟨mask', hmask, hnew⟩ := readUserChanges_permissions hread
  · rw [hnone, hkept]
    constructor <;> intro h <;> cases h
  · rw [hmask, hnew]
    exact ⟨fun h => by cases h; rfl, fun h => by cases h; rfl⟩

include hcaller hdata hread hchanges hadmin hid hisAdmin

/-- Where the only administrator resigns, the change that is stored leaves none. -/
theorem not_hasAdmin_of_resigns (hs : s.store.Keyed) {caller' : Caller} {mask : Int}
    (h : s.Resigns v caller' mask) : ¬ store.HasAdmin := by
  cases hcaller.symm.trans h.permitted
  have hsent := (sent_iff hdata hread mask).1 h.sent
  obtain ⟨-, hnone | hnobody⟩ | ⟨row, -, -, mask', hmask, hleft⟩ :=
    storeChanges_hasAdmin hs hchanges
  · rw [hsent] at hnone; cases hnone
  · exact absurd (hid.trans h.own.symm) (hnobody admin hadmin hisAdmin.1)
  · rw [hsent] at hmask
    cases hmask
    rw [hleft]
    rintro (hcarries | ⟨x, hx, hother, hxadmin⟩)
    · rw [h.lacks] at hcarries; cases hcarries
    · exact hother (h.only x hx hxadmin)

/-- A change that leaves no administrator is one by which the only one resigns. -/
theorem resigns_of_not_hasAdmin (hs : s.store.Keyed)
    (hstored : (s.updateUser v).1.store ≠ s.store) (h : ¬ store.HasAdmin) :
    ∃ mask, s.Resigns v caller mask := by
  obtain ⟨rfl, -⟩ | ⟨row, hrow, hrowid, mask, hmask, hleft⟩ := storeChanges_hasAdmin hs hchanges
  · exact absurd ⟨admin, hadmin, hisAdmin⟩ h
  · obtain ⟨hlacks, hnone⟩ := not_or.1 (mt hleft.2 h)
    have honly : ∀ x ∈ s.store.users, IsAdmin x → x.id = v.id := fun x hx hxadmin =>
      by_contra fun hother => hnone ⟨x, hx, hother, hxadmin⟩
    have hown := honly admin hadmin hisAdmin
    -- The user who is changed is the one who asks for it, an administrator up to now.
    have hsame : row = admin := row_unique (hs .user) hrow hadmin (hrowid.trans hown.symm)
    refine ⟨mask, hcaller, hown.symm.trans hid, honly, (sent_iff hdata hread mask).2 ?_,
      Bool.eq_false_iff.2 hlacks, hstored⟩
    obtain ⟨-, hkept⟩ | ⟨mask', -, hnew⟩ := readUserChanges_permissions hread
    · rw [hkept, hsame] at hmask
      cases hmask
      exact absurd hisAdmin.2 hlacks
    · rw [hnew] at hmask
      cases hmask
      exact hnew

end Stored

/-- The change of a user leaves an administrator, unless the only one resigns. -/
theorem updateUser_hasAdmin (hs : s.store.Keyed) (hadmins : s.GuardsAdmins v) :
    (s.updateUser v).1.store.HasAdmin ↔
      s.store.HasAdmin ∧ ¬ ∃ caller mask, s.Resigns v caller mask := by
  by_cases hsame : (s.updateUser v).1.store = s.store
  · rw [hsame]
    refine ⟨fun h => ⟨h, ?_⟩, And.left⟩
    rintro ⟨caller, mask, hresigns⟩
    exact hresigns.stored hsame
  · obtain ⟨caller, data, changes, password, store, hcaller, hdata, hread, hchanges, hmade⟩ :=
      updateUser_changes hsame
    obtain ⟨admin, hadmin, hid, hisAdmin⟩ := hadmins caller hcaller
    have hkeyed : store.Keyed := Edits.keyed (storeChanges_edits hchanges) hs
    -- The password that may be stored after it makes nobody an administrator or none.
    have hfinal : (s.updateUser v).1.store.HasAdmin ↔ store.HasAdmin := by
      obtain hmade | hmade := hmade
      · rw [hmade]
      · exact storeNewPassword_hasAdmin hkeyed hmade
    rw [hfinal]
    constructor
    · intro hsome
      refine ⟨⟨admin, hadmin, hisAdmin⟩, ?_⟩
      rintro ⟨caller', mask, hresigns⟩
      exact not_hasAdmin_of_resigns hcaller hdata hread hchanges hadmin hid hisAdmin hs hresigns
        hsome
    · rintro ⟨-, hstays⟩
      by_contra hnone
      exact hstays ⟨caller, resigns_of_not_hasAdmin hcaller hdata hread hchanges hadmin hid hisAdmin
        hs hsame hnone⟩

/-! ### The other handlers -/

/-- What only administrators do leaves or makes an administrator, if it leaves those who do it. -/
theorem guarded_hasAdmin (hadmins : s.GuardsAdmins v) {action : Caller → Service × Reply}
    (h : ∀ caller, s.permitted v adminName = .ok caller → s.store.HasAdmin →
      (∀ row ∈ s.store.users, row.id = caller.user.id → IsAdmin row →
        (action caller).1.store.HasAdmin)) :
    (s.guarded v adminName action).1.store.HasAdmin ↔ s.store.HasAdmin := by
  refine guarded_cases (motive := fun r => r.1.store.HasAdmin ↔ s.store.HasAdmin)
    (fun _ _ => .rfl) fun caller hcaller => ?_
  obtain ⟨row, hrow, hid, hadmin⟩ := hadmins caller hcaller
  exact ⟨fun _ => ⟨row, hrow, hadmin⟩, fun hsome => h caller hcaller hsome row hrow hid hadmin⟩

theorem addUser_hasAdmin (now : Instant) (n : NewUser) (h : s.store.HasAdmin) :
    (s.addUser now n).1.store.HasAdmin := by
  rw [addUser]
  cases hmade : s.store.createUser s.fresh.nextId now n with
  | error f => exact h
  | ok made =>
    obtain ⟨data, -, -, -, hstore, -⟩ := createUser_eq_ok hmade
    obtain ⟨row, hrow, hadmin⟩ := h
    dsimp only
    rw [hstore]
    exact ⟨row, List.mem_append_left _ hrow, hadmin⟩

theorem addAccount_hasAdmin (a : NewAccount) (h : s.store.HasAdmin) :
    (s.addAccount v a).1.store.HasAdmin := by
  rw [addAccount]
  cases Password.hash a.password with
  | error f => exact h
  | ok hash =>
    have hadded := addUser_hasAdmin v.now
      ⟨some a.fullname, some a.email, some (Text.ofString hash), some a.permissions⟩ h
    dsimp only
    split <;> rename_i hmade <;> rw [hmade] at hadded <;> exact hadded

theorem createUser_hasAdmin (hadmins : s.GuardsAdmins v) :
    (s.createUser v).1.store.HasAdmin ↔ s.store.HasAdmin := by
  refine guarded_hasAdmin hadmins fun caller _ hsome _ _ _ _ => ?_
  split
  · exact hsome
  · split
    · exact hsome
    · split
      · exact hsome
      · exact hsome
      · exact addAccount_hasAdmin _ hsome

theorem deleteUser_hasAdmin (hs : s.store.Keyed) (hadmins : s.GuardsAdmins v) :
    (s.deleteUser v).1.store.HasAdmin ↔ s.store.HasAdmin := by
  refine guarded_hasAdmin hadmins fun caller _ hsome row hrow hid hadmin => ?_
  split
  · exact hsome
  · rename_i hother
    split
    · exact hsome
    · exact hsome
    · rename_i store hdeleted
      obtain ⟨-, h⟩ | ⟨-, x, hx, hkey, rfl⟩ := deleteUser_eq_ok hdeleted
      · cases h
      · rw [Visit.key, bind_ofString] at hkey
        have hkey := Except.ok.inj hkey
        exact (hasAdmin_reviseRow hs (findRow?_live hx).1 _).2
          (.inr ⟨row, hrow, fun h => hother (hkey.trans (h.symm.trans hid)), hadmin⟩)

theorem changePassword_hasAdmin (hs : s.store.Keyed) :
    (s.changePassword v).1.store.HasAdmin ↔ s.store.HasAdmin := by
  cases h : s.changePassword v with
  | mk t reply =>
    obtain rfl | ⟨_, row, password, -, hrow, -, rfl, -⟩ := changePassword_eq h
    · exact .rfl
    · exact hasAdmin_reviseRow_same hs (findRow?_live hrow).1 .rfl

/-- A handler leaves an administrator, unless the only one resigns. -/
theorem dispatch_hasAdmin (hs : s.store.Keyed) (hadmins : s.GuardsAdmins v) (e : Endpoint) :
    (s.dispatch e v).1.store.HasAdmin ↔
      s.store.HasAdmin ∧ (e = .updateUser → ¬ ∃ caller mask, s.Resigns v caller mask) := by
  have hother : e ≠ .updateUser →
      (s.store.HasAdmin ↔ s.store.HasAdmin ∧
        (e = .updateUser → ¬ ∃ caller mask, s.Resigns v caller mask)) := fun he =>
    ⟨fun h => ⟨h, fun h => absurd h he⟩, And.left⟩
  by_cases hkind : e.kind = .user
  · by_cases hasked : e.isAsked = true
    · rw [hasAdmin_congr (congrArg Store.users (asked_store hasked s v))]
      exact hother (by rintro rfl; cases hasked)
    · cases e <;> try exact absurd rfl hasked
      case createPost | updatePost | deletePost | restorePost | createKey | deleteKey => cases hkind
      case updateUser =>
        exact (updateUser_hasAdmin hs hadmins).trans
          ⟨fun h => ⟨h.1, fun _ => h.2⟩, fun h => ⟨h.1, h.2 rfl⟩⟩
      case login | logout => exact hother (by decide)
      case changePassword => exact (changePassword_hasAdmin hs).trans (hother (by decide))
      case createUser => exact (createUser_hasAdmin hadmins).trans (hother (by decide))
      case deleteUser => exact (deleteUser_hasAdmin hs hadmins).trans (hother (by decide))
  · have hsame : (s.dispatch e v).1.store.users = s.store.users :=
      dispatch_rows_of_ne (k := .user) (Ne.symm hkind)
    rw [hasAdmin_congr hsame]
    exact hother (by rintro rfl; exact hkind rfl)

/-! ### Requests -/

/-- By this request the only administrator resigns. -/
def LosesAdmin (s : Service) (now : Instant) (r : Request) : Prop :=
  ∃ m v caller mask, s.arrival? now r = some (m, .updateUser, v) ∧ m.Resigns v caller mask

/-- A request leaves an administrator, unless the only one resigns. -/
theorem handle_hasAdmin (hs : s.Sound) (now : Instant) (r : Request) :
    (s.handle now r).1.store.HasAdmin ↔ s.store.HasAdmin ∧ ¬ s.LosesAdmin now r := by
  cases h : s.arrival? now r with
  | none =>
    rw [(handle_turned_away h).store]
    refine ⟨fun hsome => ⟨hsome, ?_⟩, And.left⟩
    rintro ⟨m, v, caller, mask, harrival, -⟩
    cases h.symm.trans harrival
  | some arrival =>
    obtain ⟨m, e, v⟩ := arrival
    have hsame := arrival?_same h
    have hadmins : m.GuardsAdmins v := by
      intro caller hcaller
      rw [permitted_same hsame] at hcaller
      rw [hsame.store]
      exact permitted_isAdmin hs.registry (arrival?_visit h) hcaller
    have hkeyed : m.store.Keyed := by rw [hsame.store]; exact hs.store.keyed
    rw [(handle_arrived h).1, dispatch_hasAdmin hkeyed hadmins, hsame.store]
    refine and_congr_right fun _ => ⟨?_, ?_⟩
    · rintro hstays ⟨m', v', caller, mask, harrival, hresigns⟩
      cases h.symm.trans harrival
      exact hstays rfl ⟨caller, mask, hresigns⟩
    · rintro hkeeps rfl ⟨caller, mask, hresigns⟩
      exact hkeeps ⟨m, v, caller, mask, h, hresigns⟩

/-- The service after requests, one after the other. -/
def handleAll (s : Service) (requests : List (Instant × Request)) : Service :=
  requests.foldl (fun s p => (s.handle p.1 p.2).1) s

/-- None of the requests, one after the other, loses the last administrator. -/
def KeepsAdmin (s : Service) : List (Instant × Request) → Prop
  | [] => True
  | (now, r) :: rest => ¬ s.LosesAdmin now r ∧ (s.handle now r).1.KeepsAdmin rest

theorem handleAll_hasAdmin (hs : s.Sound) (requests : List (Instant × Request))
    (hera : ∀ p ∈ requests, InEra p.1) :
    (s.handleAll requests).store.HasAdmin ↔ s.store.HasAdmin ∧ s.KeepsAdmin requests := by
  induction requests generalizing s with
  | nil => exact ⟨fun h => ⟨h, trivial⟩, And.left⟩
  | cons p rest ih =>
    obtain ⟨now, r⟩ := p
    obtain ⟨hnow, hrest⟩ := List.forall_mem_cons.1 hera
    have hnext : (s.handle now r).1.Sound := (Step.request now r hnow).sound hs
    have hstep := ih hnext hrest
    rw [handle_hasAdmin hs now r, and_assoc] at hstep
    exact hstep

/-- After any requests to a service that has started there is an administrator exactly if none of them
was a change by which the only administrator gave the own bit up. -/
theorem hasAdmin_iff {policy : Policy} {settings : Settings} {platform : String} {begin : Instant}
    {first : Service} (hbegin : InEra begin)
    (hstart : start policy settings platform begin = .ok first)
    {requests : List (Instant × Request)} (hera : ∀ p ∈ requests, InEra p.1) :
    (first.handleAll requests).store.HasAdmin ↔ first.KeepsAdmin requests := by
  obtain ⟨-, hash, -, husers⟩ := start_users hstart
  have hfirst : first.store.HasAdmin :=
    ⟨_, by rw [husers]; exact List.mem_singleton.2 rfl, rfl,
      show carries seedPermissions adminBit = true by decide⟩
  rw [handleAll_hasAdmin (start_sound hbegin hstart) requests hera]
  exact and_iff_right hfirst

/-- The first administrator logs in, and is still there. -/
theorem hasAdmin_iff_login :
    ∃ first, start (.ofProfile .testing .standard) .standard "" 0 = .ok first ∧
      (∀ p ∈ [(0, seedLogin)], InEra p.1) ∧ (first.handleAll [(0, seedLogin)]).store.HasAdmin := by
  obtain ⟨first, hstart⟩ :
      ∃ first, start (.ofProfile .testing .standard) .standard "" 0 = .ok first := ⟨_, rfl⟩
  have hera : ∀ p ∈ [((0 : Instant), seedLogin)], InEra p.1 := by
    intro p hp
    rw [List.mem_singleton.1 hp]
    exact inEra_zero
  refine ⟨first, hstart, hera, (hasAdmin_iff inEra_zero hstart hera).2 ⟨?_, trivial⟩⟩
  rintro ⟨m, v, caller, mask, harrival, -⟩
  have hfound : find seedLogin.target.path seedLogin.method = .handler .login "" := by
    decide +kernel
  cases hfound.symm.trans (arrival?_found harrival)

/-- The first administrator, logged in, sets the own permissions to none. -/
def resignation : Request :=
  ⟨"PUT", ⟨defaultHost, ("/api/users/" ++ Fresh.idText 1).toList, []⟩, [], false, some seedCookie,
    some ⟨some "application/json", "\x7b\"Permissions\":0\x7d"⟩⟩

/-- After that there is no administrator any more. -/
theorem resignation_loses_admin :
    ∃ first, start (.ofProfile .testing .standard) .standard "" 0 = .ok first ∧
      (first.handle 0 seedLogin).2.status = 200 ∧
      (first.handle 0 seedLogin).2.cookie = .replace resignation.cookie ∧
      ((first.handle 0 seedLogin).1.handle 0 resignation).2.status = 200 ∧
      ¬ (first.handleAll [(0, seedLogin), (0, resignation)]).store.HasAdmin := by
  obtain ⟨first, hstart, hstatus, hnone⟩ :
      ∃ first, start (.ofProfile .testing .standard) .standard "" 0 = .ok first ∧
        (first.handle 0 resignation).2.status = 200 ∧
        ¬ (first.handle 0 resignation).1.store.HasAdmin :=
    ⟨_, rfl, by decide +kernel, by decide +kernel⟩
  obtain ⟨hleft, hlogged, hcookie, -⟩ := seedLogin_succeeds hstart
  refine ⟨first, hstart, hlogged, hcookie, by rw [hleft]; exact hstatus, ?_⟩
  rw [handleAll, List.foldl_cons, List.foldl_cons, List.foldl_nil, hleft]
  exact hnone

end Service

end Pressroom
