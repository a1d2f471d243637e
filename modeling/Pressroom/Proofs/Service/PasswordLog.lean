import Pressroom.Proofs.Access.NewAccount
import Pressroom.Proofs.Access.SessionOwner
import Pressroom.Proofs.Service.NewPassword
import Pressroom.Proofs.Service.PostLog

/-!
A log of the passwords that requests set. Three handlers set one, each for a user that can be told
from the request and its answer: the one who is created, the one in the path, or the one whose session
it is. In each of them the password is hashed before it is stored, and nothing of it is stored unless
the answer reports success. So the column of passwords and the log stay in step: every hash in the
column is that of the password in the last entry for its row, and the first administrator has the one
of the settings until there is another.
-/
namespace Pressroom

open Web

namespace Service

open Store

variable {s m : Service} {v : Visit} {now : Instant} {r : Request} {e : Endpoint}

/-! ### The log -/

/-- The user whose password a request sets if it is answered with success. -/
def passwordOwner? (s : Service) (now : Instant) (r : Request) (body : Option Json) :
    Endpoint → String → Option String
  | .createUser, _ => body.bind shownId?
  | .updateUser, id => some id
  | .changePassword, _ => (s.sessionUser (Cookie.sessionAt r.cookie now)).map (·.id)
  | _, _ => none

/-- The password that a request sets, and for whom: the one that was sent, if the answer reports
success. -/
def passwordSet? (s : Service) (now : Instant) (r : Request) : Option (String × Text) :=
  match find r.target.path r.method with
  | .handler e id =>
    if Successful (s.handle now r).2.status then
      match s.passwordOwner? now r (s.handle now r).2.body e id, sentPassword r e with
      | some owner, .text p => some (owner, p)
      | _, _ => none
    else none
  | _ => none

/-- The passwords that requests set, one after the other. -/
def passwordsSet (s : Service) : List (Instant × Request) → List (String × Text)
  | [] => []
  | (now, r) :: rest => (s.passwordSet? now r).toList ++ (s.handle now r).1.passwordsSet rest

/-- The password that was set last for a user. -/
def lastPassword? (log : List (String × Text)) (id : String) : Option Text := log.reverse.lookup id

/-- The ids of the users and the hashes of their passwords. -/
def passwordColumn (rows : List (Row UserData)) : List (String × String) :=
  rows.map fun r => (r.id, r.data.password)

/-- A table of users and a log are in step: each user has the password that was set last. -/
def PasswordsKept (rows : List (Row UserData)) (log : List (String × Text)) : Prop :=
  ∀ row ∈ rows, ∃ p, lastPassword? log row.id = some p ∧ Password.hash p = .ok row.data.password

/-! ### One step of the column -/

/-- What becomes of the table of users when a request is answered, and the password it sets. -/
inductive PasswordStep (rows : List (Row UserData)) :
    Option (String × Text) → List (Row UserData) → Prop
  | still {rows'} (column : passwordColumn rows' = passwordColumn rows) : PasswordStep rows none rows'
  | added (row : Row UserData) {p : Text} (fresh : ∀ x ∈ rows, x.id ≠ row.id)
      (hash : Password.hash p = .ok row.data.password) :
      PasswordStep rows (some (row.id, p)) (rows ++ [row])
  | changed (row : Row UserData) {p : Text} {f : Row UserData → Row UserData} (mem : row ∈ rows)
      (keeps : KeepsId f) (hash : Password.hash p = .ok (f row).data.password) :
      PasswordStep rows (some (row.id, p)) (reviseRow rows row.id f)

section Step

variable {rows rows' : List (Row UserData)} {set : Option (String × Text)}

/-- A row stands for its entry in the column. -/
theorem exists_of_column (h : passwordColumn rows' = passwordColumn rows) {row : Row UserData}
    (hrow : row ∈ rows) : ∃ x ∈ rows', x.id = row.id ∧ x.data.password = row.data.password := by
  have hmem : (row.id, row.data.password) ∈ passwordColumn rows' := h ▸ List.mem_map_of_mem hrow
  obtain ⟨x, hx, heq⟩ := List.mem_map.1 hmem
  obtain ⟨hid, hpassword⟩ := Prod.mk.inj heq
  exact ⟨x, hx, hid, hpassword⟩

/-- A change of a row that keeps its password is not seen in the column. -/
theorem column_reviseRow (hn : (rows.map (·.id)).Nodup) {row : Row UserData} (hrow : row ∈ rows)
    {f : Row UserData → Row UserData} (hid : (f row).id = row.id)
    (hpassword : (f row).data.password = row.data.password) :
    passwordColumn (reviseRow rows row.id f) = passwordColumn rows := by
  rw [passwordColumn, passwordColumn, reviseRow, List.map_map]
  refine List.map_congr_left fun x hx => ?_
  rw [Function.comp_apply]
  split
  · rename_i hsame
    rw [row_unique hn hx hrow (beq_iff_eq.1 hsame), hid, hpassword]
  · rfl

/-- One step keeps the table and the log in step. -/
theorem PasswordStep.kept (step : PasswordStep rows set rows') (hn : (rows.map (·.id)).Nodup)
    {log : List (String × Text)} (h : PasswordsKept rows log) :
    PasswordsKept rows' (log ++ set.toList) := by
  cases step with
  | still hcolumn =>
    intro row hrow
    obtain ⟨x, hx, hid, hpassword⟩ := exists_of_column hcolumn.symm hrow
    rw [Option.toList_none, List.append_nil, ← hid, ← hpassword]
    exact h x hx
  | added row hfresh hhash =>
    intro x hx
    rw [Option.toList_some, lastPassword?, lookup_reverse_concat]
    rcases List.mem_append.1 hx with hold | hnew
    · rw [if_neg (hfresh x hold)]
      exact h x hold
    · rw [List.mem_singleton.1 hnew, if_pos rfl]
      exact ⟨_, rfl, hhash⟩
  | changed row hmem hkeeps hhash =>
    intro x hx
    rw [Option.toList_some, lastPassword?, lookup_reverse_concat]
    rcases (mem_reviseRow hn hmem).1 hx with rfl | ⟨hold, hne⟩
    · rw [if_pos (hkeeps row)]
      exact ⟨_, rfl, hhash⟩
    · rw [if_neg hne]
      exact h x hold

/-- A password that is set is the one of a row afterwards. -/
theorem PasswordStep.owned {owner : String} {p : Text}
    (step : PasswordStep rows (some (owner, p)) rows') (hn : (rows.map (·.id)).Nodup) :
    ∃ row ∈ rows', row.id = owner ∧ Password.hash p = .ok row.data.password := by
  cases step with
  | added row _ hhash => exact ⟨row, by simp, rfl, hhash⟩
  | @changed row _ f hmem hkeeps hhash =>
    exact ⟨f row, (mem_reviseRow hn hmem).2 (.inl rfl), hkeeps row, hhash⟩

/-- Nothing but the password that is set changes in the column. -/
theorem PasswordStep.only (step : PasswordStep rows set rows') (hn : (rows.map (·.id)).Nodup)
    {row : Row UserData} (hrow : row ∈ rows) :
    ∃ x ∈ rows', x.id = row.id ∧
      (x.data.password = row.data.password ∨ ∃ p, set = some (row.id, p)) := by
  cases step with
  | still hcolumn =>
    obtain ⟨x, hx, hid, hpassword⟩ := exists_of_column hcolumn hrow
    exact ⟨x, hx, hid, .inl hpassword⟩
  | added new _ _ => exact ⟨row, List.mem_append_left _ hrow, rfl, .inl rfl⟩
  | @changed own p f hmem hkeeps _ =>
    by_cases hid : row.id = own.id
    · rw [row_unique hn hrow hmem hid]
      exact ⟨f own, (mem_reviseRow hn hmem).2 (.inl rfl), hkeeps own, .inr ⟨p, rfl⟩⟩
    · exact ⟨row, (mem_reviseRow hn hmem).2 (.inr ⟨hrow, hid⟩), rfl, .inl rfl⟩

end Step

/-! ### What the handlers do -/

/-- What becomes of the passwords when a handler is done. -/
inductive PasswordEnds (s : Service) (v : Visit) (e : Endpoint) : Service × Reply → Prop
  | still {out : Service × Reply}
      (column : passwordColumn out.1.store.users = passwordColumn s.store.users)
      (quiet : Successful out.2.status → e.takesPassword = true →
        sentPassword v.request e = .null) : PasswordEnds s v e out
  | added {t : Service} {p : Text} (row : Row UserData) (own : e = .createUser)
      (fresh : ∀ x ∈ s.store.users, x.id ≠ row.id) (sent : sentPassword v.request e = .text p)
      (hash : Password.hash p = .ok row.data.password)
      (users : t.store.users = s.store.users ++ [row]) :
      PasswordEnds s v e (t, userReply 201 row.item)
  | changed {t : Service} {reply : Reply} {p : Text} {f : Row UserData → Row UserData}
      (row : Row UserData) (mem : row ∈ s.store.users)
      (own : e = .updateUser ∧ row.id = v.id ∨
        e = .changePassword ∧ s.sessionUser v.session = some row.item)
      (keeps : KeepsId f) (sent : sentPassword v.request e = .text p)
      (hash : Password.hash p = .ok (f row).data.password)
      (users : t.store.users = reviseRow s.store.users row.id f) (status : reply.status = 200) :
      PasswordEnds s v e (t, reply)

/-- What is not answered with success and leaves the passwords alone. -/
theorem passwordEnds_refused {t : Service} {reply : Reply} (h : t.store.users = s.store.users)
    (hstatus : ¬ Successful reply.status) : PasswordEnds s v e (t, reply) :=
  .still (congrArg passwordColumn h) fun hok => absurd hok hstatus

theorem createUser_passwords (hnow : InEra v.now) :
    PasswordEnds s v .createUser (s.createUser v) := by
  rcases createUser_ends s v with ⟨reply, heq, hfails⟩ | ⟨data, a, hdata, hread, hends⟩
  · rw [heq]
    exact passwordEnds_refused rfl hfails
  · have hsent : sentPassword v.request .createUser = .text a.password := by
      rw [sentPassword, hdata]
      · exact (readAccount_password hread).1
      · rintro ⟨⟩
    generalize s.createUser v = out at hends ⊢
    cases hends with
    | refused hstore hfails => exact passwordEnds_refused (congrArg Store.users hstore) hfails
    | @added d _ hhash hfresh =>
      rw [← Entry.item_newRow hnow]
      exact .added _ rfl hfresh hsent hhash rfl

theorem updateUser_passwords (hs : s.store.Sound) (hnow : InEra v.now) :
    PasswordEnds s v .updateUser (s.updateUser v) := by
  have hends := updateUser_ends hs hnow
  generalize s.updateUser v = out at hends ⊢
  cases hends with
  | refused hfails => exact passwordEnds_refused rfl hfails
  | @changed _ data row _ _ hdata hfound ends =>
    obtain ⟨hmem, hid, -⟩ := findRow?_live hfound
    have hsent : sentPassword v.request .updateUser = data.getD "Password" := by
      rw [sentPassword, hdata]
      · rfl
      · rintro ⟨⟩
    have hstays : ∀ new : UserData, new.password = row.data.password →
        passwordColumn (s.store.withUserData v.id v.now new).users
          = passwordColumn s.store.users := by
      intro new hnew
      rw [withUserData, ← hid]
      exact column_reviseRow hs.users.ids hmem rfl hnew
    cases ends with
    | @applied new _ _ happlies hstatus =>
      rcases happlies with ⟨hnull, hsame⟩ | ⟨p, hp, -, hhash, -⟩
      · exact .still (hstays new hsame) fun _ _ => hsent.trans hnull
      · exact .changed row hmem (.inl ⟨rfl, hid⟩) (keepsId_revised v.now fun _ => new)
          (hsent.trans hp) hhash (by rw [hid]; rfl) hstatus
    | refused hfails => exact passwordEnds_refused rfl hfails
    | brokenOff hbreaks =>
      exact .still (hstays _ hbreaks.stays) fun hok =>
        absurd hok (not_successful 500 (by decide))

/-- The user of a session is a live one, as the store has the user. -/
theorem sessionUser_row (hs : s.store.Sound) {session : Session} {user : User}
    (h : s.sessionUser session = some user) :
    ∃ row, findRow? s.store.users false row.id = some row ∧ user = row.item := by
  have hread := (sessionUser_eq_some (sessionUser_names h)).1 h
  rw [hs.user?] at hread
  obtain ⟨row, hfound, hitem⟩ := Option.map_eq_some_iff.1 (Except.ok.inj hread)
  obtain ⟨-, hid, -⟩ := findRow?_live hfound
  exact ⟨row, by rw [hid]; exact hfound, hitem.symm⟩

/-- A value that equals a text is this text. -/
theorem eq_text_of_same {p : Text} {v : Json} (h : (Json.text p).same v = true) : v = .text p := by
  cases v with
  | text q =>
    rw [Json.same] at h
    rw [beq_iff_eq.1 h]
  | _ => simp [Json.same, Json.amount?] at h

/-- The new password of a change without a fault is sent twice. -/
theorem PasswordChange.confirmed {c : PasswordChange} (h : c.fault? = none) :
    ∃ p, c.new = .text p ∧ c.confirm = .text p := by
  obtain ⟨p, hp, -⟩ := Check.password_eq_ok.1 (PasswordChange.new_fits h)
  refine ⟨p, hp, ?_⟩
  rw [PasswordChange.fault?] at h
  split at h
  · cases h
  · split at h
    · cases h
    · rename_i hsame
      rw [hp] at hsame
      exact eq_text_of_same (by simpa using hsame)

/-- Of a live user the hash of a new password is stored, if it has one. -/
theorem storePassword_text (hs : s.store.Sound) {row : Row UserData}
    (hfound : findRow? s.store.users false row.id = some row) (p : Text) :
    s.storePassword v row.item (.text p) = (s, passwordFailure) ∨
      ∃ hash reply, Password.hash p = .ok hash ∧ reply.status = 200 ∧
        s.storePassword v row.item (.text p) = (s.withStore
          (s.store.withUserData row.id v.now { row.data with password := hash }), reply) := by
  unfold storePassword
  dsimp only
  cases hhash : Password.hash p with
  | error f => exact .inl rfl
  | ok hash =>
    have hstored : s.store.updatePassword (Text.ofString row.item.id) v.now
        (some (Text.ofString hash)) = .ok (s.store.withUserData row.id v.now
          { row.data with password := hash }, true) := updatePassword_of_hash hs hfound _ _
    dsimp only
    rw [hstored]
    exact .inr ⟨hash, _, rfl, rfl, rfl⟩

/-- How a change of the own password can end: nothing is stored, or the current password was right, the
new one was sent twice, and its hash is stored. -/
inductive OwnPasswordEnds (s : Service) (v : Visit) : Service × Reply → Prop
  | refused {reply : Reply} (status : ¬ Successful reply.status) : OwnPasswordEnds s v (s, reply)
  | changed {row : Row UserData} {current p : Text} {hash : String} {reply : Reply}
      (found : findRow? s.store.users false row.id = some row)
      (known : s.sessionUser v.session = some row.item)
      (sent : readPasswordChange v.request = ⟨.text current, .text p, .text p⟩)
      (right : Password.check current row.data.password = true)
      (hashed : Password.hash p = .ok hash) (status : reply.status = 200) :
      OwnPasswordEnds s v
        (s.withStore (s.store.withUserData row.id v.now { row.data with password := hash }), reply)

theorem changePassword_ends (hs : s.store.Sound) : OwnPasswordEnds s v (s.changePassword v) := by
  rw [changePassword]
  cases hknown : s.sessionUser v.session with
  | none => exact .refused (not_successful 401 (by decide))
  | some user =>
    obtain ⟨row, hfound, rfl⟩ := sessionUser_row hs hknown
    dsimp only
    cases hfault : (readPasswordChange v.request).fault? with
    | some message => exact .refused (not_successful 400 (by decide))
    | none =>
      obtain ⟨p, hnew, hconfirm⟩ := PasswordChange.confirmed hfault
      dsimp only
      split
      · rename_i current hcurrent
        split
        · rename_i hright
          have hsent : readPasswordChange v.request = ⟨.text current, .text p, .text p⟩ := by
            rw [← hcurrent]
            exact congrArg₂ (PasswordChange.mk _) hnew hconfirm
          rw [hnew]
          obtain hrefused | ⟨hash, reply, hhash, hstatus, hstored⟩ :=
            storePassword_text (v := v) hs hfound p
          · rw [hrefused]
            exact .refused (not_successful 500 (by decide))
          · rw [hstored]
            exact .changed hfound hknown hsent hright hhash hstatus
        · exact .refused (not_successful 400 (by decide))
      · exact .refused (not_successful 500 (by decide))

theorem changePassword_passwords (hs : s.store.Sound) :
    PasswordEnds s v .changePassword (s.changePassword v) := by
  have hends := changePassword_ends (v := v) hs
  generalize s.changePassword v = out at hends ⊢
  cases hends with
  | refused hfails => exact passwordEnds_refused rfl hfails
  | @changed row current p hash _ hfound hknown hsent _ hhash hstatus =>
    refine .changed row (findRow?_live hfound).1 (.inr ⟨rfl, hknown⟩)
      (keepsId_revised v.now fun _ => { row.data with password := hash }) ?_ hhash rfl hstatus
    rw [sentPassword, hsent]

/-- The other handlers leave the passwords alone. -/
theorem dispatch_column (hs : s.store.Sound) (he : e.takesPassword = false) :
    passwordColumn (s.dispatch e v).1.store.users = passwordColumn s.store.users := by
  by_cases hdelete : e = .deleteUser
  · subst hdelete
    rcases dispatch_turns (s := s) (v := v) (e := .deleteUser) rfl with hsame | hdone
    · rw [hsame]
    · obtain ⟨-, h⟩ | ⟨-, row, hrow, -, hafter⟩ := deleteUser_eq_ok hdone
      · cases h
      · rw [hafter]
        exact column_reviseRow hs.users.ids (findRow?_live hrow).1 rfl rfl
  · cases hasked : e.isAsked with
    | true => rw [asked_store hasked]
    | false =>
      by_cases hkind : RecordKind.user = e.kind
      · -- Only logging in and logging out are left, and they do nothing to the store.
        have hrest : e = .login ∨ e = .logout := by
          revert he hdelete hasked hkind
          cases e <;> decide
        rcases hrest with rfl | rfl <;> rfl
      · exact congrArg passwordColumn (dispatch_rows_of_ne hkind)

theorem dispatch_passwords (hs : s.store.Sound) (hnow : InEra v.now) (e : Endpoint) :
    PasswordEnds s v e (s.dispatch e v) := by
  cases he : e.takesPassword with
  | false =>
    exact .still (dispatch_column hs he) fun _ htakes => absurd (he.symm.trans htakes) (by decide)
  | true =>
    obtain rfl | rfl | rfl : e = .createUser ∨ e = .updateUser ∨ e = .changePassword := by
      revert he
      cases e <;> decide
    · exact createUser_passwords hnow
    · exact updateUser_passwords hs hnow
    · exact changePassword_passwords hs

/-! ### Requests -/

/-- What becomes of the passwords when a request is answered by a handler. -/
theorem arrived_passwords (harrival : s.arrival? now r = some (m, e, v)) (hs : s.Sound)
    (hnow : InEra now) : PasswordEnds m v e (m.dispatch e v) := by
  refine dispatch_passwords ?_ ((arrival?_visit harrival).1 ▸ hnow) e
  rw [(arrival?_same harrival).store]
  exact hs.store

/-- A request that a handler answers with success sets the password that was sent. -/
theorem passwordSet?_eq_some (owner : String) (p : Text)
    (harrival : s.arrival? now r = some (m, e, v)) (hok : Successful (m.dispatch e v).2.status)
    (howner : s.passwordOwner? now r (s.handle now r).2.body e v.id = some owner)
    (hsent : sentPassword v.request e = .text p) : s.passwordSet? now r = some (owner, p) := by
  rw [← (handle_arrived harrival).2] at hok
  rw [(arrival?_visit harrival).2.1] at hsent
  rw [passwordSet?, arrival?_found harrival]
  dsimp only
  rw [if_pos hok, howner, hsent]

/-- One without a password sets none. -/
theorem passwordSet?_eq_none (harrival : s.arrival? now r = some (m, e, v))
    (hquiet : Successful (m.dispatch e v).2.status → e.takesPassword = true →
      sentPassword v.request e = .null) : s.passwordSet? now r = none := by
  rw [← (handle_arrived harrival).2, (arrival?_visit harrival).2.1] at hquiet
  rw [passwordSet?, arrival?_found harrival]
  dsimp only
  split
  · rename_i hok
    split
    · rename_i owner p howner hsent
      -- A handler that has an owner for the password takes one.
      have htakes : e.takesPassword = true := by
        revert howner
        cases e <;> simp [passwordOwner?, Endpoint.takesPassword]
      cases hsent.symm.trans (hquiet hok htakes)
    · rfl
  · rfl

/-- One that is turned away sets none. -/
theorem passwordSet?_turned_away (harrival : s.arrival? now r = none) :
    s.passwordSet? now r = none := by
  rw [passwordSet?]
  split
  · rename_i e id hfound
    exact if_neg (not_successful _ ((answer_turned_away harrival).fails e id hfound))
  · rfl

/-- What a handler does is one step of the column, and if it reports success, it sets the password that
was sent. -/
theorem arrived_step (harrival : s.arrival? now r = some (m, e, v)) (hs : s.Sound)
    (hnow : InEra now) :
    PasswordStep m.store.users (s.passwordSet? now r) (m.dispatch e v).1.store.users ∧
      (Successful (m.dispatch e v).2.status → e.takesPassword = true →
        sentPassword v.request e ≠ .null →
        ∃ owner p, s.passwordSet? now r = some (owner, p) ∧ sentPassword v.request e = .text p) := by
  have hends := arrived_passwords harrival hs hnow
  have hset := fun owner p => passwordSet?_eq_some owner p harrival
  have hquiet := passwordSet?_eq_none harrival
  have hbody := handle_body_of_write harrival
  generalize m.dispatch e v = out at hends hset hquiet hbody
  cases hends with
  | still hcolumn hnull =>
    rw [hquiet hnull]
    exact ⟨.still hcolumn, fun hok htakes hsome => absurd (hnull hok htakes) hsome⟩
  | @added _ p row hown hfresh hsent hhash husers =>
    subst hown
    obtain ⟨_, hfirst⟩ := publicMembers_id row.item
    have howner : s.passwordOwner? now r (s.handle now r).2.body .createUser v.id
        = some row.id := by
      rw [hbody rfl, passwordOwner?]
      exact shownId?_publicJson hfirst
    rw [hset _ _ successful_created howner hsent, husers]
    exact ⟨.added row hfresh hhash, fun _ _ _ => ⟨row.id, p, rfl, hsent⟩⟩
  | @changed _ _ p _ row hmem hown hkeeps hsent hhash husers hok =>
    have howner : s.passwordOwner? now r (s.handle now r).2.body e v.id = some row.id := by
      rcases hown with ⟨rfl, hid⟩ | ⟨rfl, hknown⟩
      · rw [passwordOwner?, hid]
      · rw [passwordOwner?, ← sessionUser_arrived harrival, hknown]
        rfl
    rw [hset _ _ (hok ▸ successful_ok) howner hsent, husers]
    exact ⟨.changed row hmem hkeeps hhash, fun _ _ _ => ⟨row.id, p, rfl, hsent⟩⟩

/-- A request makes one step of the column. -/
theorem handle_passwords (hs : s.Sound) (hnow : InEra now) (r : Request) :
    PasswordStep s.store.users (s.passwordSet? now r) (s.handle now r).1.store.users := by
  cases harrival : s.arrival? now r with
  | none =>
    rw [passwordSet?_turned_away harrival, (handle_turned_away harrival).store]
    exact .still rfl
  | some arrival =>
    obtain ⟨m, e, v⟩ := arrival
    rw [(handle_arrived harrival).1, ← (arrival?_same harrival).store]
    exact (arrived_step harrival hs hnow).1

/-- The column after any requests is in step with the log of them. -/
theorem handleAll_passwords (hs : s.Sound) {log : List (String × Text)}
    (h : PasswordsKept s.store.users log) (requests : List (Instant × Request))
    (hera : ∀ p ∈ requests, InEra p.1) :
    PasswordsKept (s.handleAll requests).store.users (log ++ s.passwordsSet requests) := by
  induction requests generalizing s log with
  | nil => rwa [passwordsSet, List.append_nil]
  | cons p rest ih =>
    obtain ⟨hnow, hrest⟩ := List.forall_mem_cons.1 hera
    have hstep := handle_passwords hs hnow p.2
    rw [passwordsSet, ← List.append_assoc]
    exact ih ((Step.request p.1 p.2 hnow).sound hs) (hstep.kept hs.store.users.ids h) hrest

/-- What a request does to the passwords: only that of its owner changes, one that is sent and answered
with success is stored, and the own one is only changed by somebody who knows it. -/
structure SetsPasswords (s : Service) (now : Instant) (r : Request) : Prop where
  only : ∀ row ∈ s.store.users, ∃ row' ∈ (s.handle now r).1.store.users, row'.id = row.id ∧
    (row'.data.password = row.data.password ∨ ∃ p, s.passwordSet? now r = some (row.id, p))
  sent : ∀ e id, find r.target.path r.method = .handler e id → e.takesPassword = true →
    Successful (s.handle now r).2.status → sentPassword r e ≠ .null →
    ∃ row ∈ (s.handle now r).1.store.users, ∃ p, s.passwordSet? now r = some (row.id, p) ∧
      sentPassword r e = .text p ∧ Password.hash p = .ok row.data.password
  known : ∀ id, find r.target.path r.method = .handler .changePassword id →
    (s.handle now r).2.status = 200 → ∃ row ∈ s.store.users, ∃ current new, row.isLive = true ∧
      s.sessionUser (Cookie.sessionAt r.cookie now) = some row.item ∧
      readPasswordChange r = ⟨.text current, .text new, .text new⟩ ∧
      Password.check current row.data.password = true

theorem handle_setsPasswords (hs : s.Sound) (hnow : InEra now) (r : Request) :
    s.SetsPasswords now r where
  only row hrow := (handle_passwords hs hnow r).only hs.store.users.ids hrow
  sent e id hfound htakes hok hsome := by
    have hstep := handle_passwords hs hnow r
    obtain ⟨m, v, harrival⟩ := arrives_of_success hfound hok.2
    have hsets := (arrived_step harrival hs hnow).2
    rw [(arrival?_visit harrival).2.1, ← (handle_arrived harrival).2] at hsets
    obtain ⟨owner, p, hset, hsent⟩ := hsets hok htakes hsome
    rw [hset] at hstep
    obtain ⟨row, hrow, rfl, hhash⟩ := hstep.owned hs.store.users.ids
    exact ⟨row, hrow, p, hset, hsent, hhash⟩
  known id hfound hok := by
    obtain ⟨m, v, harrival⟩ := arrives_of_ok hfound hok
    have hm : m.store = s.store := (arrival?_same harrival).store
    have hends := changePassword_ends (v := v) (hm ▸ hs.store)
    rw [(handle_arrived harrival).2] at hok
    change (m.changePassword v).2.status = 200 at hok
    generalize m.changePassword v = out at hends hok
    cases hends with
    | refused hfails => exact absurd (hok ▸ successful_ok) hfails
    | @changed row current p _ _ hrow hknown hsent hright _ _ =>
      rw [hm] at hrow
      rw [sessionUser_arrived harrival] at hknown
      rw [(arrival?_visit harrival).2.1] at hsent
      obtain ⟨hmem, -, hlive⟩ := findRow?_live hrow
      exact ⟨row, hmem, current, p, hlive, hknown, hsent, hright⟩

/-- Passwords change only on request: after any requests to a service that has started, each user has
the hash of the password that was set last, which for the first administrator is that of the settings
until there is another. As long as the user is live, this password and the address in any ASCII case
authenticate the user. -/
theorem passwords_follow_requests {policy : Policy} {settings : Settings} {platform : String}
    {begin : Instant} {first : Service} (hbegin : InEra begin)
    (hstart : start policy settings platform begin = .ok first)
    (requests : List (Instant × Request)) (hera : ∀ p ∈ requests, InEra p.1) :
    let s := first.handleAll requests
    let log := (Fresh.idText 1, Text.ofString settings.adminPassword) :: first.passwordsSet requests
    (∀ row ∈ s.store.users, ∃ p, lastPassword? log row.id = some p ∧
        Password.hash p = .ok row.data.password ∧
        (row.isLive = true → ∀ address, SameAddress address row.data.email →
          Account.authenticate s.store (Text.ofString address) (.text p) = .ok (some row.item))) ∧
      ∀ now r, InEra now → s.SetsPasswords now r := by
  intro s log
  have hfirst : first.Sound := start_sound hbegin hstart
  have hs : s.Sound := (handleAll_reaches first requests hera).sound hfirst
  obtain ⟨-, hash, hhash, husers⟩ := start_users hstart
  have hseed : PasswordsKept first.store.users
      [(Fresh.idText 1, Text.ofString settings.adminPassword)] := by
    intro row hrow
    rw [husers, List.mem_singleton] at hrow
    rw [hrow]
    exact ⟨_, List.lookup_cons_self, hhash⟩
  refine ⟨fun row hrow => ?_, fun now r hnow => handle_setsPasswords hs hnow r⟩
  obtain ⟨p, hlast, hp⟩ := handleAll_passwords hfirst hseed requests hera row hrow
  refine ⟨p, hlast, hp, fun hlive address hsame => ?_⟩
  exact authenticate_row hs.store hrow hlive (noCaseSame_symm hsame.noCaseSame)
    (Password.check_hash hp)

/-- After somebody was added with a password, this user is authenticated by it. -/
theorem passwords_follow_requests_newcomer :
    ∃ (first : Service) (row : Row UserData),
      start (.ofProfile .testing .standard) .standard "" 0 = .ok first ∧
      (first.handle 0 (accountRequest "New@example.com")).2.status = 201 ∧
      first.passwordsSet [(0, accountRequest "New@example.com")]
        = [(row.id, Text.ofString "secret1")] ∧
      Account.authenticate (first.handleAll [(0, accountRequest "New@example.com")]).store
        (Text.ofString row.data.email) (.text (Text.ofString "secret1")) = .ok (some row.item) := by
  obtain ⟨first, hstart⟩ :
      ∃ first, start (.ofProfile .testing .standard) .standard "" 0 = .ok first := ⟨_, rfl⟩
  obtain ⟨data, hdata, hread⟩ : ∃ data, (accountRequest "New@example.com").object? = some data ∧
      sentAccount data = (some ⟨Text.ofString "New", Text.ofString "New@example.com",
        Text.ofString "secret1", 0⟩, some (Text.ofString "New@example.com"),
        some (Text.ofString "secret1")) :=
    Option.map_eq_some_iff.1 (by decide +kernel)
  obtain ⟨haccount, -, -⟩ := sentAccount_eq hread (by decide +kernel) (by decide +kernel)
  obtain ⟨v, hash, harrives, hcreated, hleft⟩ :=
    accountRequest_adds hstart hdata haccount (by decide +kernel)
  have hsent : sentPassword (accountRequest "New@example.com") .createUser
      = .text (Text.ofString "secret1") := by
    rw [sentPassword, hdata]
    · exact (readAccount_password haccount).1
    · rintro ⟨⟩
  -- The request sets the password of a row,
  obtain ⟨row, hrow, p, hset, hp, -⟩ :=
    ((passwords_follow_requests inEra_zero hstart [] (by rintro _ ⟨⟩)).2 0
      (accountRequest "New@example.com") inEra_zero).sent _ _ (arrival?_found harrives) rfl
      (hcreated ▸ successful_created) (by rw [hsent]; rintro ⟨⟩)
  cases Json.text.inj (hp.symm.trans hsent)
  have hlog : first.passwordsSet [(0, accountRequest "New@example.com")]
      = [(row.id, Text.ofString "secret1")] := by
    rw [passwordsSet, passwordsSet]
    exact congrArg (·.toList ++ []) hset
  -- and the row has it afterwards.
  obtain ⟨p, hlast, -, hauth⟩ := (passwords_follow_requests inEra_zero hstart
    [(0, accountRequest "New@example.com")] (by simp [inEra_zero])).1 row hrow
  rw [hlog] at hlast
  cases Option.some.inj (hlast.symm.trans List.lookup_cons_self)
  have hlive : row.isLive = true := by
    change row ∈ (first.handle 0 _).1.store.users at hrow
    obtain ⟨-, _, -, husers⟩ := start_users hstart
    rw [hleft, withUser] at hrow
    simp only [husers, List.mem_append, List.mem_singleton] at hrow
    rcases hrow with rfl | rfl <;> rfl
  exact ⟨first, row, hstart, hcreated, hlog, hauth hlive _ rfl⟩

end Service

end Pressroom
