import Pressroom.Proofs.Service.Reach
import Pressroom.Proofs.Store.Lifecycle

/-!
The life of a row while the service runs. Four handlers and five calls delete a row or bring one
back; all others edit at most. So a row is never lost, and a deleted one stays as it is until one of
these handlers or calls has brought it back.
-/
namespace Pressroom

open Web

/-- The turn that a handler asks the store for. -/
def Web.Endpoint.turn? : Endpoint → Option Store.Turn
  | .deletePost => some .deletePost
  | .restorePost => some .restorePost
  | .deleteUser => some .deleteUser
  | .deleteKey => some .deleteKey
  | _ => none

/-- The kind of the rows that a handler may change. -/
def Web.Endpoint.kind : Endpoint → RecordKind
  | .createPost | .updatePost | .deletePost | .restorePost => .post
  | .createKey | .deleteKey => .apiKey
  | _ => .user

/-- The turn that a call asks the store for, and the id that it is about. -/
def Call.turn? : Call → Option (Store.Turn × Text)
  | .deleteUser id => some (.deleteUser, id)
  | .restoreUser id => some (.restoreUser, id)
  | .deletePost id => some (.deletePost, id)
  | .restorePost id => some (.restorePost, id)
  | .deleteKey id => some (.deleteKey, id)
  | _ => none

namespace Service

open Store

variable {s : Service} {now : Instant} {v : Visit}

/-! ### Handlers that edit -/

theorem addUser_edits (now : Instant) (n : NewUser) :
    Edits now .user s.store (s.addUser now n).1.store := by
  rw [addUser]
  cases h : s.store.createUser s.fresh.nextId now n with
  | error f => exact .refl
  | ok made => exact createUser_edits h

theorem addPost_edits (now : Instant) (n : PostParts) :
    Edits now .post s.store (s.addPost now n).1.store := by
  rw [addPost]
  cases h : s.store.createPost s.fresh.nextId now n with
  | error f => exact .refl
  | ok made => exact createPost_edits h

theorem addKey_edits (now : Instant) (n : KeyParts) :
    Edits now .apiKey s.store (s.addKey now n).1.store := by
  rw [addKey]
  cases h : s.store.createKey s.fresh.nextId now n with
  | error f => exact .refl
  | ok made => exact createKey_edits h

theorem issueKey_edits (now : Instant) (owner : Option Text) (expires : Option Int) :
    Edits now .apiKey s.store (s.issueKey now owner expires).1.store := by
  rw [issueKey]
  cases h : Account.issue s.store s.fresh.nextId s.fresh.nextToken now owner expires with
  | error f => exact .refl
  | ok made => exact createKey_edits h

theorem addAccount_edits (a : NewAccount) :
    Edits v.now .user s.store (s.addAccount v a).1.store := by
  rw [addAccount]
  cases Password.hash a.password with
  | error f => exact .refl
  | ok hash =>
    have hadded := addUser_edits (s := s) v.now
      ⟨some a.fullname, some a.email, some (Text.ofString hash), some a.permissions⟩
    dsimp only
    split <;> rename_i h <;> rw [h] at hadded <;> exact hadded

theorem storeChanges_edits {store : Store} {changes : UserChanges}
    (h : storeChanges s.store v changes = .ok store) : Edits v.now .user s.store store := by
  obtain ⟨-, rfl⟩ | ⟨-, found, hu⟩ := storeChanges_eq_ok h
  · exact .refl
  · exact updateUser_edits hu

theorem storeNewPassword_edits {t store : Store} {password : Option Text}
    (h : storeNewPassword t v password = .ok store) : Edits v.now .user t store := by
  obtain ⟨-, rfl⟩ | ⟨new, hash, found, -, -, hu⟩ := storeNewPassword_eq_ok h
  · exact .refl
  · exact updatePassword_edits hu

theorem changeUser_edits (data : Json) :
    Edits v.now .user s.store (s.changeUser v data).1.store := by
  obtain hsame | ⟨changes, password, store, -, hchanges, hmade⟩ :=
    changeUser_eq (s := s) (v := v) data
  · rw [hsame]
  · have hstored := storeChanges_edits hchanges
    obtain hmade | ⟨final, hpassword, hmade⟩ := hmade
    · rw [hmade]; exact hstored
    · rw [hmade]; exact hstored.trans (storeNewPassword_edits hpassword)

theorem edits_guarded {k : RecordKind} {permission : String} {action : Caller → Service × Reply}
    (h : ∀ caller, Edits v.now k s.store (action caller).1.store) :
    Edits v.now k s.store (s.guarded v permission action).1.store :=
  guarded_cases (motive := fun r => Edits v.now k s.store r.1.store) (fun _ _ => .refl)
    fun caller _ => h caller

theorem changePassword_edits : Edits v.now .user s.store (s.changePassword v).1.store := by
  cases h : s.changePassword v with
  | mk t reply =>
    rcases changePassword_eq h with rfl | ⟨_, r, password, -, hr, -, rfl, -⟩
    · exact .refl
    · exact .single (Edit.revise (k := .user) r _ hr)

theorem createPost_edits : Edits v.now .post s.store (s.createPost v).1.store := by
  refine edits_guarded fun caller => ?_
  split
  · exact .refl
  · split
    · exact .refl
    · have hadded := addPost_edits (s := s) v.now ‹PostParts›
      split <;> rename_i h <;> rw [h] at hadded <;> exact hadded

theorem updatePost_edits : Edits v.now .post s.store (s.updatePost v).1.store := by
  refine edits_guarded fun _ => ?_
  split
  · exact .refl
  · split
    · exact .refl
    · split
      · exact .refl
      · dsimp only
        split
        · exact .refl
        · exact .refl
        · rename_i store h
          have hedits := Store.updatePost_edits h
          split <;> exact hedits

theorem createUser_edits : Edits v.now .user s.store (s.createUser v).1.store := by
  refine edits_guarded fun _ => ?_
  split
  · exact .refl
  · split
    · exact .refl
    · split
      · exact .refl
      · exact .refl
      · exact addAccount_edits _

theorem updateUser_edits : Edits v.now .user s.store (s.updateUser v).1.store := by
  refine edits_guarded fun _ => ?_
  split
  · exact .refl
  · split
    · exact .refl
    · exact .refl
    · exact changeUser_edits _

theorem createKey_edits : Edits v.now .apiKey s.store (s.createKey v).1.store := by
  refine edits_guarded fun caller => ?_
  split
  · exact .refl
  · rename_i owner expires _
    have hissued := issueKey_edits (s := s) v.now (some owner) expires
    split <;> rename_i h <;> rw [h] at hissued <;> exact hissued

/-- A handler that does not ask for a turn edits at most. -/
theorem dispatch_edits {e : Endpoint} (he : e.turn? = none) :
    Edits v.now e.kind s.store (s.dispatch e v).1.store := by
  by_cases hr : e.isAsked = true
  · rw [asked_store hr]
  · cases e <;> try exact absurd rfl hr
    case login | logout => exact .refl
    case changePassword => exact changePassword_edits
    case createPost => exact createPost_edits
    case updatePost => exact updatePost_edits
    case createUser => exact createUser_edits
    case updateUser => exact updateUser_edits
    case createKey => exact createKey_edits
    all_goals cases he

/-! ### Handlers that ask for a turn -/

/-- What is left by a handler that asks for a turn: the store as it was, or as the turn left it. -/
def Turns (t : Turn) (v : Visit) (s s' : Service) : Prop :=
  s'.store = s.store ∨ t.carryOut s.store v.key v.now = .ok (s'.store, true)

theorem turns_guarded {t : Turn} {permission : String} {action : Caller → Service × Reply}
    (h : ∀ caller, Turns t v s (action caller).1) :
    Turns t v s (s.guarded v permission action).1 :=
  guarded_cases (motive := fun r => Turns t v s r.1) (fun _ _ => .inl rfl) fun caller _ => h caller

theorem dispatch_turns {e : Endpoint} {t : Turn} (he : e.turn? = some t) :
    Turns t v s (s.dispatch e v).1 := by
  cases e <;> cases he
  case deletePost =>
    refine turns_guarded fun _ => ?_
    split
    · exact .inl rfl
    · exact .inl rfl
    · rename_i store h; exact .inr h
  case restorePost =>
    refine turns_guarded fun _ => ?_
    split
    · exact .inl rfl
    · exact .inl rfl
    · rename_i store h; split <;> exact .inr h
  case deleteUser =>
    refine turns_guarded fun caller => ?_
    split
    · exact .inl rfl
    · split
      · exact .inl rfl
      · exact .inl rfl
      · rename_i store h; exact .inr h
  case deleteKey =>
    refine turns_guarded fun _ => ?_
    split
    · exact .inl rfl
    · exact .inl rfl
    · rename_i store h; exact .inr h

/-- A handler leaves the rows of the other kinds alone. -/
theorem dispatch_rows_of_ne {e : Endpoint} {k : RecordKind} (hk : k ≠ e.kind) :
    (s.dispatch e v).1.store.rows k = s.store.rows k := by
  cases he : e.turn? with
  | none => exact Edits.rows_of_ne (dispatch_edits he) hk
  | some t =>
    have hkind : t.kind = e.kind := by cases e <;> cases he <;> rfl
    obtain hsame | hdone := dispatch_turns (s := s) (v := v) he
    · rw [hsame]
    · obtain ⟨-, h⟩ | ⟨-, r, -, hafter⟩ := Turn.carryOut_eq_ok hdone
      · cases h
      · rw [hafter, Turn.after, rows_withRows_of_ne _ (hkind ▸ hk)]

/-! ### Requests and calls -/

/-- The turn that a request asks for, and the id that it is about. -/
def asked? (s : Service) (now : Instant) (r : Request) : Option (Turn × Text) :=
  match s.arrival? now r with
  | none => none
  | some (_, e, v) => e.turn?.map fun t => (t, v.key)

theorem handle_passes (hs : s.store.Keyed) (now : Instant) (r : Request) :
    Passes now s.store (s.handle now r).1.store (s.asked? now r) := by
  rw [asked?]
  cases h : s.arrival? now r with
  | none => rw [(handle_turned_away h).store]; exact (Keeps.refl _).passes _
  | some arrival =>
    obtain ⟨m, e, v⟩ := arrival
    have hm := (arrival?_same h).store
    have hv := (arrival?_visit h).1
    rw [(handle_arrived h).1]
    dsimp only
    cases he : e.turn? with
    | none =>
      have hedits : Edits v.now e.kind m.store (m.dispatch e v).1.store := dispatch_edits he
      rw [hm] at hedits
      exact (Edits.keeps hedits hs).passes _
    | some t =>
      have hturns : Turns t v m (m.dispatch e v).1 := dispatch_turns he
      rw [Turns, hm, hv] at hturns
      obtain hsame | hdone := hturns
      · rw [hsame]; exact (Keeps.refl _).passes _
      · exact Turn.passes hs hdone

end Service

namespace Call

open Store

variable {s : Service} {now : Instant}

/-- A call for a turn says what the store says. -/
theorem perform_turn {c : Call} {t : Turn} {id : Text} (h : c.turn? = some (t, id)) :
    c.perform s now = change s (t.carryOut s.store id now) := by
  cases c <;> cases h <;> rfl

theorem change_edits {k : RecordKind} {r : StoreResult (Store × Bool)}
    (h : ∀ t found, r = .ok (t, found) → Edits now k s.store t) :
    Edits now k s.store (change s r).1.store := by
  cases r with
  | error f => exact .refl
  | ok made => exact h made.1 made.2 rfl

/-- A call of the program that does not ask for a turn neither deletes a row nor brings one back. -/
theorem perform_keeps {c : Call} (hs : s.store.Keyed) (hc : c.routine = true)
    (h : c.turn? = none) : Keeps s.store (c.perform s now).1.store := by
  have hedits : ∀ {k}, Edits now k s.store (c.perform s now).1.store →
      Keeps s.store (c.perform s now).1.store := fun e => Edits.keeps e hs
  cases c
  case getUser | getUserByEmail | listUsers | countUsers | getPost | findPost | listPosts
      | countPosts | getKey | getKeyByDigest | listKeys | listKeysOf | authenticate | resolveKey
      | hasPermission | describeSchema => exact .refl _
  case dropTable | wipe | setTime | loseStore => cases hc
  case deleteUser | restoreUser | deletePost | restorePost | deleteKey => cases h
  case createUser n => exact hedits (Service.addUser_edits now n)
  case updateUser id given =>
    refine hedits (change_edits (k := .user) fun t found h => ?_)
    obtain ⟨c, -, h⟩ := bind_eq_ok.1 h
    exact updateUser_edits h
  case updatePassword => exact hedits (change_edits fun t found h => updatePassword_edits h)
  case createPost n => exact hedits (Service.addPost_edits now n)
  case updatePost id given =>
    refine hedits (change_edits (k := .post) fun t found h => ?_)
    obtain ⟨c, -, h⟩ := bind_eq_ok.1 h
    exact updatePost_edits h
  case createKey n => exact hedits (Service.addKey_edits now n)
  case issueKey owner expires => exact hedits (Service.issueKey_edits now owner expires)
  case registerPermission name => rw [perform]; split <;> exact .refl _
  case setUp =>
    have hkeeps := setUp_keeps s.store s.fresh.nextId now s.seed
    rw [perform, Service.setUp]
    cases h : s.store.setUp s.fresh.nextId now s.seed with
    | mk store made => rw [h] at hkeeps; cases made <;> exact hkeeps

theorem perform_passes (hs : s.store.Keyed) {c : Call} (hc : c.routine = true) :
    Passes now s.store (c.perform s now).1.store c.turn? := by
  cases h : c.turn? with
  | none => exact (perform_keeps hs hc h).passes _
  | some asked =>
    obtain ⟨t, id⟩ := asked
    rw [perform_turn h]
    cases hdone : t.carryOut s.store id now with
    | error f => exact (Keeps.refl _).passes _
    | ok made => exact Turn.passes hs hdone

end Call

namespace Service

open Store

/-- A service that has just started has no rows but its administrator. -/
theorem start_rows {policy : Policy} {settings : Settings} {platform : String} {now : Instant}
    {first : Service} (h : start policy settings platform now = .ok first) {k : RecordKind}
    (hk : k ≠ .user) : first.store.rows k = [] := by
  rw [start] at h
  split at h
  · cases h
  · rename_i service hsetup
    cases h
    rw [setUp] at hsetup
    dsimp only at hsetup
    split at hsetup
    · cases hsetup
    · rename_i store seeded hmade
      cases hsetup
      have hrows := setUp_rows Store.blank Fresh.none.nextId now
        ⟨settings.adminEmail, settings.adminPassword⟩ hk
      rw [hmade] at hrows
      exact hrows.trans (by cases k <;> rfl)

/-! ### Runs -/

variable {s t u : Service} {k : RecordKind} {r : Row k.Data}

/-- A step keeps every row, and turns one only if it was asked to. -/
theorem Step.passes (h : s.Step t) (hs : s.store.Keyed) :
    ∃ now asked, Passes now s.store t.store asked := by
  cases h with
  | request now r _ => exact ⟨now, _, handle_passes hs now r⟩
  | call now c _ hc => exact ⟨now, _, Call.perform_passes hs hc⟩
  | counted m h => exact ⟨0, none, by rw [h.store]; exact (Keeps.refl _).passes _⟩

/-- No row is ever lost, and none changes its id or the time of its creation. -/
theorem Reaches.stays (h : s.Reaches t) (hs : s.Sound) (hr : r ∈ s.store.rows k) :
    ∃ r' ∈ t.store.rows k, r'.id = r.id ∧ r'.created = r.created := by
  induction h with
  | refl => exact ⟨r, hr, rfl, rfl⟩
  | tail hreach step ih =>
    obtain ⟨r', hr', hid, hcreated⟩ := ih
    obtain ⟨now, asked, hpasses⟩ := step.passes (Reaches.sound hreach hs).store.keyed
    obtain ⟨r'', hr'', hid', hcreated'⟩ := hpasses.stays k r' hr'
    exact ⟨r'', hr'', hid'.trans hid, hcreated'.trans hcreated⟩

/-- Somewhere between two services the row was brought back; up to then it stood as it is. -/
def BroughtBack (s t : Service) (k : RecordKind) (r : Row k.Data) : Prop :=
  ∃ u u' now, ∃ turn : Turn, s.Reaches u ∧ u.Step u' ∧ u'.Reaches t ∧ r ∈ u.store.rows k ∧
    turn.kind = k ∧ turn.deletes = false ∧
    turn.carryOut u.store (Text.ofString r.id) now = .ok (u'.store, true)

theorem BroughtBack.tail (h : BroughtBack s t k r) (step : t.Step u) : BroughtBack s u k r := by
  obtain ⟨v, v', now, turn, hfirst, hstep, hlast, hturn⟩ := h
  exact ⟨v, v', now, turn, hfirst, hstep, hlast.tail step, hturn⟩

/-- A deleted row stays exactly as it is until it is brought back. -/
theorem Reaches.rests (h : s.Reaches t) (hs : s.Sound) (hr : r ∈ s.store.rows k)
    (hgone : r.isLive = false) : r ∈ t.store.rows k ∨ BroughtBack s t k r := by
  induction h with
  | refl => exact .inl hr
  | @tail u t hreach step ih =>
    obtain hr | hback := ih
    · obtain ⟨now, asked, hpasses⟩ := step.passes (Reaches.sound hreach hs).store.keyed
      obtain ⟨r', hr', hkept | ⟨turn, -, hk, hlife, hdone, -⟩⟩ := hpasses k r hr
      · rw [hkept.gone hgone] at hr'; exact .inl hr'
      · exact .inr ⟨u, t, now, turn, hreach, step, .refl, hr, hk, hlife.symm.trans hgone, hdone⟩
    · exact .inr (hback.tail step)

/-- The life of the rows of a service, as they are and as they will be. -/
structure RowsEndure (s : Service) : Prop where
  /-- No two rows of a table have one id. -/
  ids : s.store.Keyed
  /-- A deleted row was last changed when it was deleted. -/
  deleted : ∀ k, ∀ r ∈ s.store.rows k, r.isLive = false → r.deleted = r.updated
  /-- A request deletes or brings back the row that it asks for at most. -/
  request : ∀ now r, Passes now s.store (s.handle now r).1.store (s.asked? now r)
  /-- A call of the program does so as well. -/
  call : ∀ now (c : Call), c.routine = true →
    Passes now s.store (c.perform s now).1.store c.turn?
  /-- Every row stays, with its id and the time of its creation. -/
  stays : ∀ t, s.Reaches t → ∀ k, ∀ r ∈ s.store.rows k,
    ∃ r' ∈ t.store.rows k, r'.id = r.id ∧ r'.created = r.created
  /-- A deleted row stays as it is until it is brought back. -/
  rests : ∀ t, s.Reaches t → ∀ k, ∀ r ∈ s.store.rows k, r.isLive = false →
    r ∈ t.store.rows k ∨ BroughtBack s t k r
  /-- A call to delete a row or bring one back is answered, unless a user would come back to an
  address that somebody else has. -/
  answered : ∀ (turn : Turn) id now, turn.Answered s.store id now
  /-- Such a call answers with true exactly if it has changed something. -/
  told : ∀ now (c : Call) turn id, c.turn? = some (turn, id) →
    ((c.perform s now).2 = .ok (.bool true) ↔ (c.perform s now).1.store ≠ s.store)
  /-- What it has changed then is the row of this id and nothing else. -/
  alone : ∀ now (c : Call) turn id, c.turn? = some (turn, id) →
    (c.perform s now).1.store = s.store ∨ ∃ r, turn.Meets s.store id r ∧
      (c.perform s now).1.store = turn.after s.store r.id now
  /-- A row that is deleted and brought back is as it was, up to the time of its last change. -/
  returns : ∀ k, ∀ r ∈ s.store.rows k, ∀ del res : Turn, del.kind = k → del.deletes = true →
    res.kind = k → res.deletes = false → ∀ gone back mid final,
    del.carryOut s.store (Text.ofString r.id) gone = .ok (mid, true) →
    res.carryOut mid (Text.ofString r.id) back = .ok (final, true) →
    final = s.store.withRows k
      (reviseRow (s.store.rows k) r.id fun x => { x with updated := some (.ofInstant back) })
  /-- However much later it is brought back, it is as it was. -/
  comes : ∀ k (r : Row k.Data) gone, r.isLive = true → softDeleted gone r ∈ s.store.rows k →
    ∀ res : Turn, res.kind = k → res.deletes = false → ∀ back final,
    res.carryOut s.store (Text.ofString r.id) back = .ok (final, true) →
    final = s.store.withRows k
      (reviseRow (s.store.rows k) r.id fun _ => { r with updated := some (.ofInstant back) })

end Service

namespace Call

open Store

variable {s : Service} {now : Instant} {c : Call} {t : Turn} {id : Text}

theorem turn_told (hs : s.store.Keyed) (h : c.turn? = some (t, id)) :
    (c.perform s now).2 = .ok (.bool true) ↔ (c.perform s now).1.store ≠ s.store := by
  rw [perform_turn h]
  cases hdone : t.carryOut s.store id now with
  | error f => simp [change]
  | ok made =>
    obtain ⟨store, found⟩ := made
    rw [change, ← Turn.found_iff hs hdone]
    constructor
    · intro htrue; cases htrue; rfl
    · rintro rfl; rfl

theorem turn_alone (h : c.turn? = some (t, id)) :
    (c.perform s now).1.store = s.store ∨ ∃ r, t.Meets s.store id r ∧
      (c.perform s now).1.store = t.after s.store r.id now := by
  rw [perform_turn h]
  cases hdone : t.carryOut s.store id now with
  | error f => exact .inl rfl
  | ok made =>
    obtain ⟨hsame, -⟩ | ⟨-, r, hr, hafter⟩ := Turn.carryOut_eq_ok hdone
    · exact .inl hsame
    · exact .inr ⟨r, hr, hafter⟩

end Call

namespace Service

open Store

/-- In every state that a service gets into, the rows live on: none is ever lost, and one that is
deleted rests as it is until it is brought back. -/
theorem rows_endure {policy : Policy} {settings : Settings} {platform : String} {begin : Instant}
    {first s : Service} (hbegin : InEra begin)
    (hstart : start policy settings platform begin = .ok first) (hreach : first.Reaches s) :
    s.RowsEndure := by
  have hs : s.Sound := hreach.sound (start_sound hbegin hstart)
  have hkeyed := hs.store.keyed
  exact {
    ids := hkeyed
    deleted := fun k r hr hgone =>
      ((hs.store.table k).times r hr).deleted.resolve_left (by rw [hgone]; decide)
    request := fun now r => handle_passes hkeyed now r
    call := fun _ _ hc => Call.perform_passes hkeyed hc
    stays := fun _ h _ _ hr => h.stays hs hr
    rests := fun _ h _ _ hr hgone => h.rests hs hr hgone
    answered := hs.store.answered
    told := fun _ _ _ _ h => Call.turn_told hkeyed h
    alone := fun _ _ _ _ h => Call.turn_alone h
    returns := fun _ _ hr _ _ hdk hd hrk hres _ _ _ _ hgone hback =>
      Turn.returns hkeyed hr hdk hd hrk hres hgone hback
    comes := fun _ _ _ hlive hr _ hrk hres _ _ hback =>
      Turn.brings_back hkeyed hlive hr hrk hres hback }

/-- The first administrator is deleted and rests. -/
theorem rows_endure_seed :
    ∃ first, start (.ofProfile .testing .standard) .standard "" 0 = .ok first ∧
      ∃ s, s = ((Call.deleteUser (Text.ofString (Fresh.idText 1))).perform first 0).1 ∧
        (∃ r ∈ s.store.users, r.isLive = false) ∧ s.RowsEndure := by
  obtain ⟨first, hstart, hdead⟩ :
      ∃ first, start (.ofProfile .testing .standard) .standard "" 0 = .ok first ∧
        ∃ r ∈ ((Call.deleteUser (Text.ofString (Fresh.idText 1))).perform first 0).1.store.users,
          r.isLive = false := ⟨_, rfl, by decide +kernel⟩
  exact ⟨first, hstart, _, rfl, hdead,
    rows_endure inEra_zero hstart (.single (.call 0 _ inEra_zero rfl))⟩

end Service

end Pressroom
