import Pressroom.Proofs.Service.Reach

/-!
Ids are given out once. Every row gets the next id of the counter, the counter never goes back, and
no change of a row touches its id; so in every state that a service gets into, the id that comes next
is none of those in the tables, deleted rows included.
-/
namespace Pressroom

open Web

/-! ### The texts of the counter -/

/-- A number that is filled up with zeros is still that number. -/
theorem ofDigitChars_padded (width n : Nat) :
    Nat.ofDigitChars 10 (padded '0' width n).toList 0 = n := by
  simp only [padded, String.toList_append, String.toList_ofList]
  rw [Nat.ofDigitChars_append, Nat.ofDigitChars_replicate_zero, Nat.mul_zero, Nat.toString_eq_repr,
    Nat.toList_repr, Nat.ofDigitChars_ten_toDigits]

namespace Fresh

theorem idText_injective {m n : Nat} (h : idText m = idText n) : m = n := by
  have hpadded : padded '0' 12 m = padded '0' 12 n := (String.append_right_inj _).1 h
  rw [← ofDigitChars_padded 12 m, hpadded, ofDigitChars_padded]

end Fresh

/-! ### The ids in the tables -/

namespace Store

/-- The ids of all rows. -/
def ids (s : Store) : List String :=
  s.users.map (·.id) ++ (s.posts.map (·.id) ++ s.keys.map (·.id))

variable {s s' : Store} {now : Instant} {id : Text} {found : Bool}

theorem users_ne {new : String} (h : new ∉ s.ids) : ∀ r ∈ s.users, r.id ≠ new :=
  fun _ hr hid => h (hid ▸ List.mem_append_left _ (List.mem_map_of_mem hr))

theorem posts_ne {new : String} (h : new ∉ s.ids) : ∀ r ∈ s.posts, r.id ≠ new := fun _ hr hid =>
  h (hid ▸ List.mem_append_right _ (List.mem_append_left _ (List.mem_map_of_mem hr)))

theorem keys_ne {new : String} (h : new ∉ s.ids) : ∀ r ∈ s.keys, r.id ≠ new := fun _ hr hid =>
  h (hid ▸ List.mem_append_right _ (List.mem_append_right _ (List.mem_map_of_mem hr)))

theorem ids_reviseUsers {f : Row UserData → Row UserData} (hf : KeepsId f) (key : String) :
    ({ s with users := reviseRow s.users key f } : Store).ids = s.ids := by
  rw [ids, ids, ids_reviseRow hf]

theorem ids_revisePosts {f : Row PostData → Row PostData} (hf : KeepsId f) (key : String) :
    ({ s with posts := reviseRow s.posts key f } : Store).ids = s.ids := by
  rw [ids, ids, ids_reviseRow hf]

theorem ids_reviseKeys {f : Row KeyData → Row KeyData} (hf : KeepsId f) (key : String) :
    ({ s with keys := reviseRow s.keys key f } : Store).ids = s.ids := by
  rw [ids, ids, ids_reviseRow hf]

theorem updateUser_ids {c : UserChanges} (h : s.updateUser id now c = .ok (s', found)) :
    s'.ids = s.ids := by
  obtain ⟨rfl, -⟩ | ⟨-, r, change, -, -, -, -, rfl⟩ := updateUser_eq_ok h
  · rfl
  · exact ids_reviseUsers (keepsId_revised now change) _

theorem updatePassword_ids {password : Option Text}
    (h : s.updatePassword id now password = .ok (s', found)) : s'.ids = s.ids := by
  obtain rfl | ⟨-, r, hash, -, -, -, rfl⟩ := updatePassword_eq_ok h
  · rfl
  · exact ids_reviseUsers (keepsId_revised now _) _

theorem deleteUser_ids (h : s.deleteUser id now = .ok (s', found)) : s'.ids = s.ids := by
  obtain ⟨rfl, -⟩ | ⟨-, r, -, -, rfl⟩ := deleteUser_eq_ok h
  · rfl
  · exact ids_reviseUsers (keepsId_softDeleted now) _

theorem restoreUser_ids (h : s.restoreUser id now = .ok (s', found)) : s'.ids = s.ids := by
  obtain ⟨rfl, -⟩ | ⟨-, r, -, -, -, -, rfl⟩ := restoreUser_eq_ok h
  · rfl
  · exact ids_reviseUsers (keepsId_restored now) _

theorem updatePost_ids {c : PostChanges} (h : s.updatePost id now c = .ok (s', found)) :
    s'.ids = s.ids := by
  obtain ⟨rfl, -⟩ | ⟨-, r, change, -, -, -, rfl⟩ := updatePost_eq_ok h
  · rfl
  · exact ids_revisePosts (keepsId_revised now change) _

theorem deletePost_ids (h : s.deletePost id now = .ok (s', found)) : s'.ids = s.ids := by
  obtain ⟨rfl, -⟩ | ⟨-, r, -, -, rfl⟩ := deletePost_eq_ok h
  · rfl
  · exact ids_revisePosts (keepsId_softDeleted now) _

theorem restorePost_ids (h : s.restorePost id now = .ok (s', found)) : s'.ids = s.ids := by
  obtain ⟨rfl, -⟩ | ⟨-, r, -, -, -, rfl⟩ := restorePost_eq_ok h
  · rfl
  · exact ids_revisePosts (keepsId_restored now) _

theorem deleteKey_ids (h : s.deleteKey id now = .ok (s', found)) : s'.ids = s.ids := by
  obtain ⟨rfl, -⟩ | ⟨-, r, -, -, rfl⟩ := deleteKey_eq_ok h
  · rfl
  · exact ids_reviseKeys (keepsId_softDeleted now) _

end Store

/-! ### Given out -/

namespace Service

open Store

/-- Every id in the tables has been given out. -/
def Issued (s : Service) : Prop := ∀ id ∈ s.store.ids, ∃ n ≤ s.fresh.ids, id = Fresh.idText n

/-- The id that comes next is none of those in the tables. -/
theorem Issued.nextId {s : Service} (h : s.Issued) : s.fresh.nextId ∉ s.store.ids := by
  intro hmem
  obtain ⟨n, hn, hid⟩ := h _ hmem
  have hsame := Fresh.idText_injective hid
  omega

/-- The counter does not go back, and every id that was not in the tables before is the one that came
next and is used up. -/
structure Grows (s t : Service) : Prop where
  counter : s.fresh.ids ≤ t.fresh.ids
  ids : ∀ id ∈ t.store.ids, id ∈ s.store.ids ∨ id = s.fresh.nextId ∧ s.fresh.ids < t.fresh.ids

theorem Issued.grows {s t : Service} (h : s.Issued) (g : s.Grows t) : t.Issued := by
  intro id hid
  rcases g.ids id hid with hold | ⟨rfl, hlt⟩
  · obtain ⟨n, hn, rfl⟩ := h id hold
    exact ⟨n, Nat.le_trans hn g.counter, rfl⟩
  · exact ⟨s.fresh.ids + 1, hlt, rfl⟩

variable {s t : Service} {v : Visit} {now : Instant}

theorem Grows.of_eq (hfresh : t.fresh.ids = s.fresh.ids) (hids : t.store.ids = s.store.ids) :
    s.Grows t :=
  ⟨Nat.le_of_eq hfresh.symm, fun _ hid => .inl (hids ▸ hid)⟩

theorem Grows.refl (s : Service) : s.Grows s := .of_eq rfl rfl

/-- A change of the store that touches no id. -/
theorem Grows.store {store : Store} (h : store.ids = s.store.ids) :
    s.Grows { s with store } := .of_eq rfl h

/-! ### Adding rows -/

theorem addUser_grows (s : Service) (now : Instant) (n : NewUser) : s.Grows (s.addUser now n).1 := by
  rw [addUser]
  cases h : s.store.createUser s.fresh.nextId now n with
  | error f => exact ⟨Nat.le_succ _, fun _ hid => .inl hid⟩
  | ok made =>
    obtain ⟨data, -, -, -, hstore, -⟩ := createUser_eq_ok h
    refine ⟨Nat.le_succ _, fun id hid => ?_⟩
    simp only [hstore, Store.ids, List.map_append, List.mem_append, List.map_cons, List.map_nil,
      List.mem_singleton] at hid ⊢
    rcases hid with (hid | rfl) | hid | hid
    · exact .inl (.inl hid)
    · exact .inr ⟨rfl, Nat.lt_succ_self _⟩
    · exact .inl (.inr (.inl hid))
    · exact .inl (.inr (.inr hid))

theorem addPost_grows (s : Service) (now : Instant) (n : PostParts) : s.Grows (s.addPost now n).1 := by
  rw [addPost]
  cases h : s.store.createPost s.fresh.nextId now n with
  | error f => exact ⟨Nat.le_succ _, fun _ hid => .inl hid⟩
  | ok made =>
    obtain ⟨data, -, -, hstore, -⟩ := createPost_eq_ok h
    refine ⟨Nat.le_succ _, fun id hid => ?_⟩
    simp only [hstore, Store.ids, List.map_append, List.mem_append, List.map_cons, List.map_nil,
      List.mem_singleton] at hid ⊢
    rcases hid with hid | (hid | rfl) | hid
    · exact .inl (.inl hid)
    · exact .inl (.inr (.inl hid))
    · exact .inr ⟨rfl, Nat.lt_succ_self _⟩
    · exact .inl (.inr (.inr hid))

/-- What an added key leaves behind: its row comes last. -/
theorem grows_of_key {made : Store} {fresh : Fresh} {data : KeyData}
    (hfresh : s.fresh.ids < fresh.ids)
    (hstore : made = { s.store with keys := s.store.keys ++ [.newRow s.fresh.nextId data now] }) :
    s.Grows { s with fresh, store := made } := by
  refine ⟨Nat.le_of_lt hfresh, fun id hid => ?_⟩
  simp only [hstore, Store.ids, List.map_append, List.mem_append, List.map_cons, List.map_nil,
    List.mem_singleton] at hid ⊢
  rcases hid with hid | hid | hid | rfl
  · exact .inl (.inl hid)
  · exact .inl (.inr (.inl hid))
  · exact .inl (.inr (.inr hid))
  · exact .inr ⟨rfl, hfresh⟩

theorem addKey_grows (s : Service) (now : Instant) (n : KeyParts) : s.Grows (s.addKey now n).1 := by
  rw [addKey]
  cases h : s.store.createKey s.fresh.nextId now n with
  | error f => exact ⟨Nat.le_succ _, fun _ hid => .inl hid⟩
  | ok made =>
    obtain ⟨data, -, -, -, hstore, -⟩ := createKey_eq_ok h
    exact grows_of_key (Nat.lt_succ_self _) hstore

theorem issueKey_grows (s : Service) (now : Instant) (owner : Option Text) (expires : Option Int) :
    s.Grows (s.issueKey now owner expires).1 := by
  rw [issueKey]
  cases h : Account.issue s.store s.fresh.nextId s.fresh.nextToken now owner expires with
  | error f => exact ⟨Nat.le_succ _, fun _ hid => .inl hid⟩
  | ok made =>
    obtain ⟨data, -, -, -, hstore, -⟩ := createKey_eq_ok h
    exact grows_of_key (Nat.lt_succ_self _) hstore

/-! ### Requests -/

theorem grows_guarded {permission : String} {action : Caller → Service × Reply}
    (h : ∀ caller, s.Grows (action caller).1) : s.Grows (s.guarded v permission action).1 :=
  guarded_cases (motive := fun r => s.Grows r.1) (fun _ _ => .refl s) fun c _ => h c

/-- A handler that makes a change of the store without touching an id. -/
theorem grows_of_change {r : StoreResult (Store × Bool)} {failed missing : Reply}
    (h : ∀ t found, r = .ok (t, found) → t.ids = s.store.ids) :
    s.Grows (match r with
      | .error _ => (s, failed)
      | .ok (_, false) => (s, missing)
      | .ok (store, true) => ({ s with store }, .success)).1 := by
  cases r with
  | error f => exact .refl s
  | ok made =>
    obtain ⟨store, found⟩ := made
    cases found with
    | false => exact .refl s
    | true => exact .store (h store true rfl)

theorem addAccount_grows (a : NewAccount) : s.Grows (s.addAccount v a).1 := by
  rw [addAccount]
  cases Password.hash a.password with
  | error f => exact .refl s
  | ok hash =>
    have hadded := addUser_grows s v.now
      ⟨some a.fullname, some a.email, some (Text.ofString hash), some a.permissions⟩
    dsimp only
    split <;> rename_i h <;> rw [h] at hadded <;> exact hadded

theorem storeChanges_ids {store : Store} {changes : UserChanges}
    (h : storeChanges s.store v changes = .ok store) : store.ids = s.store.ids := by
  obtain ⟨-, rfl⟩ | ⟨-, found, hu⟩ := storeChanges_eq_ok h
  · rfl
  · exact updateUser_ids hu

theorem storeNewPassword_ids {old store : Store} {password : Option Text}
    (h : storeNewPassword old v password = .ok store) : store.ids = old.ids := by
  obtain ⟨-, rfl⟩ | ⟨new, hash, found, -, -, hu⟩ := storeNewPassword_eq_ok h
  · rfl
  · exact updatePassword_ids hu

theorem changeUser_grows (data : Json) : s.Grows (s.changeUser v data).1 := by
  obtain hsame | ⟨changes, password, store, -, hchanges, hmade⟩ :=
    changeUser_eq (s := s) (v := v) data
  · rw [hsame]; exact .refl s
  · have hstored := storeChanges_ids hchanges
    obtain hmade | ⟨final, hpassword, hmade⟩ := hmade
    · rw [hmade]; exact .store hstored
    · rw [hmade]; exact .store ((storeNewPassword_ids hpassword).trans hstored)

theorem changePassword_grows : s.Grows (s.changePassword v).1 := by
  cases h : s.changePassword v with
  | mk t reply =>
    rcases changePassword_eq h with rfl | ⟨_, r, password, -, -, -, rfl, -⟩
    · exact .refl _
    · exact .store (ids_reviseUsers (keepsId_revised v.now _) _)

theorem createPost_grows : s.Grows (s.createPost v).1 := by
  refine grows_guarded fun caller => ?_
  split
  · exact .refl s
  · split
    · exact .refl s
    · have hadded := addPost_grows s v.now ‹PostParts›
      split <;> rename_i h <;> rw [h] at hadded <;> exact hadded

theorem updatePost_grows : s.Grows (s.updatePost v).1 := by
  refine grows_guarded fun _ => ?_
  split
  · exact .refl s
  · split
    · exact .refl s
    · split
      · exact .refl s
      · cases h : s.store.updatePost v.key v.now ‹PostChanges› with
        | error f => exact .refl s
        | ok made =>
          obtain ⟨store, found⟩ := made
          cases found with
          | false => exact .refl s
          | true => dsimp only; split <;> exact .store (updatePost_ids h)

theorem restorePost_grows : s.Grows (s.restorePost v).1 := by
  refine grows_guarded fun _ => ?_
  cases h : s.store.restorePost v.key v.now with
  | error f => exact .refl s
  | ok made =>
    obtain ⟨store, found⟩ := made
    cases found with
    | false => exact .refl s
    | true => dsimp only; split <;> exact .store (restorePost_ids h)

theorem createUser_grows : s.Grows (s.createUser v).1 := by
  refine grows_guarded fun _ => ?_
  split
  · exact .refl s
  · split
    · exact .refl s
    · split
      · exact .refl s
      · exact .refl s
      · exact addAccount_grows _

theorem updateUser_grows : s.Grows (s.updateUser v).1 := by
  refine grows_guarded fun _ => ?_
  split
  · exact .refl s
  · split
    · exact .refl s
    · exact .refl s
    · exact changeUser_grows _

theorem deleteUser_grows : s.Grows (s.deleteUser v).1 := by
  refine grows_guarded fun _ => ?_
  split
  · exact .refl s
  · exact grows_of_change fun _ _ => deleteUser_ids

theorem createKey_grows : s.Grows (s.createKey v).1 := by
  refine grows_guarded fun caller => ?_
  split
  · exact .refl s
  · rename_i owner expires _
    have hissued := issueKey_grows s v.now (some owner) expires
    split <;> rename_i h <;> rw [h] at hissued <;> exact hissued

/-- Whatever a handler does, ids are given out once. -/
theorem dispatch_grows (s : Service) (e : Endpoint) (v : Visit) : s.Grows (s.dispatch e v).1 := by
  cases e
  case files | health | version | whoami | listPosts | getPost | login | logout => exact .refl s
  case csrfToken => rw [dispatch, csrfToken]; dsimp only; split <;> exact .of_eq rfl rfl
  case trash | getUser => exact grows_guarded fun _ => by split <;> exact .refl s
  case listUsers | listKeys => exact grows_guarded fun _ => by dsimp only; split <;> exact .refl s
  case changePassword => exact changePassword_grows
  case createPost => exact createPost_grows
  case updatePost => exact updatePost_grows
  case deletePost => exact grows_guarded fun _ => grows_of_change fun _ _ => deletePost_ids
  case restorePost => exact restorePost_grows
  case createUser => exact createUser_grows
  case updateUser => exact updateUser_grows
  case deleteUser => exact deleteUser_grows
  case createKey => exact createKey_grows
  case deleteKey => exact grows_guarded fun _ => grows_of_change fun _ _ => deleteKey_ids

theorem handle_grows (s : Service) (now : Instant) (r : Web.Request) :
    s.Grows (s.handle now r).1 := by
  cases h : s.arrival? now r with
  | none =>
    have hsame := handle_turned_away h
    exact .of_eq (by rw [hsame.fresh]) (by rw [hsame.store])
  | some arrival =>
    obtain ⟨m, e, v⟩ := arrival
    have hsame := arrival?_same h
    have hgrows := dispatch_grows m e v
    rw [(handle_arrived h).1]
    exact ⟨by rw [← hsame.fresh]; exact hgrows.counter,
      by rw [← hsame.fresh, ← hsame.store]; exact hgrows.ids⟩

end Service

/-! ### Calls -/

namespace Call

open Service Store

variable {s : Service} {now : Instant}

theorem change_grows {r : StoreResult (Store × Bool)}
    (h : ∀ t found, r = .ok (t, found) → t.ids = s.store.ids) : s.Grows (change s r).1 := by
  cases r with
  | error f => exact .refl s
  | ok made => exact .store (h made.1 made.2 rfl)

theorem setUp_grows (s : Service) (now : Instant) : s.Grows (s.setUp now).1 := by
  have hcreated : ∀ {t}, s.store.createMissing = .ok t → t.ids = s.store.ids := by
    intro t h
    obtain ⟨schema, rfl⟩ := createMissing_eq_ok h
    rfl
  rw [Service.setUp, Store.setUp]
  cases h : s.store.createMissing with
  | error f => exact .store rfl
  | ok t =>
    have hids := hcreated h
    dsimp only
    by_cases husers : (!t.users.isEmpty) = true
    · rw [if_pos husers]; exact .of_eq rfl hids
    · rw [if_neg husers]
      cases seedUser s.seed with
      | error f => exact .store hids
      | ok data =>
        -- The administrator is the only user, and all other rows were there before.
        refine ⟨Nat.le_succ _, fun id hid => ?_⟩
        rw [← hids]
        simp only [Store.ids, List.map_cons, List.map_nil, List.mem_append,
          List.mem_singleton] at hid ⊢
        rcases hid with rfl | hid
        · exact .inr ⟨rfl, Nat.lt_succ_self _⟩
        · exact .inl (.inr hid)

/-- Whatever a call of the program does, ids are given out once. -/
theorem perform_grows (c : Call) (h : c.routine = true) : s.Grows (c.perform s now).1 := by
  cases c
  case getUser | getUserByEmail | listUsers | countUsers | getPost | findPost | listPosts | countPosts
      | getKey | getKeyByDigest | listKeys | listKeysOf | authenticate | resolveKey | hasPermission
      | describeSchema => exact .refl s
  case dropTable | wipe | setTime | loseStore => cases h
  case createUser n => exact addUser_grows s now n
  case updateUser id given =>
    refine change_grows fun t found h => ?_
    obtain ⟨c, -, h⟩ := bind_eq_ok.1 h
    exact updateUser_ids h
  case updatePassword => exact change_grows fun _ _ => updatePassword_ids
  case deleteUser => exact change_grows fun _ _ => deleteUser_ids
  case restoreUser => exact change_grows fun _ _ => restoreUser_ids
  case createPost n => exact addPost_grows s now n
  case updatePost id given =>
    refine change_grows fun t found h => ?_
    obtain ⟨c, -, h⟩ := bind_eq_ok.1 h
    exact updatePost_ids h
  case deletePost => exact change_grows fun _ _ => deletePost_ids
  case restorePost => exact change_grows fun _ _ => restorePost_ids
  case createKey n => exact addKey_grows s now n
  case deleteKey => exact change_grows fun _ _ => deleteKey_ids
  case issueKey owner expires => exact issueKey_grows s now owner expires
  case registerPermission name => rw [perform]; split <;> exact .of_eq rfl rfl
  case setUp =>
    have hgrows := setUp_grows s now
    rw [perform]
    split <;> rename_i h <;> rw [h] at hgrows <;> exact hgrows

end Call

namespace Service

variable {s t : Service}

theorem Step.grows (h : s.Step t) : s.Grows t := by
  cases h with
  | request now r _ => exact handle_grows s now r
  | call now c _ hc => exact Call.perform_grows c hc
  | counted m h => exact .of_eq (by rw [h.fresh]) (by rw [h.store])

theorem Reaches.issued (h : s.Reaches t) (hs : s.Issued) : t.Issued := by
  induction h with
  | refl => exact hs
  | tail _ step ih => exact ih.grows step.grows

/-- A service before its store is set up. -/
def unready (policy : Policy) (settings : Settings) (platform : String) : Service where
  policy := policy
  seed := ⟨settings.adminEmail, settings.adminPassword⟩
  platform := platform
  store := .blank
  registry := Registry.initial.ensureAll [viewPosts, editPosts]
  fresh := .none
  limiter := []

/-- A service that has started has given out the id of its administrator. -/
theorem start_issued {policy : Policy} {settings : Settings} {platform : String} {now : Instant}
    (h : start policy settings platform now = .ok s) : s.Issued := by
  rw [start] at h
  split at h
  · cases h
  · rename_i service hsetup
    cases h
    have hgrows := Call.setUp_grows (unready policy settings platform) now
    rw [unready, hsetup] at hgrows
    exact Issued.grows (fun _ hid => (List.not_mem_nil hid).elim) hgrows

end Service

end Pressroom
