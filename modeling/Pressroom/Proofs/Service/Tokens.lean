import Pressroom.Proofs.Access.Administrator
import Pressroom.Proofs.Access.TokenOwner
import Pressroom.Proofs.Service.Issued

/-!
The tokens that have been given out. Handlers issue keys by the tokens that are numbered, one after the
other, and never change the digest of a key. So as long as a service only gets requests, every digest
in the table of keys is that of a token with a number up to the counter, and the next token is new to
the table if no earlier one has its digest.
-/
namespace Pressroom

open Web

namespace Service

open Store

variable {s t : Service} {v : Visit}

/-- Every key has the digest of a token that has been given out. -/
def TokensIssued (s : Service) : Prop :=
  ∀ k ∈ s.store.keys, ∃ n, 1 ≤ n ∧ n ≤ s.fresh.tokens ∧
    k.data.digest = some (Account.tokenDigest (Fresh.tokenText n))

/-- No token that has been given out has the digest of the one that comes next. -/
def DigestNew (s : Service) : Prop :=
  ∀ n, 1 ≤ n → n ≤ s.fresh.tokens →
    Account.tokenDigest (Fresh.tokenText n) ≠ Account.tokenDigest s.fresh.nextToken

/-- Then the table has no key with that digest. -/
theorem TokensIssued.digestTaken (h : s.TokensIssued) (hnew : s.DigestNew) :
    s.store.digestTaken (some (Account.tokenDigest s.fresh.nextToken)) = false := by
  simp only [Store.digestTaken, List.any_eq_false, beq_iff_eq]
  intro k hk hsame
  obtain ⟨n, hpos, hn, hdigest⟩ := h k hk
  rw [hdigest] at hsame
  exact hnew n hpos hn (Option.some.inj hsame)

/-- The counter does not go back, and every key has a digest that was there before or that of the
token that came next and is used up. -/
structure Mints (s t : Service) : Prop where
  counter : s.fresh.tokens ≤ t.fresh.tokens
  keys : ∀ k ∈ t.store.keys, (∃ old ∈ s.store.keys, old.data = k.data) ∨
    k.data.digest = some (Account.tokenDigest s.fresh.nextToken) ∧ s.fresh.tokens < t.fresh.tokens

theorem Mints.of_keys (hcounter : s.fresh.tokens ≤ t.fresh.tokens)
    (hkeys : t.store.keys = s.store.keys) : s.Mints t :=
  ⟨hcounter, fun k hk => .inl ⟨k, hkeys ▸ hk, rfl⟩⟩

theorem TokensIssued.mints (h : s.TokensIssued) (m : s.Mints t) : t.TokensIssued := by
  intro k hk
  rcases m.keys k hk with ⟨old, hold, hdata⟩ | ⟨hdigest, hlt⟩
  · obtain ⟨n, hpos, hn, hdigest⟩ := h old hold
    exact ⟨n, hpos, hn.trans m.counter, by rw [← hdata, hdigest]⟩
  · exact ⟨s.fresh.tokens + 1, Nat.le_add_left 1 _, hlt, hdigest⟩

/-! ### Handlers -/

theorem addUser_tokens (s : Service) (now : Instant) (n : NewUser) :
    (s.addUser now n).1.fresh.tokens = s.fresh.tokens := by
  rw [addUser]; split <;> rfl

theorem addPost_tokens (s : Service) (now : Instant) (n : PostParts) :
    (s.addPost now n).1.fresh.tokens = s.fresh.tokens := by
  rw [addPost]; split <;> rfl

theorem addAccount_tokens (a : NewAccount) :
    (s.addAccount v a).1.fresh.tokens = s.fresh.tokens := by
  rw [addAccount]
  cases Password.hash a.password with
  | error f => rfl
  | ok hash =>
    have hadded := addUser_tokens s v.now
      ⟨some a.fullname, some a.email, some (Text.ofString hash), some a.permissions⟩
    dsimp only
    split <;> rename_i h <;> rw [h] at hadded <;> exact hadded

theorem changeUser_tokens (data : Json) :
    (s.changeUser v data).1.fresh.tokens = s.fresh.tokens := by
  obtain hsame | ⟨_, _, store, -, -, hmade | ⟨final, -, hmade⟩⟩ :=
    changeUser_eq (s := s) (v := v) data
  · rw [hsame]
  · rw [hmade]
  · rw [hmade]

/-- Only the handler that issues keys uses up tokens. -/
theorem dispatch_tokens {e : Endpoint} (he : e ≠ .createKey) :
    (s.dispatch e v).1.fresh.tokens = s.fresh.tokens := by
  have guarded : ∀ {permission action},
      (∀ caller, (action caller).1.fresh.tokens = s.fresh.tokens) →
      (s.guarded v permission action).1.fresh.tokens = s.fresh.tokens := fun hact =>
    guarded_cases (motive := fun r => r.1.fresh.tokens = s.fresh.tokens) (fun _ _ => rfl)
      fun c _ => hact c
  cases e
  case files | health | version | whoami | listPosts | getPost | login | logout => rfl
  case csrfToken => rw [dispatch, csrfToken]; dsimp only; split <;> rfl
  case changePassword =>
    cases h : s.changePassword v with
    | mk t reply =>
      rw [dispatch, h]
      rcases changePassword_eq h with rfl | ⟨_, r, password, -, -, -, rfl, -⟩ <;> rfl
  case createPost =>
    refine guarded fun caller => ?_
    split
    · rfl
    · split
      · rfl
      · have hadded := addPost_tokens s v.now ‹PostParts›
        split <;> rename_i h <;> rw [h] at hadded <;> exact hadded
  case createUser =>
    refine guarded fun _ => ?_
    repeat' split
    · rfl
    · rfl
    · rfl
    · rfl
    · exact addAccount_tokens _
  case updateUser =>
    refine guarded fun _ => ?_
    repeat' split
    · rfl
    · rfl
    · rfl
    · exact changeUser_tokens _
  case createKey => exact absurd rfl he
  case trash | getUser | updatePost | deletePost | restorePost | deleteUser | deleteKey =>
    refine guarded fun _ => ?_
    repeat' split
    all_goals rfl
  case listUsers | listKeys => exact guarded fun _ => by dsimp only; split <;> rfl

theorem createKey_mints : s.Mints (s.createKey v).1 := by
  refine guarded_cases (motive := fun r => s.Mints r.1) (fun _ _ => .of_keys le_rfl rfl)
    fun caller _ => ?_
  split
  · exact .of_keys le_rfl rfl
  · rename_i owner expires _
    cases h : s.issueKey v.now (some owner) expires with
    | mk t made =>
      cases made with
      | error f =>
        rw [issueKey] at h
        split at h <;> cases h
        exact .of_keys (Nat.le_succ _) rfl
      | ok issued =>
        obtain ⟨key, token⟩ := issued
        have hcounter : t.fresh.tokens = s.fresh.tokens + 1 := by
          rw [issueKey] at h
          split at h <;> cases h
          rfl
        obtain ⟨rfl, data, hdigest, -, -, -, -, hstore, -⟩ := issueKey_eq_ok h
        refine ⟨hcounter ▸ Nat.le_succ _, fun k hk => ?_⟩
        dsimp only at hk ⊢
        rw [hstore] at hk
        rcases List.mem_append.1 hk with hk | hk
        · exact .inl ⟨k, hk, rfl⟩
        · rw [List.mem_singleton.1 hk]
          exact .inr ⟨hdigest, hcounter ▸ Nat.lt_succ_self _⟩

/-- Deleting a key changes the data of none. -/
theorem deleteKey_data {store : Store} {id : Text} {now : Instant} {found : Bool}
    (h : s.store.deleteKey id now = .ok (store, found)) :
    ∀ k ∈ store.keys, ∃ old ∈ s.store.keys, old.data = k.data := by
  obtain ⟨rfl, -⟩ | ⟨-, r, -, -, rfl⟩ := deleteKey_eq_ok h
  · exact fun k hk => ⟨k, hk, rfl⟩
  · intro k hk
    obtain ⟨old, hold, rfl⟩ := List.mem_map.1 hk
    refine ⟨old, hold, ?_⟩
    split <;> rfl

theorem dispatch_mints (s : Service) (e : Endpoint) (v : Visit) : s.Mints (s.dispatch e v).1 := by
  by_cases hcreate : e = .createKey
  · rw [hcreate]; exact createKey_mints
  · have hcounter := (dispatch_tokens (s := s) (v := v) hcreate).ge
    by_cases hkind : e.kind = .apiKey
    · refine ⟨hcounter, fun k hk => .inl ?_⟩
      have hdelete : e = .deleteKey := by cases e <;> first | rfl | exact absurd rfl hcreate | cases hkind
      rw [hdelete] at hk
      revert k
      refine guarded_cases (motive := fun r => ∀ k ∈ r.1.store.keys, ∃ old ∈ s.store.keys,
        old.data = k.data) (fun _ _ k hk => ⟨k, hk, rfl⟩) fun _ _ => ?_
      split
      · exact fun k hk => ⟨k, hk, rfl⟩
      · exact fun k hk => ⟨k, hk, rfl⟩
      · rename_i h; exact deleteKey_data h
    · exact .of_keys hcounter (dispatch_rows_of_ne (k := .apiKey) (Ne.symm hkind))

/-! ### Requests -/

theorem handle_mints (s : Service) (now : Instant) (r : Request) : s.Mints (s.handle now r).1 := by
  cases h : s.arrival? now r with
  | none =>
    have hsame := handle_turned_away h
    exact .of_keys (by rw [hsame.fresh]) (by rw [hsame.store])
  | some arrival =>
    obtain ⟨m, e, v⟩ := arrival
    have hsame := arrival?_same h
    have hmints := dispatch_mints m e v
    rw [(handle_arrived h).1]
    exact ⟨by rw [← hsame.fresh]; exact hmints.counter,
      by rw [← hsame.fresh, ← hsame.store]; exact hmints.keys⟩

/-- Requests only issue tokens that come next. -/
theorem TokensIssued.handleAll (h : s.TokensIssued) (requests : List (Instant × Request)) :
    (s.handleAll requests).TokensIssued := by
  induction requests generalizing s with
  | nil => exact h
  | cons p rest ih => exact ih (h.mints (handle_mints s p.1 p.2))

end Service

end Pressroom
