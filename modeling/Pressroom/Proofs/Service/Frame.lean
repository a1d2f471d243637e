import Pressroom.Proofs.Service.Effect

/-!
What a handler leaves alone. Whatever a handler does, it changes the store and uses up what is new
each time, and touches nothing else of the service.
-/
namespace Pressroom

open Web

namespace Service

variable {s : Service} {v : Visit}

/-- The second service differs from the first in its store and in what has been given out at most. -/
def OnlyStores (s t : Service) : Prop := t = { s with store := t.store, fresh := t.fresh }

theorem OnlyStores.registry {t : Service} (h : s.OnlyStores t) : t.registry = s.registry :=
  (congrArg Service.registry h : t.registry = _)

theorem OnlyStores.trans {t u : Service} (h : s.OnlyStores t) (h' : t.OnlyStores u) :
    s.OnlyStores u := by
  rw [OnlyStores] at h h' ⊢
  rw [h', h]

theorem onlyStores_guarded {permission : String} {action : Caller → Service × Reply}
    (h : ∀ caller, s.OnlyStores (action caller).1) :
    s.OnlyStores (s.guarded v permission action).1 :=
  guarded_cases (motive := fun r => s.OnlyStores r.1) (fun _ _ => rfl) fun c _ => h c

theorem onlyStores_addUser (now : Instant) (n : NewUser) : s.OnlyStores (s.addUser now n).1 := by
  rw [addUser]; split <;> exact rfl

theorem onlyStores_addPost (now : Instant) (n : PostParts) :
    s.OnlyStores (s.addPost now n).1 := by
  rw [addPost]; split <;> exact rfl

theorem onlyStores_issueKey (now : Instant) (owner : Option Text) (expires : Option Int) :
    s.OnlyStores (s.issueKey now owner expires).1 := by
  rw [issueKey]; split <;> exact rfl

theorem onlyStores_addAccount (a : NewAccount) : s.OnlyStores (s.addAccount v a).1 := by
  rw [addAccount]
  cases Password.hash a.password with
  | error f => exact rfl
  | ok hash =>
    have hadded := onlyStores_addUser (s := s) v.now
      ⟨some a.fullname, some a.email, some (Text.ofString hash), some a.permissions⟩
    dsimp only
    split <;> rename_i h <;> rw [h] at hadded <;> exact hadded

theorem onlyStores_changeUser (data : Json) : s.OnlyStores (s.changeUser v data).1 := by
  rw [changeUser]
  split
  · exact rfl
  · split
    · exact rfl
    · dsimp only
      split
      · exact rfl
      · split <;> exact rfl

/-- No handler touches what the service insists on, what it has counted, or its registry. -/
theorem dispatch_onlyStores (s : Service) (e : Endpoint) (v : Visit) :
    s.OnlyStores (s.dispatch e v).1 := by
  cases e
  case files | health | version | whoami | listPosts | getPost | login | logout => exact rfl
  case csrfToken => rw [dispatch, csrfToken]; dsimp only; split <;> exact rfl
  case changePassword =>
    cases h : s.changePassword v with
    | mk t reply =>
      rw [dispatch, h]
      rcases changePassword_eq h with rfl | ⟨_, r, password, -, -, -, rfl, -⟩ <;> exact rfl
  case trash => exact onlyStores_guarded fun _ => by split <;> exact rfl
  case createPost =>
    refine onlyStores_guarded fun caller => ?_
    split
    · exact rfl
    · split
      · exact rfl
      · have hadded := onlyStores_addPost (s := s) v.now ‹PostParts›
        split <;> rename_i h <;> rw [h] at hadded <;> exact hadded
  case updatePost =>
    refine onlyStores_guarded fun _ => ?_
    repeat' split
    all_goals exact rfl
  case deletePost => exact onlyStores_guarded fun _ => by split <;> exact rfl
  case restorePost =>
    refine onlyStores_guarded fun _ => ?_
    repeat' split
    all_goals exact rfl
  case listUsers => exact onlyStores_guarded fun _ => by dsimp only; split <;> exact rfl
  case getUser => exact onlyStores_guarded fun _ => by split <;> exact rfl
  case createUser =>
    refine onlyStores_guarded fun _ => ?_
    split
    · exact rfl
    · split
      · exact rfl
      · split
        · exact rfl
        · exact rfl
        · exact onlyStores_addAccount _
  case updateUser =>
    refine onlyStores_guarded fun _ => ?_
    repeat' split
    · exact rfl
    · exact rfl
    · exact rfl
    · exact onlyStores_changeUser _
  case deleteUser =>
    refine onlyStores_guarded fun _ => ?_
    repeat' split
    all_goals exact rfl
  case listKeys => exact onlyStores_guarded fun _ => by dsimp only; split <;> exact rfl
  case createKey =>
    refine onlyStores_guarded fun caller => ?_
    split
    · exact rfl
    · rename_i owner expires _
      have hissued := onlyStores_issueKey (s := s) v.now (some owner) expires
      split <;> rename_i h <;> rw [h] at hissued <;> exact hissued
  case deleteKey => exact onlyStores_guarded fun _ => by split <;> exact rfl

end Service

end Pressroom
